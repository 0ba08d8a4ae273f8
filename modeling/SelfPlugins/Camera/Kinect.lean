import SelfPlugins.Camera.Duty
import SelfPlugins.Library.Ledger
import SelfPlugins.Library.Runs

/-!
# The Kinect cameras

`KinectCamera` and `KinectDepthCamera` differ in the stream they open.  They
share one sensor: `GrabKinect` hands it out, after looking for a sensor that
can be initialised where there is none yet, and `FreeKinect` takes it back.
Any number of cameras of both classes run in one process.  What the hardware
answers is part of the calls; sensors and event handles are numbered in the
order of their creation.
-/

namespace SelfPlugins.Camera

/-- What the hardware says to the sensor at one index:
`NuiCreateSensorByIndex` fails, `NuiStatus` is not `S_OK`, `NuiInitialize`
fails, or the sensor is ready. -/
inductive Probe
  | notCreated
  | notConnected
  | notInitialized
  | ready
deriving DecidableEq

/-- The outcome of the calls an opening makes: the sensors
`NuiGetSensorCount` counts, unless it fails; whether `CreateEvent` gives a
handle; whether `NuiImageStreamOpen` succeeds. -/
structure Hardware where
  sensors : Option (List Probe)
  event : Bool
  stream : Bool
deriving DecidableEq

/-- The stream a camera opens: that of `KinectCamera`, or that of
`KinectDepthCamera` with its near mode. -/
inductive ImageStream
  | color
  | depth (m_bNearMode : Bool)
deriving DecidableEq

/-- What the cameras share: the static members of `KinectCamera`, and the
sensors and event handles of the system.  `initialized` and `shutdowns` record
the calls of `NuiInitialize` that succeeded and those of `NuiShutdown`; the
releases are the disposals of the ledger `sensors`. -/
structure Host where
  sm_pSharedSensor : Option ℕ := none
  sm_nSharedSensorCount : BitVec 32 := 0
  sensors : Ledger := {}
  initialized : List ℕ := []
  shutdowns : List ℕ := []
  streams : List (ℕ × ImageStream) := []
  handles : Ledger := {}
deriving DecidableEq

namespace Host

/-- A sensor that was created, found unusable, and released. -/
def discard (h : Host) : Host :=
  { h with sensors := h.sensors.create.dispose h.sensors.created }

/-- A sensor that was created, is connected and has been initialised. -/
def share (h : Host) : Host :=
  { h with
    sm_pSharedSensor := some h.sensors.created
    sensors := h.sensors.create
    initialized := h.sensors.created :: h.initialized }

/-- The loop of `GrabKinect` over the sensors. -/
def probe : List Probe → Host → Host
  | [], h => h
  | .notCreated :: ps, h => probe ps h
  | .notConnected :: ps, h => probe ps h.discard
  | .notInitialized :: ps, h => probe ps h.discard
  | .ready :: _, h => h.share

/-- The first half of `GrabKinect`. -/
def findSensor (sensors : Option (List Probe)) (h : Host) : Host :=
  if h.sm_pSharedSensor = none then
    match sensors with
    | none => h
    | some ps => probe ps h
  else h

/-- `GrabKinect`; its result is the shared sensor afterwards. -/
def grabKinect (sensors : Option (List Probe)) (h : Host) : Host :=
  { findSensor sensors h with
    sm_nSharedSensorCount := (findSensor sensors h).sm_nSharedSensorCount + 1 }

/-- The branch of `FreeKinect` for the last holder. -/
def shutdown (sensor : ℕ) (h : Host) : Host :=
  { h with
    sm_pSharedSensor := none
    shutdowns := sensor :: h.shutdowns
    sensors := h.sensors.dispose sensor }

/-- `FreeKinect`, which is never called without a sensor. -/
def freeKinect (a_pSensor : ℕ) (h : Host) : Host :=
  if h.sm_pSharedSensor = some a_pSensor then
    if h.sm_nSharedSensorCount - 1 = 0 then
      { h.shutdown a_pSensor with
        sm_nSharedSensorCount := h.sm_nSharedSensorCount - 1 }
    else { h with sm_nSharedSensorCount := h.sm_nSharedSensorCount - 1 }
  else h

/-- `CreateEvent` -/
def createEvent (event : Bool) (h : Host) : Option ℕ × Host :=
  if event then
    (some h.handles.created, { h with handles := h.handles.create })
  else (none, h)

/-- `CloseHandle` -/
def closeHandle (handle : ℕ) (h : Host) : Host :=
  { h with handles := h.handles.dispose handle }

/-- `NuiImageStreamOpen`, and for the depth stream
`NuiImageStreamSetImageFrameFlags`. -/
def openStream (sensor : ℕ) (stream : ImageStream) (h : Host) : Host :=
  { h with streams := (sensor, stream) :: h.streams }

end Host

/-- A `KinectCamera` or a `KinectDepthCamera`.  `attempt` is whether the last
attempt to open the device succeeded; `grabs` and `frees` count the sensors the
camera was handed and gave back. -/
structure Kinect extends Duty where
  stream : ImageStream
  m_pSensor : Option ℕ := none
  m_spWaitTimer : Bool := false
  m_hImageStreamEvent : Option ℕ := none
  attempt : Bool := false
  grabs : ℕ := 0
  frees : ℕ := 0
deriving DecidableEq

/-- The constructor `KinectCamera()`. -/
def KinectCamera : Kinect := { stream := .color }

/-- The constructor `KinectDepthCamera()`, with the near mode its
configuration gives. -/
def KinectDepthCamera (m_bNearMode : Bool) : Kinect :=
  { stream := .depth m_bNearMode }

/-- A camera of the class that opens the stream. -/
def ImageStream.construct : ImageStream → Kinect
  | .color => KinectCamera
  | .depth m_bNearMode => KinectDepthCamera m_bNearMode

namespace Kinect

/-- `OnStart` with a sensor: an event handle is created and the stream is
opened; when that fails the sensor is given back. -/
def openStream (hw : Hardware) (sensor : ℕ) (c : Kinect) (h : Host) :
    Kinect × Host :=
  let (event, h) := h.createEvent hw.event
  if hw.stream then
    ({ c with
        m_pSensor := some sensor
        m_hImageStreamEvent := event
        m_spWaitTimer := true
        attempt := true
        grabs := c.grabs + 1 },
      h.openStream sensor c.stream)
  else
    ({ c with
        m_pSensor := none
        m_hImageStreamEvent := event
        attempt := false
        grabs := c.grabs + 1
        frees := c.frees + 1 },
      h.freeKinect sensor)

/-- The body of `OnStart`. -/
def grab (hw : Hardware) (c : Kinect) (h : Host) : Kinect × Host :=
  match (h.grabKinect hw.sensors).sm_pSharedSensor with
  | none => ({ c with m_pSensor := none, attempt := false },
      h.grabKinect hw.sensors)
  | some sensor => c.openStream hw sensor (h.grabKinect hw.sensors)

/-- The end of `OnStop`: the sensor is given back. -/
def free (c : Kinect) (h : Host) : Kinect × Host :=
  match c.m_pSensor with
  | none => (c, h)
  | some sensor =>
      ({ c with m_pSensor := none, frees := c.frees + 1 }, h.freeKinect sensor)

/-- `OnStop` -/
def onStop (c : Kinect) (h : Host) : Kinect × Host :=
  match c.m_hImageStreamEvent with
  | none => { c with m_spWaitTimer := false }.free h
  | some handle =>
      { c with m_spWaitTimer := false, m_hImageStreamEvent := none }.free
        (h.closeHandle handle)

/-- The two classes as devices. -/
def device : Device (Kinect × Host) Hardware where
  duty r := r.1.toDuty
  setDuty d r := ({ r.1 with toDuty := d }, r.2)
  start hw r := r.1.grab hw r.2
  stop r := r.1.onStop r.2
  duty_setDuty _ _ := rfl
  setDuty_duty _ := rfl
  stop_setDuty := fun d ⟨⟨_, _, m_pSensor, _, m_hImageStreamEvent, _, _, _⟩, h⟩ => by
    cases m_hImageStreamEvent with
    | none => cases m_pSensor <;> rfl
    | some handle => cases m_pSensor <;> rfl

/-- `OnStart` -/
def onStart (hw : Hardware) (c : Kinect) (h : Host) : Kinect × Host :=
  device.onStart hw (c, h)

/-- `OnPause` -/
def onPause (c : Kinect) (h : Host) : Kinect × Host := device.onPause (c, h)

/-- `OnResume` -/
def onResume (hw : Hardware) (c : Kinect) (h : Host) : Kinect × Host :=
  device.onResume hw (c, h)

/-- One call of a camera. -/
def call (c : Kinect) (h : Host) (e : Call Hardware) : Kinect × Host :=
  device.call (c, h) e

end Kinect

/-- A process with its Kinect cameras. -/
structure Kinects where
  host : Host := {}
  cameras : List Kinect
deriving DecidableEq

namespace Kinects

/-- The state after a call of the camera at index `i` that ended in `r`. -/
def update (s : Kinects) (i : ℕ) (r : Kinect × Host) : Kinects :=
  { host := r.2, cameras := s.cameras.set i r.1 }

/-- One call of the camera at an index.  Calls that break the law of starts
and stops, pauses and resumes are not possible. -/
def step (s : Kinects) (e : ℕ × Call Hardware) : Option Kinects :=
  s.cameras[e.1]?.bind fun c =>
    if c.permits e.2 then some (s.update e.1 (c.call s.host e.2)) else none

/-- A process whose cameras have just been constructed. -/
def new (streams : List ImageStream) : Kinects :=
  { cameras := streams.map ImageStream.construct }

/-- What a step does: a camera, permitted to receive the call, opens its
device, closes it, or changes its duty only. -/
theorem step_cases {s t : Kinects} {e : ℕ × Call Hardware}
    (ht : s.step e = some t) :
    ∃ c, s.cameras[e.1]? = some c ∧ c.permits e.2 = true ∧
      ((∃ hw, c.opens e.2 = some hw ∧
          t = s.update e.1 ({ c with toDuty := c.next e.2 }.grab hw s.host)) ∨
        (c.opens e.2 = none ∧ c.closes e.2 = true ∧
          t = s.update e.1 ({ c with toDuty := c.next e.2 }.onStop s.host)) ∨
        (c.opens e.2 = none ∧ c.closes e.2 = false ∧
          t = s.update e.1 ({ c with toDuty := c.next e.2 }, s.host))) := by
  obtain ⟨c, hc, ht⟩ := Option.bind_eq_some_iff.mp ht
  obtain ⟨hpermits, ht⟩ := Option.ite_none_right_eq_some.mp ht
  obtain rfl := Option.some.inj ht
  refine ⟨c, hc, hpermits, ?_⟩
  rcases Kinect.device.call_cases (c, s.host) e.2 with
    ⟨hw, hopens, heq⟩ | ⟨hopens, hcloses, heq⟩ | ⟨hopens, hcloses, heq⟩
  · exact Or.inl ⟨hw, hopens, congrArg (s.update e.1) heq⟩
  · exact Or.inr (Or.inl ⟨hopens, hcloses, congrArg (s.update e.1) heq⟩)
  · exact Or.inr (Or.inr ⟨hopens, hcloses, congrArg (s.update e.1) heq⟩)

end Kinects

end SelfPlugins.Camera
