import SelfPlugins.Camera.Duty
import SelfPlugins.Library.Ledger
import SelfPlugins.Library.Runs

/-!
# The OpenCV camera

`OpenCVCamera` keeps a `cv::VideoCapture` object between `OnStart` and `OnStop`
and a timer that reads frames from it when the object has opened its device.
`OnPause` and `OnResume` call `OnStop` and `OnStart`, which do not know whether
the camera has been started; `captures_iff` says that the camera is right
throughout a run iff no resumption opens it outside `OnStart` and `OnStop`.
-/

namespace SelfPlugins.Camera

open Runs

/-- What a `cv::VideoCapture` is made for: a stream or a device number. -/
inductive Source
  | stream (name : String)
  | device (number : ℤ)
deriving DecidableEq

/-- A `cv::VideoCapture` object; the objects are numbered. -/
structure VideoCapture where
  number : ℕ
  source : Source
  isOpened : Bool
deriving DecidableEq

/-- An `OpenCVCamera`.  `attempt` is whether the last attempt to open the
device succeeded, `objects` the account of its `cv::VideoCapture` objects. -/
structure OpenCV extends Duty where
  m_CameraStream : String := ""
  m_CameraDevice : ℤ := 0
  m_VideoCapture : Option VideoCapture := none
  m_spWaitTimer : Bool := false
  attempt : Bool := false
  objects : Ledger := {}
deriving DecidableEq

namespace OpenCV

/-- The source `OnStart` chooses. -/
def source (c : OpenCV) : Source :=
  if 0 < c.m_CameraStream.length then .stream c.m_CameraStream
  else .device c.m_CameraDevice

/-- The body of `OnStart`: a new object, and a timer if it is opened. -/
def capture (isOpened : Bool) (c : OpenCV) : OpenCV :=
  { c with
    m_VideoCapture := some ⟨c.objects.created, c.source, isOpened⟩
    m_spWaitTimer := isOpened || c.m_spWaitTimer
    attempt := isOpened
    objects := c.objects.create }

/-- `OnStop` -/
def onStop (c : OpenCV) : OpenCV :=
  match c.m_VideoCapture with
  | none => { c with m_spWaitTimer := false }
  | some v =>
      { c with
        m_spWaitTimer := false
        m_VideoCapture := none
        objects := c.objects.dispose v.number }

/-- The class as a device. -/
def device : Device OpenCV Bool where
  duty := OpenCV.toDuty
  setDuty d c := { c with toDuty := d }
  start := OpenCV.capture
  stop := OpenCV.onStop
  duty_setDuty _ _ := rfl
  setDuty_duty _ := rfl
  stop_setDuty := fun d ⟨_, _, _, m_VideoCapture, _, _, _⟩ => by
    cases m_VideoCapture with
    | none => rfl
    | some v => rfl

/-- `OnStart` -/
def onStart (isOpened : Bool) (c : OpenCV) : OpenCV := device.onStart isOpened c

/-- `OnPause` -/
def onPause (c : OpenCV) : OpenCV := device.onPause c

/-- `OnResume` -/
def onResume (isOpened : Bool) (c : OpenCV) : OpenCV :=
  device.onResume isOpened c

/-- One call. -/
def call (c : OpenCV) (e : Call Bool) : OpenCV := device.call c e

/-- One call that keeps the law of starts and stops, pauses and resumes. -/
def step (c : OpenCV) (e : Call Bool) : Option OpenCV :=
  if c.permits e then some (c.call e) else none

/-! ## The law -/

/-- The object with the number is there. -/
def keeps (c : OpenCV) (k : ℕ) : ℕ :=
  if c.m_VideoCapture.map VideoCapture.number = some k then 1 else 0

/-- The capture state law: the device is held and the timer armed iff the
camera is to capture and the last attempt to open the device succeeded, each
object but the one kept has been deleted exactly once, and a stopped camera
keeps none. -/
structure Captures (c : OpenCV) : Prop where
  held : (∃ v, c.m_VideoCapture = some v ∧ v.isOpened = true) ↔
    c.active = true ∧ c.attempt = true
  armed : c.m_spWaitTimer = true ↔ c.active = true ∧ c.attempt = true
  objects : c.objects.Accounts c.keeps
  stopped : c.started = false → c.m_VideoCapture = none

/-- The resumption that ends the last pause comes while the camera is
started. -/
def Resumed (c : OpenCV) (e : Call Bool) : Prop :=
  ∀ isOpened, e = .onResume isOpened → c.m_Paused = 1 → c.started = true

/-- The invariant of the runs without such resumptions: a camera that is not to
capture keeps nothing. -/
structure Sound (c : OpenCV) : Prop extends Captures c where
  paused : 0 ≤ c.m_Paused
  idle : c.active = false → c.m_VideoCapture = none

variable {c : OpenCV}

theorem keeps_of_none (h : c.m_VideoCapture = none) (k : ℕ) :
    c.keeps k = 0 := by
  rw [keeps, h]
  exact if_neg nofun

theorem sound_new (m_CameraStream : String) (m_CameraDevice : ℤ) :
    Sound { m_CameraStream, m_CameraDevice } where
  held := iff_of_false (by simp) (by simp [Duty.active])
  armed := iff_of_false Bool.false_ne_true (by simp [Duty.active])
  objects := Ledger.accounts_empty
  stopped _ := rfl
  paused := Int.le_refl 0
  idle _ := rfl

/-- Opening the device of a camera that keeps nothing and is now to
capture. -/
theorem Sound.capture (h : Sound c) (hidle : c.active = false) {d : Duty}
    (hd : d.active = true) (isOpened : Bool) :
    Sound ({ c with toDuty := d }.capture isOpened) := by
  have hnone := h.idle hidle
  have htimer : c.m_spWaitTimer = false := by
    have := h.armed
    rw [hidle] at this
    simpa using this
  obtain ⟨hstarted, hpaused⟩ := Duty.active_iff.mp hd
  have hb : ({ c with toDuty := d }.capture isOpened).active = true := hd
  refine ⟨⟨?_, ?_, ?_, ?_⟩, ?_, ?_⟩
  · rw [hb]
    simp [OpenCV.capture]
  · rw [hb]
    simp [OpenCV.capture, htimer]
  · refine h.objects.create fun k => ?_
    rw [keeps_of_none hnone]
    simp [keeps, OpenCV.capture, eq_comm]
  · intro hstopped
    rw [show d.started = false from hstopped] at hstarted
    cases hstarted
  · exact Int.le_of_eq hpaused.symm
  · intro hinactive
    rw [hb] at hinactive
    cases hinactive

theorem onStop_spec (c : OpenCV) :
    c.onStop.m_VideoCapture = none ∧ c.onStop.m_spWaitTimer = false ∧
      c.onStop.toDuty = c.toDuty := by
  obtain ⟨_, _, _, m_VideoCapture, _, _, _⟩ := c
  cases m_VideoCapture with
  | none => exact ⟨rfl, rfl, rfl⟩
  | some v => exact ⟨rfl, rfl, rfl⟩

/-- `OnStop` deletes the object it takes from the camera. -/
theorem accounts_onStop (h : c.objects.Accounts c.keeps) :
    c.onStop.objects.Accounts c.onStop.keeps := by
  obtain ⟨_, _, _, m_VideoCapture, _, _, objects⟩ := c
  cases m_VideoCapture with
  | none => exact h
  | some v =>
      refine h.dispose fun k => ?_
      simp [keeps, OpenCV.onStop, eq_comm]

/-- Closing the device. -/
theorem Sound.onStop (h : Sound c) {d : Duty} (hd : d.active = false)
    (hpaused : 0 ≤ d.m_Paused) : Sound { c with toDuty := d }.onStop := by
  obtain ⟨hnone, htimer, hduty⟩ := onStop_spec { c with toDuty := d }
  have hb : ({ c with toDuty := d }.onStop).active = false := by
    rw [hduty]
    exact hd
  refine ⟨⟨?_, ?_, ?_, fun _ => hnone⟩, ?_, fun _ => hnone⟩
  · rw [hb, hnone]
    simp
  · rw [hb, htimer]
    simp
  · exact accounts_onStop (c := { c with toDuty := d }) h.objects
  · rw [hduty]
    exact hpaused

/-- A call that neither opens nor closes the device. -/
theorem Sound.duty (h : Sound c) (hidle : c.active = false) {d : Duty}
    (hd : d.active = false) (hpaused : 0 ≤ d.m_Paused) :
    Sound { c with toDuty := d } := by
  have hnone := h.idle hidle
  refine ⟨⟨?_, ?_, h.objects, fun _ => hnone⟩, hpaused, fun _ => hnone⟩
  · rw [hd, hnone]
    simp
  · have := h.armed
    rw [hidle] at this
    rw [hd]
    exact this

theorem Sound.step {c' : OpenCV} {e : Call Bool} (h : Sound c)
    (hresumed : c.Resumed e) (hstep : c.step e = some c') : Sound c' := by
  obtain ⟨hpermits, hstep⟩ := Option.ite_none_right_eq_some.mp hstep
  obtain rfl := Option.some.inj hstep
  have hpaused := Duty.next_nonneg h.paused hpermits
  rcases device.call_cases c e with
    ⟨isOpened, hopens, heq⟩ | ⟨-, hcloses, heq⟩ | ⟨hopens, hcloses, heq⟩
  · obtain ⟨hidle, hzero, hstarted⟩ := Duty.opens_cases hpermits hopens
    have hactive : (c.next e).active = true := by
      refine Duty.active_iff.mpr ⟨?_, hzero⟩
      rcases hstarted with hstarted | ⟨he, hone, hsame⟩
      · exact hstarted
      · rw [hsame]
        exact hresumed isOpened he hone
    rw [call, heq]
    exact h.capture hidle hactive isOpened
  · rw [call, heq]
    exact h.onStop (Duty.active_of_closes h.paused hcloses) hpaused
  · obtain ⟨hidle, hnext⟩ :=
      Duty.active_of_other h.paused hpermits hopens hcloses
    rw [call, heq]
    exact h.duty hidle hnext hpaused

/-- A resumption while the camera is stopped leaves it with an object. -/
theorem not_captures {c' : OpenCV} {e : Call Bool}
    (hresumed : ¬c.Resumed e) (hstep : c.step e = some c') :
    ¬Captures c' := by
  obtain ⟨-, hstep⟩ := Option.ite_none_right_eq_some.mp hstep
  obtain rfl := Option.some.inj hstep
  unfold Resumed at hresumed
  push Not at hresumed
  obtain ⟨isOpened, rfl, hone, hstopped⟩ := hresumed
  intro hcaptures
  have hzero : c.m_Paused - 1 = 0 := by omega
  have hcall : c.call (.onResume isOpened) =
      { c with m_Paused := c.m_Paused - 1 }.capture isOpened := by
    rw [call, device.call_eq]
    simp [Duty.opens, device, hzero, Duty.next]
  have hnone := hcaptures.stopped
  rw [hcall] at hnone
  exact Option.some_ne_none _ (hnone (Bool.eq_false_iff.mpr hstopped))

/-- The camera captures as it should throughout a run iff each resumption that
ends the last pause comes while it is started. -/
theorem captures_iff (m_CameraStream : String) (m_CameraDevice : ℤ)
    (es : List (Call Bool)) :
    Throughout step Captures { m_CameraStream, m_CameraDevice } es ↔
      EachStep step Resumed { m_CameraStream, m_CameraDevice } es :=
  throughout_iff_eachStep (I := Sound) (L := fun _ _ => True)
    (fun _ h => h.toCaptures) (fun _ _ _ h _ hC ht => h.step hC ht)
    (fun _ _ _ _ _ hC ht => not_captures hC ht)
    (sound_new m_CameraStream m_CameraDevice) (eachStep_true _ es)

end OpenCV

end SelfPlugins.Camera
