import SelfPlugins.Camera.OpenCV
import SelfPlugins.Camera.Sharing

/-!
# The capture state law

A camera is to hold its device and to have its timer armed iff it is started,
not paused, and the last attempt to open the device succeeded.  For the Kinect
cameras the device is the sensor they are handed, and each handle created for
the stream is to be closed once.  As `OnResume` calls `OnStart` whether or not
the camera is started, the law holds throughout a run iff no resumption opens
a device for a stopped camera.
-/

namespace SelfPlugins.Camera

open Runs

/-! ## One Kinect camera -/

namespace Kinect

/-- What the law says of one camera: the sensor is held and the timer armed iff
the camera is to capture and the last attempt succeeded, each sensor it was
handed it gave back once, but for the one it holds, and a stopped camera has no
handle. -/
structure Captures (c : Kinect) : Prop where
  held : c.m_pSensor.isSome = true ↔ c.active = true ∧ c.attempt = true
  armed : c.m_spWaitTimer = true ↔ c.active = true ∧ c.attempt = true
  freed : c.grabs = c.frees + if c.m_pSensor.isSome then 1 else 0
  stopped : c.started = false → c.m_hImageStreamEvent = none

/-- A camera that is not to capture has no handle. -/
structure Sound (c : Kinect) : Prop extends Captures c where
  paused : 0 ≤ c.m_Paused
  idle : c.active = false → c.m_hImageStreamEvent = none

variable {c : Kinect} {hw : Hardware} {h : Host}

theorem Sound.sensor (hs : Sound c) (hidle : c.active = false) :
    c.m_pSensor = none ∧ c.m_spWaitTimer = false ∧ c.grabs = c.frees := by
  have hheld := hs.held
  have harmed := hs.armed
  have hfreed := hs.freed
  rw [hidle] at hheld harmed
  have hnone : c.m_pSensor = none := by simpa using hheld
  rw [hnone] at hfreed
  exact ⟨hnone, by simpa using harmed, hfreed⟩

/-- The results of an opening: no sensor, an open stream, or neither. -/
theorem grab_cases (b : Kinect) (hw : Hardware) (h : Host) :
    (h.available hw.sensors = false ∧
        (b.grab hw h).1 = { b with m_pSensor := none, attempt := false } ∧
        (b.grab hw h).2.handles = h.handles) ∨
      (h.available hw.sensors = true ∧ hw.stream = true ∧
        ∃ k, (b.grab hw h).1 =
            { b with
              m_pSensor := some k
              m_hImageStreamEvent := (h.createEvent hw.event).1
              m_spWaitTimer := true
              attempt := true
              grabs := b.grabs + 1 } ∧
          (b.grab hw h).2.handles = (h.createEvent hw.event).2.handles) ∨
      (h.available hw.sensors = true ∧ hw.stream = false ∧
        (b.grab hw h).1 =
            { b with
              m_pSensor := none
              m_hImageStreamEvent := (h.createEvent hw.event).1
              attempt := false
              grabs := b.grabs + 1
              frees := b.frees + 1 } ∧
          (b.grab hw h).2.handles = (h.createEvent hw.event).2.handles) := by
  have hevent : ((h.grabKinect hw.sensors).createEvent hw.event).1 =
        (h.createEvent hw.event).1 ∧
      ((h.grabKinect hw.sensors).createEvent hw.event).2.handles =
        (h.createEvent hw.event).2.handles := by
    simp only [Host.createEvent, Host.grabKinect_handles]
    split
    · exact ⟨rfl, rfl⟩
    · exact ⟨rfl, Host.grabKinect_handles hw.sensors h⟩
  cases hav : h.available hw.sensors with
  | false =>
      rw [grab_unavailable hav]
      exact Or.inl ⟨rfl, rfl, Host.grabKinect_handles hw.sensors h⟩
  | true =>
      obtain ⟨k, -, heq⟩ := grab_available hav b
      rw [heq]
      cases hstream : hw.stream with
      | true =>
          rw [openStream_pos hstream, hevent.1]
          exact Or.inr (Or.inl ⟨rfl, rfl, k, rfl, hevent.2⟩)
      | false =>
          rw [openStream_neg hstream, hevent.1]
          exact Or.inr (Or.inr ⟨rfl, rfl, rfl,
            (Host.freeKinect_handles _ _).trans hevent.2⟩)

theorem sound_construct (stream : ImageStream) :
    Sound stream.construct := by
  cases stream with
  | color =>
      exact ⟨⟨by decide, by decide, rfl, fun _ => rfl⟩, Int.le_refl 0,
        fun _ => rfl⟩
  | depth m_bNearMode =>
      exact ⟨⟨by simp [ImageStream.construct, KinectDepthCamera, Duty.active],
        by simp [ImageStream.construct, KinectDepthCamera, Duty.active], rfl,
        fun _ => rfl⟩, Int.le_refl 0, fun _ => rfl⟩

/-- Opening the device of a camera that is now to capture. -/
theorem Sound.grab (hs : Sound c) (hidle : c.active = false) {d : Duty}
    (hd : d.active = true) (hw : Hardware) (h : Host) :
    Sound ({ c with toDuty := d }.grab hw h).1 := by
  obtain ⟨hnone, htimer, hfreed⟩ := hs.sensor hidle
  obtain ⟨hstarted, hpaused⟩ := Duty.active_iff.mp hd
  have hnonneg : 0 ≤ d.m_Paused := Int.le_of_eq hpaused.symm
  have hno : ∀ {p : Prop}, d.started = false → p := fun hf => by
    rw [hstarted] at hf
    cases hf
  have hno' : ∀ {p : Prop}, d.active = false → p := fun hf => by
    rw [hd] at hf
    cases hf
  rcases grab_cases { c with toDuty := d } hw h with
    ⟨-, heq, -⟩ | ⟨-, -, k, heq, -⟩ | ⟨-, -, heq, -⟩
  · rw [heq]
    exact ⟨⟨by simp, by simp [htimer], hfreed, hno⟩, hnonneg, hno'⟩
  · rw [heq]
    refine ⟨⟨by simp [hd], by simp [hd], ?_, hno⟩, hnonneg, hno'⟩
    simp [hfreed]
  · rw [heq]
    refine ⟨⟨by simp, by simp [htimer], ?_, hno⟩, hnonneg, hno'⟩
    simp [hfreed]

/-- An opening that leaves nothing behind. -/
theorem Sound.grab_nothing (hs : Sound c) (hidle : c.active = false) {d : Duty}
    (hpaused : 0 ≤ d.m_Paused)
    (hnothing : h.available hw.sensors = true →
      hw.event = false ∧ hw.stream = false) :
    Sound ({ c with toDuty := d }.grab hw h).1 := by
  obtain ⟨hnone, htimer, hfreed⟩ := hs.sensor hidle
  have hevent := hs.idle hidle
  rcases grab_cases { c with toDuty := d } hw h with
    ⟨-, heq, -⟩ | ⟨hav, hstream, -⟩ | ⟨hav, -, heq, -⟩
  · rw [heq]
    exact ⟨⟨by simp, by simp [htimer], hfreed, fun _ => hevent⟩, hpaused,
      fun _ => hevent⟩
  · rw [(hnothing hav).2] at hstream
    cases hstream
  · have hno : (h.createEvent hw.event).1 = none := by
      rw [(hnothing hav).1]
      rfl
    rw [heq, hno]
    refine ⟨⟨by simp, by simp [htimer], ?_, fun _ => rfl⟩, hpaused,
      fun _ => rfl⟩
    simp [hfreed]

theorem onStop_spec (c : Kinect) (h : Host) :
    (c.onStop h).1.m_hImageStreamEvent = none ∧
      (c.onStop h).1.m_spWaitTimer = false ∧
      (c.onStop h).1.toDuty = c.toDuty ∧
      (c.onStop h).1.grabs = c.grabs ∧
      (c.onStop h).1.frees = c.frees + (if c.m_pSensor.isSome then 1 else 0) ∧
      (c.onStop h).2.handles = match c.m_hImageStreamEvent with
        | none => h.handles
        | some k => h.handles.dispose k := by
  obtain ⟨_, _, m_pSensor, _, m_hImageStreamEvent, _, _, _⟩ := c
  cases m_hImageStreamEvent with
  | none =>
      cases m_pSensor with
      | none => exact ⟨rfl, rfl, rfl, rfl, rfl, rfl⟩
      | some k =>
          exact ⟨rfl, rfl, rfl, rfl, rfl, Host.freeKinect_handles k h⟩
  | some handle =>
      cases m_pSensor with
      | none => exact ⟨rfl, rfl, rfl, rfl, rfl, rfl⟩
      | some k =>
          exact ⟨rfl, rfl, rfl, rfl, rfl, Host.freeKinect_handles k _⟩

/-- Closing the device. -/
theorem Sound.onStop (hs : Sound c) {d : Duty} (hd : d.active = false)
    (hpaused : 0 ≤ d.m_Paused) (h : Host) :
    Sound ({ c with toDuty := d }.onStop h).1 := by
  obtain ⟨hevent, htimer, hduty, hgrabs, hfrees, -⟩ :=
    onStop_spec { c with toDuty := d } h
  obtain ⟨hnone, -⟩ := onStop_sensor { c with toDuty := d } h
  have hb : ({ c with toDuty := d }.onStop h).1.active = false := by
    rw [hduty]
    exact hd
  refine ⟨⟨?_, ?_, ?_, fun _ => hevent⟩, ?_, fun _ => hevent⟩
  · rw [hb, hnone]
    simp
  · rw [hb, htimer]
    simp
  · rw [hnone, hgrabs, hfrees]
    exact hs.freed
  · rw [hduty]
    exact hpaused

/-- A call that neither opens nor closes the device. -/
theorem Sound.duty (hs : Sound c) (hidle : c.active = false) {d : Duty}
    (hd : d.active = false) (hpaused : 0 ≤ d.m_Paused) :
    Sound { c with toDuty := d } := by
  have hevent := hs.idle hidle
  have hheld := hs.held
  have harmed := hs.armed
  rw [hidle] at hheld harmed
  exact ⟨⟨by rw [hd]; exact hheld, by rw [hd]; exact harmed, hs.freed,
    fun _ => hevent⟩, hpaused, fun _ => hevent⟩

end Kinect

/-! ## All Kinect cameras of a process -/

namespace Kinects

/-- The cameras that hold the handle. -/
def keeps (s : Kinects) (k : ℕ) : ℕ :=
  s.cameras.countP fun c => decide (c.m_hImageStreamEvent = some k)

/-- The capture state law: every camera keeps it, and each handle is held by
one camera or has been closed once. -/
structure Captures (s : Kinects) : Prop where
  cameras : ∀ c ∈ s.cameras, c.Captures
  handles : s.host.handles.Accounts s.keeps

/-- The invariant of the runs in which no stopped camera opens its device. -/
structure Sound (s : Kinects) : Prop where
  cameras : ∀ c ∈ s.cameras, c.Sound
  handles : s.host.handles.Accounts s.keeps

/-- The resumption that ends the last pause comes while the camera is started,
or leaves nothing behind: there is no sensor to be had, or neither a handle nor
a stream is given. -/
def Resumed (s : Kinects) (e : ℕ × Call Hardware) : Prop :=
  ∀ c hw, s.cameras[e.1]? = some c → e.2 = .onResume hw → c.m_Paused = 1 →
    c.started = true ∨ s.host.available hw.sensors = false ∨
      (hw.event = false ∧ hw.stream = false)

variable {s t : Kinects}

theorem Sound.captures (h : Sound s) : Captures s :=
  ⟨fun c hc => (h.cameras c hc).toCaptures, h.handles⟩

theorem Sound.update (h : Sound s) {i : ℕ} {r : Kinect × Host}
    (hr : r.1.Sound) (hhandles : r.2.handles.Accounts (s.update i r).keeps) :
    Sound (s.update i r) := by
  refine ⟨fun d hd => ?_, hhandles⟩
  rcases List.mem_or_eq_of_mem_set hd with hold | rfl
  · exact h.cameras d hold
  · exact hr

theorem keeps_update {i : ℕ} {c : Kinect} (hc : s.cameras[i]? = some c)
    (r : Kinect × Host) (k : ℕ) :
    (s.update i r).keeps k +
        (if c.m_hImageStreamEvent = some k then 1 else 0) =
      s.keeps k + if r.1.m_hImageStreamEvent = some k then 1 else 0 := by
  have h := countP_set_add
    (fun c : Kinect => decide (c.m_hImageStreamEvent = some k)) hc r.1
  simp only [decide_eq_true_eq] at h
  exact h

/-- The handles after an opening without one before. -/
theorem accounts_create (h : s.host.handles.Accounts s.keeps) {i : ℕ}
    {c : Kinect} (hc : s.cameras[i]? = some c)
    (hnone : c.m_hImageStreamEvent = none) {r : Kinect × Host} {event : Bool}
    (hr : r.1.m_hImageStreamEvent = (s.host.createEvent event).1)
    (hhandles : r.2.handles = (s.host.createEvent event).2.handles) :
    r.2.handles.Accounts (s.update i r).keeps := by
  have hkeeps := keeps_update hc r
  rw [hnone, hr] at hkeeps
  rw [hhandles]
  cases event with
  | false => exact h.congr fun k => by simpa [Host.createEvent] using hkeeps k
  | true =>
      refine h.create fun k => ?_
      simpa [Host.createEvent, eq_comm] using hkeeps k

/-- The handles when those of a camera stay as they are. -/
theorem accounts_keep (h : s.host.handles.Accounts s.keeps) {i : ℕ}
    {c : Kinect} (hc : s.cameras[i]? = some c) {r : Kinect × Host}
    (hr : r.1.m_hImageStreamEvent = c.m_hImageStreamEvent)
    (hhandles : r.2.handles = s.host.handles) :
    r.2.handles.Accounts (s.update i r).keeps := by
  rw [hhandles]
  refine h.congr fun k => ?_
  have hkeeps := keeps_update hc r k
  rw [hr] at hkeeps
  omega

theorem accounts_grab (h : s.host.handles.Accounts s.keeps) {i : ℕ}
    {c b : Kinect} (hc : s.cameras[i]? = some c)
    (hnone : c.m_hImageStreamEvent = none)
    (hb : b.m_hImageStreamEvent = none) (hw : Hardware) :
    (b.grab hw s.host).2.handles.Accounts
      (s.update i (b.grab hw s.host)).keeps := by
  rcases b.grab_cases hw s.host with
    ⟨-, heq, hhandles⟩ | ⟨-, -, k, heq, hhandles⟩ | ⟨-, -, heq, hhandles⟩
  · refine accounts_keep h hc ?_ hhandles
    rw [heq, hnone]
    exact hb
  · exact accounts_create h hc hnone (by rw [heq]) hhandles
  · exact accounts_create h hc hnone (by rw [heq]) hhandles

theorem accounts_onStop (h : s.host.handles.Accounts s.keeps) {i : ℕ}
    {c b : Kinect} (hc : s.cameras[i]? = some c)
    (hb : b.m_hImageStreamEvent = c.m_hImageStreamEvent) :
    (b.onStop s.host).2.handles.Accounts
      (s.update i (b.onStop s.host)).keeps := by
  obtain ⟨hevent, -, -, -, -, hhandles⟩ := b.onStop_spec s.host
  cases hbefore : b.m_hImageStreamEvent with
  | none =>
      rw [hbefore] at hb hhandles
      exact accounts_keep h hc (by rw [hevent, ← hb]) hhandles
  | some k =>
      rw [hbefore] at hb hhandles
      rw [hhandles]
      refine h.dispose fun j => ?_
      have hkeeps := keeps_update hc (b.onStop s.host) j
      rw [hevent, ← hb] at hkeeps
      simpa [eq_comm] using hkeeps.symm

theorem Sound.step {e : ℕ × Call Hardware} (h : Sound s)
    (hresumed : s.Resumed e) (ht : s.step e = some t) : Sound t := by
  obtain ⟨c, hc, hpermits, hcases⟩ := step_cases ht
  have hsound := h.cameras c (List.mem_of_getElem? hc)
  have hpaused := Duty.next_nonneg hsound.paused hpermits
  rcases hcases with
    ⟨hw, hopens, rfl⟩ | ⟨-, hcloses, rfl⟩ | ⟨hopens, hcloses, rfl⟩
  · obtain ⟨hidle, hzero, hstarted⟩ := Duty.opens_cases hpermits hopens
    have hnone := hsound.idle hidle
    refine h.update ?_
      (accounts_grab (b := { c with toDuty := c.next e.2 }) h.handles hc hnone
        hnone hw)
    by_cases hactive : (c.next e.2).active = true
    · exact hsound.grab hidle hactive hw s.host
    · refine hsound.grab_nothing hidle hpaused fun hav => ?_
      rcases hstarted with hstarted | ⟨he, hone, hsame⟩
      · exact absurd (Duty.active_iff.mpr ⟨hstarted, hzero⟩) hactive
      · rcases hresumed c hw hc he hone with hstarted | hno | hnothing
        · rw [← hsame] at hstarted
          exact absurd (Duty.active_iff.mpr ⟨hstarted, hzero⟩) hactive
        · rw [hav] at hno
          cases hno
        · exact hnothing
  · have hidle := Duty.active_of_closes hsound.paused hcloses
    exact h.update (hsound.onStop hidle hpaused s.host)
      (accounts_onStop h.handles hc rfl)
  · obtain ⟨hidle, hnext⟩ :=
      Duty.active_of_other hsound.paused hpermits hopens hcloses
    exact h.update (hsound.duty hidle hnext hpaused)
      (accounts_keep h.handles hc rfl rfl)

/-- A resumption that opens the device of a stopped camera leaves it with a
sensor or a handle. -/
theorem not_captures {e : ℕ × Call Hardware} (hresumed : ¬s.Resumed e)
    (ht : s.step e = some t) : ¬Captures t := by
  intro hcaptures
  unfold Resumed at hresumed
  push Not at hresumed
  obtain ⟨c, hw, hc, he, hone, hstopped, hav, hleft⟩ := hresumed
  obtain ⟨c', hc', -, hcases⟩ := step_cases ht
  obtain rfl := Option.some.inj (hc.symm.trans hc')
  have hopens : c.opens e.2 = some hw := by
    rw [he]
    exact if_pos (by omega)
  have hoff : (c.next e.2).started = false := by
    rw [he]
    exact Bool.eq_false_iff.mpr hstopped
  rcases hcases with ⟨hw', hopens', rfl⟩ | ⟨hno, -⟩ | ⟨hno, -⟩
  · obtain rfl := Option.some.inj (hopens.symm.trans hopens')
    have hb := hcaptures.cameras _
      (List.mem_set (List.getElem?_eq_some_iff.mp hc).1 _)
    rcases Kinect.grab_cases { c with toDuty := c.next e.2 } hw s.host with
      ⟨hno, -⟩ | ⟨-, -, k, heq, -⟩ | ⟨-, hstream, heq, -⟩
    · exact absurd hno hav
    · rw [heq] at hb
      have hactive := (hb.held.mp rfl).1
      rw [Duty.active_of_stopped hoff] at hactive
      cases hactive
    · rw [heq] at hb
      have hnone := hb.stopped hoff
      have hevent : hw.event = true := by
        cases hevent : hw.event with
        | true => rfl
        | false => exact absurd hstream (hleft hevent)
      rw [Host.createEvent, if_pos hevent] at hnone
      cases hnone
  · rw [hopens] at hno
    cases hno
  · rw [hopens] at hno
    cases hno

theorem sound_new (streams : List ImageStream) : Sound (new streams) where
  cameras c hc := by
    obtain ⟨stream, -, rfl⟩ := List.mem_map.mp hc
    exact Kinect.sound_construct stream
  handles := Ledger.accounts_empty.congr fun k => by
    refine List.countP_eq_zero.mpr fun c hc => ?_
    obtain ⟨stream, -, rfl⟩ := List.mem_map.mp hc
    cases stream with
    | color => exact Bool.false_ne_true
    | depth => exact Bool.false_ne_true

/-- The Kinect cameras capture as they should throughout a run iff each
resumption that ends the last pause comes while the camera is started, or
leaves nothing behind. -/
theorem captures_iff (streams : List ImageStream)
    (es : List (ℕ × Call Hardware)) :
    Throughout step Captures (new streams) es ↔
      EachStep step Resumed (new streams) es :=
  throughout_iff_eachStep (I := Sound) (L := fun _ _ => True)
    (fun _ h => h.captures) (fun _ _ _ h _ hC ht => h.step hC ht)
    (fun _ _ _ _ _ hC ht => not_captures hC ht) (sound_new streams)
    (eachStep_true _ es)

end Kinects

/-! ## All three classes -/

/-- In all three classes the law holds throughout a run iff no resumption
opens the device of a stopped camera. -/
theorem capture_law_iff (m_CameraStream : String) (m_CameraDevice : ℤ)
    (streams : List ImageStream) (es : List (Call Bool))
    (fs : List (ℕ × Call Hardware)) :
    (Throughout OpenCV.step OpenCV.Captures
          { m_CameraStream, m_CameraDevice } es ↔
        EachStep OpenCV.step OpenCV.Resumed
          { m_CameraStream, m_CameraDevice } es) ∧
      (Throughout Kinects.step Kinects.Captures (Kinects.new streams) fs ↔
        EachStep Kinects.step Kinects.Resumed (Kinects.new streams) fs) :=
  ⟨OpenCV.captures_iff m_CameraStream m_CameraDevice es,
    Kinects.captures_iff streams fs⟩

/-- A camera that is stopped while it is paused is reopened by the
resumption. -/
theorem not_capture_law :
    ¬∀ (m_CameraStream : String) (m_CameraDevice : ℤ) (es : List (Call Bool)),
      Throughout OpenCV.step OpenCV.Captures
        { m_CameraStream, m_CameraDevice } es := by
  intro h
  have hrun : (run OpenCV.step { m_CameraDevice := 0 }
      [.onStart true, .onPause, .onStop, .onResume true]).map
        (fun c => (c.started, c.m_VideoCapture.isSome)) =
      some (false, true) := by decide
  obtain ⟨c, hc, hobs⟩ := (h _ _ _).last hrun
  obtain ⟨hstarted, hsome⟩ := Prod.mk.inj hobs
  rw [hc.stopped hstarted] at hsome
  cases hsome

end SelfPlugins.Camera
