import SelfPlugins.Camera.Kinect

/-!
# The account of the shared Kinect sensor

`sm_nSharedSensorCount` is to be the number of cameras that hold the shared
sensor, which is shut down and released when the last of them gives it back.
`GrabKinect` counts its caller also when it has no sensor to give, and a camera
that is started while it holds the sensor is counted twice, so the account is
balanced throughout a run iff every opening is `Clean`.
-/

namespace SelfPlugins.Camera

open Runs

/-! ## The sensors -/

namespace Host

/-- Of all sensors only the shared one is in use. -/
def uses (h : Host) (k : ℕ) : ℕ :=
  if h.sm_pSharedSensor = some k then 1 else 0

/-- A sensor can be had: there is a shared one, or one that is ready. -/
def available (sensors : Option (List Probe)) (h : Host) : Bool :=
  h.sm_pSharedSensor.isSome || (sensors.getD []).contains .ready

/-- Every sensor created is the shared one or has been released once, and
every sensor initialised is the shared one or has been shut down once. -/
structure Settled (h : Host) : Prop where
  sensors : h.sensors.Accounts h.uses
  shutdowns : ∀ k, h.uses k + h.shutdowns.count k = h.initialized.count k
  initialized : ∀ k, h.initialized.count k ≤ 1 ∧
    (h.sensors.created ≤ k → h.initialized.count k = 0)

theorem uses_of_none {h : Host} (hnone : h.sm_pSharedSensor = none) (k : ℕ) :
    h.uses k = 0 := by
  rw [uses, hnone]
  exact if_neg nofun

theorem settled_empty : Settled {} where
  sensors := Ledger.accounts_empty
  shutdowns := fun _ => rfl
  initialized := fun _ => ⟨Nat.zero_le _, fun _ => rfl⟩

theorem Settled.discard {h : Host} (hs : h.Settled) : h.discard.Settled where
  sensors := hs.sensors.create_dispose
  shutdowns := hs.shutdowns
  initialized := fun k =>
    ⟨(hs.initialized k).1, fun hk => (hs.initialized k).2 (Nat.le_of_succ_le hk)⟩

theorem Settled.share {h : Host} (hs : h.Settled)
    (hnone : h.sm_pSharedSensor = none) : h.share.Settled where
  sensors := hs.sensors.create fun k => by
    simp only [uses, Host.share, hnone, Option.some.injEq, reduceCtorEq,
      if_false, Nat.zero_add, eq_comm]
  shutdowns := fun k => by
    have hk := hs.shutdowns k
    rw [uses_of_none hnone] at hk
    simp only [uses, Host.share, Option.some.injEq, List.count_cons,
      beq_iff_eq]
    omega
  initialized := fun k => by
    obtain ⟨hle, hnew⟩ := hs.initialized k
    simp only [Host.share, List.count_cons, beq_iff_eq, Ledger.create_created]
    split <;> omega

theorem Settled.probe {ps : List Probe} {h : Host} (hs : h.Settled)
    (hnone : h.sm_pSharedSensor = none) : (probe ps h).Settled := by
  induction ps generalizing h with
  | nil => exact hs
  | cons p ps ih =>
      cases p with
      | notCreated => exact ih hs hnone
      | notConnected => exact ih hs.discard hnone
      | notInitialized => exact ih hs.discard hnone
      | ready => exact hs.share hnone

theorem probe_isSome {ps : List Probe} {h : Host}
    (hnone : h.sm_pSharedSensor = none) :
    (probe ps h).sm_pSharedSensor.isSome = ps.contains .ready := by
  induction ps generalizing h with
  | nil => rw [probe, hnone]; rfl
  | cons p ps ih =>
      cases p with
      | notCreated => exact ih hnone
      | notConnected => exact ih (h := h.discard) hnone
      | notInitialized => exact ih (h := h.discard) hnone
      | ready => rfl

/-- Looking for sensors changes neither the count nor the handles. -/
theorem probe_frame (ps : List Probe) (h : Host) :
    (probe ps h).sm_nSharedSensorCount = h.sm_nSharedSensorCount ∧
      (probe ps h).handles = h.handles := by
  induction ps generalizing h with
  | nil => exact ⟨rfl, rfl⟩
  | cons p ps ih =>
      cases p with
      | notCreated => exact ih h
      | notConnected => exact ih h.discard
      | notInitialized => exact ih h.discard
      | ready => exact ⟨rfl, rfl⟩

/-! ### `GrabKinect` -/

theorem findSensor_of_some {h : Host} {k : ℕ}
    (hk : h.sm_pSharedSensor = some k) (sensors : Option (List Probe)) :
    findSensor sensors h = h := by
  unfold findSensor
  rw [if_neg (by rw [hk]; exact nofun)]

theorem findSensor_of_none {h : Host} (hnone : h.sm_pSharedSensor = none)
    (sensors : Option (List Probe)) :
    findSensor sensors h = probe (sensors.getD []) h := by
  unfold findSensor
  rw [if_pos hnone]
  cases sensors with
  | none => rfl
  | some ps => rfl

theorem grabKinect_shared {h : Host} {k : ℕ}
    (hk : h.sm_pSharedSensor = some k) (sensors : Option (List Probe)) :
    (h.grabKinect sensors).sm_pSharedSensor = some k := by
  rw [grabKinect, findSensor_of_some hk]
  exact hk

theorem grabKinect_isSome (sensors : Option (List Probe)) (h : Host) :
    (h.grabKinect sensors).sm_pSharedSensor.isSome = h.available sensors := by
  rw [available]
  cases hshared : h.sm_pSharedSensor with
  | none =>
      rw [grabKinect, findSensor_of_none hshared]
      exact probe_isSome hshared
  | some k => rw [grabKinect_shared hshared]; rfl

theorem grabKinect_count (sensors : Option (List Probe)) (h : Host) :
    (h.grabKinect sensors).sm_nSharedSensorCount =
      h.sm_nSharedSensorCount + 1 := by
  cases hshared : h.sm_pSharedSensor with
  | none =>
      simp only [grabKinect, findSensor_of_none hshared, (probe_frame _ _).1]
  | some k => simp only [grabKinect, findSensor_of_some hshared]

theorem grabKinect_handles (sensors : Option (List Probe)) (h : Host) :
    (h.grabKinect sensors).handles = h.handles := by
  cases hshared : h.sm_pSharedSensor with
  | none =>
      simp only [grabKinect, findSensor_of_none hshared, (probe_frame _ _).2]
  | some k => simp only [grabKinect, findSensor_of_some hshared]

theorem Settled.grabKinect {h : Host} (hs : h.Settled)
    (sensors : Option (List Probe)) : (h.grabKinect sensors).Settled := by
  have hfound : (findSensor sensors h).Settled := by
    cases hshared : h.sm_pSharedSensor with
    | none =>
        rw [findSensor_of_none hshared]
        exact hs.probe hshared
    | some k => rwa [findSensor_of_some hshared]
  exact ⟨hfound.sensors, hfound.shutdowns, hfound.initialized⟩

/-! ### `FreeKinect` -/

theorem Settled.shutdown {h : Host} (hs : h.Settled) {k : ℕ}
    (hk : h.sm_pSharedSensor = some k) : (h.shutdown k).Settled where
  sensors := hs.sensors.dispose fun j => by
    simp only [uses, Host.shutdown, hk, Option.some.injEq, reduceCtorEq,
      if_false, Nat.zero_add, eq_comm]
  shutdowns := fun j => by
    have hj := hs.shutdowns j
    simp only [uses, hk, Option.some.injEq] at hj
    simp only [uses, Host.shutdown, reduceCtorEq, if_false, List.count_cons,
      beq_iff_eq]
    omega
  initialized := hs.initialized

theorem Settled.freeKinect {h : Host} (hs : h.Settled) (k : ℕ) :
    (h.freeKinect k).Settled := by
  unfold Host.freeKinect
  split
  · rename_i hk
    split
    · have hd := hs.shutdown hk
      exact ⟨hd.sensors, hd.shutdowns, hd.initialized⟩
    · exact ⟨hs.sensors, hs.shutdowns, hs.initialized⟩
  · exact hs

theorem freeKinect_count {h : Host} {k : ℕ}
    (hk : h.sm_pSharedSensor = some k) :
    (h.freeKinect k).sm_nSharedSensorCount = h.sm_nSharedSensorCount - 1 := by
  rw [Host.freeKinect, if_pos hk]
  split <;> rfl

theorem freeKinect_shared {h : Host} {k : ℕ}
    (hk : h.sm_pSharedSensor = some k) :
    (h.freeKinect k).sm_pSharedSensor =
      if h.sm_nSharedSensorCount - 1 = 0 then none else some k := by
  rw [Host.freeKinect, if_pos hk]
  split
  · rfl
  · exact hk

theorem freeKinect_handles (k : ℕ) (h : Host) :
    (h.freeKinect k).handles = h.handles := by
  unfold Host.freeKinect
  split
  · split <;> rfl
  · rfl

theorem Settled.closeHandle {h : Host} (hs : h.Settled) (k : ℕ) :
    (h.closeHandle k).Settled :=
  ⟨hs.sensors, hs.shutdowns, hs.initialized⟩

theorem Settled.createEvent {h : Host} (hs : h.Settled) (event : Bool) :
    (h.createEvent event).2.Settled := by
  unfold Host.createEvent
  split
  · exact ⟨hs.sensors, hs.shutdowns, hs.initialized⟩
  · exact hs

theorem Settled.openStream {h : Host} (hs : h.Settled) (k : ℕ)
    (stream : ImageStream) : (h.openStream k stream).Settled :=
  ⟨hs.sensors, hs.shutdowns, hs.initialized⟩

/-- Creating an event concerns the handles only. -/
theorem createEvent_frame (event : Bool) (h : Host) :
    (h.createEvent event).2.sm_pSharedSensor = h.sm_pSharedSensor ∧
      (h.createEvent event).2.sm_nSharedSensorCount =
        h.sm_nSharedSensorCount := by
  unfold Host.createEvent
  split
  · exact ⟨rfl, rfl⟩
  · exact ⟨rfl, rfl⟩

end Host

/-! ## Openings and closings -/

namespace Kinect

theorem grab_unavailable {hw : Hardware} {h : Host}
    (hnone : h.available hw.sensors = false) (c : Kinect) :
    c.grab hw h =
      ({ c with m_pSensor := none, attempt := false },
        h.grabKinect hw.sensors) := by
  rw [← Host.grabKinect_isSome, Option.isSome_eq_false_iff,
    Option.isNone_iff_eq_none] at hnone
  rw [grab, hnone]

theorem grab_available {hw : Hardware} {h : Host}
    (hav : h.available hw.sensors = true) (c : Kinect) :
    ∃ k, (h.grabKinect hw.sensors).sm_pSharedSensor = some k ∧
      c.grab hw h = c.openStream hw k (h.grabKinect hw.sensors) := by
  rw [← Host.grabKinect_isSome] at hav
  obtain ⟨k, hk⟩ := Option.isSome_iff_exists.mp hav
  refine ⟨k, hk, ?_⟩
  rw [grab, hk]

theorem openStream_pos {hw : Hardware} (hstream : hw.stream = true) (k : ℕ)
    (c : Kinect) (h : Host) :
    c.openStream hw k h =
      ({ c with
          m_pSensor := some k
          m_hImageStreamEvent := (h.createEvent hw.event).1
          m_spWaitTimer := true
          attempt := true
          grabs := c.grabs + 1 },
        (h.createEvent hw.event).2.openStream k c.stream) := by
  simp only [openStream, hstream, if_true]

theorem openStream_neg {hw : Hardware} (hstream : hw.stream = false) (k : ℕ)
    (c : Kinect) (h : Host) :
    c.openStream hw k h =
      ({ c with
          m_pSensor := none
          m_hImageStreamEvent := (h.createEvent hw.event).1
          attempt := false
          grabs := c.grabs + 1
          frees := c.frees + 1 },
        (h.createEvent hw.event).2.freeKinect k) := by
  simp only [openStream, hstream, Bool.false_eq_true, if_false]

theorem settled_grab {h : Host} (hs : h.Settled) (hw : Hardware)
    (c : Kinect) : (c.grab hw h).2.Settled := by
  have hgrab := hs.grabKinect hw.sensors
  cases hav : h.available hw.sensors with
  | false =>
      rw [grab_unavailable hav]
      exact hgrab
  | true =>
      obtain ⟨k, -, heq⟩ := c.grab_available hav
      rw [heq]
      cases hstream : hw.stream with
      | true =>
          rw [openStream_pos hstream]
          exact (hgrab.createEvent hw.event).openStream k c.stream
      | false =>
          rw [openStream_neg hstream]
          exact (hgrab.createEvent hw.event).freeKinect k

theorem settled_free {h : Host} (hs : h.Settled) (c : Kinect) :
    (c.free h).2.Settled := by
  unfold free
  cases c.m_pSensor with
  | none => exact hs
  | some k => exact hs.freeKinect k

theorem settled_onStop {h : Host} (hs : h.Settled) (c : Kinect) :
    (c.onStop h).2.Settled := by
  unfold onStop
  cases c.m_hImageStreamEvent with
  | none => exact settled_free hs _
  | some handle => exact settled_free (hs.closeHandle handle) _

/-- `OnStop` takes the sensor from the camera and, if it has one, gives it
back. -/
theorem onStop_sensor (c : Kinect) (h : Host) :
    (c.onStop h).1.m_pSensor = none ∧
      ∃ h', h'.sm_pSharedSensor = h.sm_pSharedSensor ∧
        h'.sm_nSharedSensorCount = h.sm_nSharedSensorCount ∧
        (c.onStop h).2 = match c.m_pSensor with
          | none => h'
          | some k => h'.freeKinect k := by
  obtain ⟨_, _, m_pSensor, _, m_hImageStreamEvent⟩ := c
  cases m_hImageStreamEvent with
  | none => cases m_pSensor <;> exact ⟨rfl, h, rfl, rfl, rfl⟩
  | some handle =>
      cases m_pSensor <;> exact ⟨rfl, h.closeHandle handle, rfl, rfl, rfl⟩

end Kinect

/-! ## The balance -/

namespace Kinects

/-- The cameras that hold a sensor. -/
def holders (s : Kinects) : ℕ := s.cameras.countP (·.m_pSensor.isSome)

/-- The account of the shared sensor: the count is that of the holders, the
sensor is there iff the count is not 0, a sensor that was initialised has been
shut down and released once if no camera holds it and not at all otherwise, and
every sensor created is the shared one or has been released once. -/
structure Accounted (s : Kinects) : Prop where
  count : s.host.sm_nSharedSensorCount.toNat = s.holders
  shared : s.host.sm_pSharedSensor = none ↔ s.host.sm_nSharedSensorCount = 0
  shutdown : ∀ k ∈ s.host.initialized,
    s.host.shutdowns.count k =
        (if ∃ c ∈ s.cameras, c.m_pSensor = some k then 0 else 1) ∧
      s.host.sensors.disposed.count k =
        if ∃ c ∈ s.cameras, c.m_pSensor = some k then 0 else 1
  others : ∀ k, k ∉ s.host.initialized → s.host.shutdowns.count k = 0
  created : ∀ k < s.host.sensors.created,
    (s.host.sm_pSharedSensor = some k ∧
        s.host.sensors.disposed.count k = 0) ∨
      (s.host.sm_pSharedSensor ≠ some k ∧
        s.host.sensors.disposed.count k = 1)

/-- An opening is clean: the camera has no sensor yet, a sensor can be had,
and the count has room for another holder. -/
def Clean (s : Kinects) (e : ℕ × Call Hardware) : Prop :=
  ∀ c hw, s.cameras[e.1]? = some c → c.opens e.2 = some hw →
    c.m_pSensor = none ∧ s.host.available hw.sensors = true ∧
      (hw.stream = true → s.host.sm_nSharedSensorCount + 1 ≠ 0)

/-- The invariant of clean runs: the cameras hold the shared sensor only. -/
structure Balanced (s : Kinects) : Prop where
  settled : s.host.Settled
  count : s.host.sm_nSharedSensorCount.toNat = s.holders
  shared : s.host.sm_pSharedSensor = none ↔ s.host.sm_nSharedSensorCount = 0
  held : ∀ c ∈ s.cameras, ∀ k, c.m_pSensor = some k →
    s.host.sm_pSharedSensor = some k

variable {s t : Kinects}

theorem holders_pos {c : Kinect} {k : ℕ} (hc : c ∈ s.cameras)
    (hk : c.m_pSensor = some k) : 0 < s.holders :=
  List.countP_pos_iff.mpr ⟨c, hc, by rw [hk]; rfl⟩

theorem holders_update {i : ℕ} {c : Kinect} (hc : s.cameras[i]? = some c)
    (r : Kinect × Host) :
    (s.update i r).holders + (if c.m_pSensor.isSome then 1 else 0) =
      s.holders + if r.1.m_pSensor.isSome then 1 else 0 :=
  countP_set_add _ hc r.1

/-- While the account is balanced, the shared sensor is the one that is
held. -/
theorem Balanced.held_iff (h : Balanced s) (k : ℕ) :
    (∃ c ∈ s.cameras, c.m_pSensor = some k) ↔
      s.host.sm_pSharedSensor = some k := by
  constructor
  · rintro ⟨c, hc, hk⟩
    exact h.held c hc k hk
  · intro hk
    have hcount : s.host.sm_nSharedSensorCount ≠ 0 := fun hzero => by
      rw [h.shared.mpr hzero] at hk
      cases hk
    have hpos : 0 < s.holders := by
      rw [← h.count]
      exact Nat.pos_of_ne_zero fun hzero =>
        hcount (BitVec.eq_of_toNat_eq hzero)
    obtain ⟨c, hc, hsome⟩ := List.countP_pos_iff.mp hpos
    obtain ⟨j, hj⟩ := Option.isSome_iff_exists.mp hsome
    refine ⟨c, hc, ?_⟩
    rw [hj, ← h.held c hc j hj, hk]

theorem Balanced.accounted (h : Balanced s) : Accounted s where
  count := h.count
  shared := h.shared
  shutdown := fun k hk => by
    have hpos := List.count_pos_iff.mpr hk
    obtain ⟨hle, hnew⟩ := h.settled.initialized k
    have hlt : k < s.host.sensors.created := by omega
    have hshut := h.settled.shutdowns k
    simp only [h.held_iff k]
    by_cases hshared : s.host.sm_pSharedSensor = some k
    · have huses : s.host.uses k = 1 := if_pos hshared
      rw [if_pos hshared]
      exact ⟨by omega, h.settled.sensors.not_disposed (by omega)⟩
    · have huses : s.host.uses k = 0 := if_neg hshared
      rw [if_neg hshared]
      exact ⟨by omega, h.settled.sensors.disposed_once huses hlt⟩
  others := fun k hk => by
    have hshut := h.settled.shutdowns k
    rw [List.count_eq_zero.mpr hk] at hshut
    omega
  created := fun k hk => by
    by_cases hshared : s.host.sm_pSharedSensor = some k
    · have huses : s.host.uses k = 1 := if_pos hshared
      exact Or.inl ⟨hshared, h.settled.sensors.not_disposed (by omega)⟩
    · have huses : s.host.uses k = 0 := if_neg hshared
      exact Or.inr ⟨hshared, h.settled.sensors.disposed_once huses hk⟩

/-- Keeping the balance: count and holders change alike, and the shared sensor
is replaced only where nobody holds it. -/
theorem Balanced.update (h : Balanced s) {i : ℕ} {c : Kinect}
    (hc : s.cameras[i]? = some c) {r : Kinect × Host} (hsettled : r.2.Settled)
    (hcount : r.2.sm_nSharedSensorCount.toNat +
        (if c.m_pSensor.isSome then 1 else 0) =
      s.host.sm_nSharedSensorCount.toNat +
        if r.1.m_pSensor.isSome then 1 else 0)
    (hshared : r.2.sm_pSharedSensor = none ↔ r.2.sm_nSharedSensorCount = 0)
    (hheld : ∀ k, r.1.m_pSensor = some k → r.2.sm_pSharedSensor = some k)
    (hothers : r.2.sm_pSharedSensor = s.host.sm_pSharedSensor ∨
      s.host.sm_pSharedSensor = none ∨ r.2.sm_pSharedSensor = none) :
    Balanced (s.update i r) := by
  have hholders : r.2.sm_nSharedSensorCount.toNat =
      (s.update i r).holders := by
    have hset := holders_update hc r
    rw [h.count] at hcount
    omega
  refine ⟨hsettled, hholders, hshared, fun d hd k hk => ?_⟩
  rcases hothers with hsame | hnone | hnone
  · rcases List.mem_or_eq_of_mem_set hd with hold | rfl
    · change r.2.sm_pSharedSensor = some k
      rw [hsame]
      exact h.held d hold k hk
    · exact hheld k hk
  · rcases List.mem_or_eq_of_mem_set hd with hold | rfl
    · have := h.held d hold k hk
      rw [hnone] at this
      cases this
    · exact hheld k hk
  · have hpos := holders_pos hd hk
    rw [← hholders, hshared.mp hnone] at hpos
    exact absurd hpos (Nat.lt_irrefl 0)

theorem toNat_add_one {x : BitVec 32} (hx : x + 1 ≠ 0) :
    (x + 1).toNat = x.toNat + 1 := by
  bv_omega

theorem toNat_sub_one {x : BitVec 32} (hx : x ≠ 0) :
    (x - 1).toNat + 1 = x.toNat := by
  bv_omega

theorem ite_none_iff {x : BitVec 32} {k : ℕ} :
    (if x = 0 then none else some k) = none ↔ x = 0 := by
  by_cases hx : x = 0
  · rw [if_pos hx]
    exact iff_of_true rfl hx
  · rw [if_neg hx]
    exact iff_of_false nofun hx

/-- A grab either keeps the shared sensor or comes where there was none. -/
theorem grabKinect_shared_or {sensors : Option (List Probe)} {h : Host}
    {k : ℕ} (hk : (h.grabKinect sensors).sm_pSharedSensor = some k) :
    h.sm_pSharedSensor = some k ∨ h.sm_pSharedSensor = none := by
  cases hshared : h.sm_pSharedSensor with
  | none => exact Or.inr rfl
  | some j =>
      rw [Host.grabKinect_shared hshared] at hk
      exact Or.inl hk

/-- A clean opening keeps the balance. -/
theorem Balanced.grab (h : Balanced s) {i : ℕ} {c : Kinect}
    (hc : s.cameras[i]? = some c) {hw : Hardware}
    (hfree : c.m_pSensor = none) (hav : s.host.available hw.sensors = true)
    (hroom : hw.stream = true → s.host.sm_nSharedSensorCount + 1 ≠ 0)
    (b : Kinect) : Balanced (s.update i (b.grab hw s.host)) := by
  have hsettled := Kinect.settled_grab h.settled hw b
  obtain ⟨k, hk, heq⟩ := Kinect.grab_available hav b
  have hor := grabKinect_shared_or hk
  have hg := Host.grabKinect_count hw.sensors s.host
  obtain ⟨heshared, hecount⟩ :=
    Host.createEvent_frame hw.event (s.host.grabKinect hw.sensors)
  rw [heq] at hsettled ⊢
  cases hstream : hw.stream with
  | true =>
      rw [Kinect.openStream_pos hstream] at hsettled ⊢
      have hcount : ((s.host.grabKinect hw.sensors).createEvent
          hw.event).2.sm_nSharedSensorCount =
            s.host.sm_nSharedSensorCount + 1 := hecount.trans hg
      have hshared : ((s.host.grabKinect hw.sensors).createEvent
          hw.event).2.sm_pSharedSensor = some k := heshared.trans hk
      refine h.update hc hsettled ?_ ?_ ?_ ?_
      · simp only [Host.openStream, hcount, hfree]
        exact congrArg (· + 0) (toNat_add_one (hroom hstream))
      · simp only [Host.openStream, hcount, hshared]
        exact ⟨nofun, fun hzero => absurd hzero (hroom hstream)⟩
      · rintro j ⟨⟩
        exact hshared
      · rcases hor with hsame | hnone
        · exact Or.inl (hshared.trans hsame.symm)
        · exact Or.inr (Or.inl hnone)
  | false =>
      rw [Kinect.openStream_neg hstream] at hsettled ⊢
      have hcount := Host.freeKinect_count (heshared.trans hk)
      have hshared := Host.freeKinect_shared (heshared.trans hk)
      rw [hecount, hg, BitVec.add_sub_cancel] at hcount hshared
      refine h.update hc hsettled ?_ ?_ nofun ?_
      · simp only [hcount, hfree]
      · simp only [hcount, hshared]
        exact ite_none_iff
      · rcases hor with hsame | hnone
        · left
          have hne : s.host.sm_nSharedSensorCount ≠ 0 := fun hzero => by
            rw [h.shared.mpr hzero] at hsame
            cases hsame
          rw [hshared, if_neg hne, hsame]
        · exact Or.inr (Or.inl hnone)

/-- `OnStop` keeps the balance. -/
theorem Balanced.onStop (h : Balanced s) {i : ℕ} {c b : Kinect}
    (hc : s.cameras[i]? = some c) (hb : b.m_pSensor = c.m_pSensor) :
    Balanced (s.update i (b.onStop s.host)) := by
  have hsettled := Kinect.settled_onStop h.settled b
  obtain ⟨hnone, h', hshared, hcount, heq⟩ := b.onStop_sensor s.host
  have hheld : ∀ k, (b.onStop s.host).1.m_pSensor = some k →
      (b.onStop s.host).2.sm_pSharedSensor = some k := fun k hk => by
    rw [hnone] at hk
    cases hk
  cases hsensor : b.m_pSensor with
  | none =>
      rw [hsensor] at heq hb
      refine h.update hc hsettled ?_ ?_ hheld ?_
      · rw [hnone, heq, hcount, ← hb]
      · rw [heq, hshared, hcount]
        exact h.shared
      · rw [heq]
        exact Or.inl hshared
  | some k =>
      rw [hsensor] at heq hb
      have hk := h.held c (List.mem_of_getElem? hc) k hb.symm
      have hne : s.host.sm_nSharedSensorCount ≠ 0 := fun hzero => by
        rw [h.shared.mpr hzero] at hk
        cases hk
      have hcount' := Host.freeKinect_count (hshared.trans hk)
      have hshared' := Host.freeKinect_shared (hshared.trans hk)
      rw [hcount] at hcount' hshared'
      refine h.update hc hsettled ?_ ?_ hheld ?_
      · rw [hnone, heq, hcount', ← hb]
        exact toNat_sub_one hne
      · rw [heq, hcount', hshared']
        exact ite_none_iff
      · rw [heq, hshared', hk]
        by_cases hlast : s.host.sm_nSharedSensorCount - 1 = 0
        · exact Or.inr (Or.inr (if_pos hlast))
        · exact Or.inl (if_neg hlast)

/-- A call that changes the duty only keeps the balance. -/
theorem Balanced.duty (h : Balanced s) {i : ℕ} {c b : Kinect}
    (hc : s.cameras[i]? = some c) (hb : b.m_pSensor = c.m_pSensor) :
    Balanced (s.update i (b, s.host)) := by
  refine h.update hc h.settled ?_ h.shared (fun k hk => ?_) (Or.inl rfl)
  · rw [hb]
  · exact h.held c (List.mem_of_getElem? hc) k (hb ▸ hk)

theorem Balanced.step {e : ℕ × Call Hardware} (h : Balanced s)
    (hclean : s.Clean e) (ht : s.step e = some t) : Balanced t := by
  obtain ⟨c, hc, -, ⟨hw, hopens, rfl⟩ | ⟨-, -, rfl⟩ | ⟨-, -, rfl⟩⟩ :=
    step_cases ht
  · obtain ⟨hfree, hav, hroom⟩ := hclean c hw hc hopens
    exact h.grab hc hfree hav hroom _
  · exact h.onStop hc rfl
  · exact h.duty hc rfl

/-! ## What upsets it -/

/-- A camera is counted that gets no sensor. -/
theorem Balanced.unavailable (h : Balanced s) {hw : Hardware}
    (hav : s.host.available hw.sensors = false) (i : ℕ) (b : Kinect) :
    ¬Accounted (s.update i (b.grab hw s.host)) := by
  intro hacc
  have hshared := hacc.shared
  have hnone := Host.grabKinect_isSome hw.sensors s.host
  rw [hav, Option.isSome_eq_false_iff, Option.isNone_iff_eq_none] at hnone
  have hbefore : s.host.sm_pSharedSensor = none := by
    rw [Host.available, Bool.or_eq_false_iff, Option.isSome_eq_false_iff,
      Option.isNone_iff_eq_none] at hav
    exact hav.1
  rw [Kinect.grab_unavailable hav] at hshared
  have hcount : (s.host.grabKinect hw.sensors).sm_nSharedSensorCount = 0 :=
    hshared.mp hnone
  rw [Host.grabKinect_count, h.shared.mp hbefore] at hcount
  exact absurd hcount (by decide)

/-- A camera is counted that holds the sensor already. -/
theorem Balanced.counted_twice (h : Balanced s) {i j : ℕ} {c : Kinect}
    (hc : s.cameras[i]? = some c) (hj : c.m_pSensor = some j) (hw : Hardware)
    (b : Kinect) : ¬Accounted (s.update i (b.grab hw s.host)) := by
  intro hacc
  have hshared := h.held c (List.mem_of_getElem? hc) j hj
  have hav : s.host.available hw.sensors = true := by
    rw [Host.available, hshared]
    rfl
  obtain ⟨k, hk, heq⟩ := Kinect.grab_available hav b
  obtain ⟨heshared, hecount⟩ :=
    Host.createEvent_frame hw.event (s.host.grabKinect hw.sensors)
  have hcount := hacc.count
  have hset := holders_update hc (b.grab hw s.host)
  have hbefore := h.count
  rw [← hcount, hj] at hset
  change (b.grab hw s.host).2.sm_nSharedSensorCount.toNat + 1 = _ at hset
  rw [heq] at hset
  cases hstream : hw.stream with
  | true =>
      rw [Kinect.openStream_pos hstream] at hset
      simp only [Host.openStream, hecount, Host.grabKinect_count,
        Option.isSome_some, if_true, ← hbefore] at hset
      exact absurd hset (by bv_omega)
  | false =>
      rw [Kinect.openStream_neg hstream] at hset
      simp only [Host.freeKinect_count (heshared.trans hk), hecount,
        Host.grabKinect_count, BitVec.add_sub_cancel, Option.isSome_none,
        Bool.false_eq_true, if_false, ← hbefore] at hset
      omega

/-- The count wraps around. -/
theorem Balanced.wraps {hw : Hardware}
    (hav : s.host.available hw.sensors = true) (hstream : hw.stream = true)
    (hwrap : s.host.sm_nSharedSensorCount + 1 = 0) (i : ℕ) (b : Kinect) :
    ¬Accounted (s.update i (b.grab hw s.host)) := by
  intro hacc
  have hshared := hacc.shared
  obtain ⟨k, hk, heq⟩ := Kinect.grab_available hav b
  obtain ⟨heshared, hecount⟩ :=
    Host.createEvent_frame hw.event (s.host.grabKinect hw.sensors)
  rw [heq, Kinect.openStream_pos hstream] at hshared
  have hnone := hshared.mpr
    ((hecount.trans (Host.grabKinect_count hw.sensors s.host)).trans hwrap)
  have hsome := heshared.trans hk
  change ((s.host.grabKinect hw.sensors).createEvent
    hw.event).2.sm_pSharedSensor = none at hnone
  rw [hsome] at hnone
  cases hnone

theorem Balanced.upset {e : ℕ × Call Hardware} (h : Balanced s)
    (hclean : ¬s.Clean e) (ht : s.step e = some t) : ¬Accounted t := by
  unfold Clean at hclean
  push Not at hclean
  obtain ⟨c, hw, hc, hopens, hbad⟩ := hclean
  obtain ⟨c', hc', -, ⟨hw', hopens', rfl⟩ | ⟨hno, -⟩ | ⟨hno, -⟩⟩ :=
    step_cases ht
  · obtain rfl := Option.some.inj (hc.symm.trans hc')
    obtain rfl := Option.some.inj (hopens.symm.trans hopens')
    cases hsensor : c.m_pSensor with
    | some j => exact h.counted_twice hc hsensor hw _
    | none =>
        cases hav : s.host.available hw.sensors with
        | false => exact h.unavailable hav e.1 _
        | true =>
            obtain ⟨hstream, hwrap⟩ := hbad hsensor hav
            exact Balanced.wraps hav hstream hwrap e.1 _
  · obtain rfl := Option.some.inj (hc.symm.trans hc')
    rw [hopens] at hno
    cases hno
  · obtain rfl := Option.some.inj (hc.symm.trans hc')
    rw [hopens] at hno
    cases hno

theorem balanced_new (streams : List ImageStream) : Balanced (new streams) := by
  have hfree : ∀ c ∈ (new streams).cameras, c.m_pSensor = none := by
    intro c hc
    obtain ⟨stream, -, rfl⟩ := List.mem_map.mp hc
    cases stream with
    | color => rfl
    | depth => rfl
  refine ⟨Host.settled_empty, ?_, iff_of_true rfl rfl, fun c hc k hk => ?_⟩
  · refine (List.countP_eq_zero.mpr fun c hc => ?_).symm
    rw [hfree c hc]
    exact Bool.false_ne_true
  · rw [hfree c hc] at hk
    cases hk

/-- The account of the shared sensor holds throughout a run of any number of
cameras iff every opening in it is clean. -/
theorem accounted_iff_clean (streams : List ImageStream)
    (es : List (ℕ × Call Hardware)) :
    Throughout step Accounted (new streams) es ↔
      EachStep step Clean (new streams) es :=
  throughout_iff_eachStep (I := Balanced) (L := fun _ _ => True)
    (fun _ h => h.accounted) (fun _ _ _ h _ hC ht => h.step hC ht)
    (fun _ _ _ h _ hC ht => h.upset hC ht) (balanced_new streams)
    (eachStep_true _ es)

/-- A camera that is started where there is no sensor is counted as a
holder. -/
theorem not_accounted :
    ¬∀ (streams : List ImageStream) (es : List (ℕ × Call Hardware)),
      Throughout step Accounted (new streams) es := by
  intro h
  have hrun : (run step (new [.color]) [(0, .onStart ⟨some [], true, true⟩)]).map
      (fun s => (s.host.sm_nSharedSensorCount.toNat, s.holders)) =
        some (1, 0) := by decide
  obtain ⟨s, hs, hobs⟩ := (h _ _).last hrun
  obtain ⟨hcount, hholders⟩ := Prod.mk.inj hobs
  have := hs.count
  omega

end Kinects

end SelfPlugins.Camera
