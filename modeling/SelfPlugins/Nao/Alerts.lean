import SelfPlugins.Nao.Health
import Mathlib.Tactic.Linarith

/-!
# The alerts of the health sensor

An alert is a `HealthData` with `raiseAlert`.  Alerts report errors, and those
of one of the four throttled kinds keep the distance of its buffer time.  Three
of the kinds are raised where their throttle has been consulted and is then
set.  The fourth, `SensorErrorCritical`, is also raised for the codes that are
not critical, without a throttle and also where there is no error.
`alerts_iff_justified` says which diagnoses spoil a run.
-/

namespace SelfPlugins.Nao

open Runs

/-- The buffer times of the throttled kinds. -/
def Config.buffer (cfg : Config) (name : String) : Option ℚ :=
  if name = "BatteryLow" then some cfg.m_LowBatteryBufferTime
  else if name = "TemperatureAbnormal" then some cfg.m_AbnormalTempBufferTime
  else if name = "SensorErrorCritical" then
    some cfg.m_CriticalFailureBufferTime
  else if name = "SensorErrorRepair" then some cfg.m_RepairAlertBufferTime
  else none

namespace Health

/-- Two data, the later one first, are not alerts of the same kind within its
buffer time. -/
def Apart (cfg : Config) (d e : HealthData) : Prop :=
  d.raiseAlert = true → e.raiseAlert = true → d.name = e.name →
    ∀ b, cfg.buffer d.name = some b → d.time - e.time > b

/-- Every alert reports an error, and alerts of the same kind are apart. -/
structure Alerts (cfg : Config) (s : Health) : Prop where
  justified : ∀ d ∈ s.sent, d.raiseAlert = true → d.error = true
  apart : s.sent.Pairwise (Apart cfg)

/-- A code read now raises an alert: the robot is not at rest, and for a
critical code the throttle allows it. -/
def raises (cfg : Config) (s : Health) (code : ℤ) (t : Clock) : Bool :=
  !s.isRestPosture &&
    (decide (code ≠ 2) ||
      decide (t.check - s.m_LastCriticalFailure >
        cfg.m_CriticalFailureBufferTime))

/-- A diagnosis that raises an alert reports an error, and comes more than the
buffer time after the alerts of its kind. -/
def Justified (cfg : Config) (s : Health) (e : Action × Clock) : Prop :=
  ∀ code stale, e.1 = .errorDiagnosis (.int code) stale →
    s.raises cfg code e.2 = true →
    0 < code ∧ ∀ d ∈ s.sent, d.raiseAlert = true →
      d.name = "SensorErrorCritical" →
      e.2.build - d.time > cfg.m_CriticalFailureBufferTime

/-- When the alerts of a kind were last marked, for the kinds that always
consult their throttle. -/
def last (s : Health) (name : String) : Option ℚ :=
  if name = "BatteryLow" then some s.m_LastLowBattery
  else if name = "TemperatureAbnormal" then some s.m_LastAbnormalTemp
  else if name = "SensorErrorRepair" then some s.m_LastRepairAlert
  else none

/-- The invariant, up to the time `now`: no data is later than that, and no
alert is later than the mark of its kind. -/
structure Throttled (cfg : Config) (now : ℚ) (s : Health) : Prop
    extends Alerts cfg s where
  past : ∀ d ∈ s.sent, d.time ≤ now
  marked : ∀ d ∈ s.sent, d.raiseAlert = true →
    ∀ m, s.last d.name = some m → d.time ≤ m

variable {u : StringUtil} {cfg : Config} {now : ℚ} {s s' : Health}
  {t : Clock}

/-! ## Building data -/

theorem Throttled.mono (h : Throttled cfg now s) {later : ℚ}
    (hle : now ≤ later) : Throttled cfg later s :=
  ⟨h.toAlerts, fun d hd => (h.past d hd).trans hle, h.marked⟩

theorem Throttled.congr {p : Health} (h : Throttled cfg now s)
    (hsent : p.sent = s.sent) (hlast : p.last = s.last) :
    Throttled cfg now p := by
  refine ⟨⟨?_, ?_⟩, ?_, ?_⟩
  · rw [hsent]; exact h.justified
  · rw [hsent]; exact h.apart
  · rw [hsent]; exact h.past
  · rw [hsent, hlast]; exact h.marked

/-- One more `HealthData`, with the mark of its kind set if it has one. -/
theorem Throttled.cons (h : Throttled cfg now s) {d : HealthData}
    (hsent : s'.sent = d :: s.sent) (htime : d.time ≤ now)
    (herror : d.raiseAlert = true → d.error = true)
    (hapart : ∀ e ∈ s.sent, Apart cfg d e)
    (hmark : d.raiseAlert = true → ∀ m, s'.last d.name = some m → d.time ≤ m)
    (hold : ∀ name m, s'.last name = some m →
      s.last name = some m ∨ now ≤ m) : Throttled cfg now s' := by
  refine ⟨⟨?_, ?_⟩, ?_, ?_⟩
  · rw [hsent]
    exact List.forall_mem_cons.mpr ⟨herror, h.justified⟩
  · rw [hsent]
    exact List.pairwise_cons.mpr ⟨hapart, h.apart⟩
  · rw [hsent]
    exact List.forall_mem_cons.mpr ⟨htime, h.past⟩
  · rw [hsent]
    refine List.forall_mem_cons.mpr ⟨hmark, fun e he hraise m hm => ?_⟩
    rcases hold e.name m hm with hsame | hlater
    · exact h.marked e he hraise m hsame
    · exact (h.past e he).trans hlater

/-- Data that is not an alert. -/
theorem Throttled.quiet (h : Throttled cfg now s) {time : ℚ}
    (htime : time ≤ now) {name sensor state : String} {value : ℚ}
    {error : Bool} :
    Throttled cfg now
      (s.buildHealthData name sensor state value error false time) :=
  h.cons rfl htime nofun (fun _ _ => nofun) nofun fun _ _ hm => Or.inl hm

/-- An alert of a kind without a throttle. -/
theorem Throttled.loud (h : Throttled cfg now s) {time : ℚ}
    (htime : time ≤ now) {name : String} (hbuffer : cfg.buffer name = none)
    (hlast : s.last name = none) {sensor state : String} {value : ℚ}
    {raiseAlert : Bool} :
    Throttled cfg now
      (s.buildHealthData name sensor state value true raiseAlert time) := by
  refine h.cons rfl htime (fun _ => rfl) (fun e _ _ _ _ b hb => ?_)
    (fun _ m hm => ?_) fun _ _ hm => Or.inl hm
  · exact absurd (hbuffer.symm.trans hb) nofun
  · exact absurd (hlast.symm.trans hm) nofun

/-- An alert of a kind whose throttle has been consulted, and is set. -/
theorem Throttled.throttle (h : Throttled cfg t.mark s) {n : String}
    {b m : ℚ} (hbuffer : cfg.buffer n = some b)
    (hlast : s.last n = some m) (hcheck : t.check - m > b)
    {sensor state : String} {value : ℚ} {raiseAlert : Bool}
    (hsent : s'.sent =
      ⟨n, sensor, state, value, true, raiseAlert, t.build⟩ :: s.sent)
    (hmark : s'.last n = some t.mark)
    (hothers : ∀ name, name ≠ n → s'.last name = s.last name) :
    Throttled cfg t.mark s' := by
  obtain ⟨-, hcb, hbm⟩ := t.ordered
  refine h.cons hsent hbm (fun _ => rfl) ?_ ?_ ?_
  · intro e he _ hraise hname b' hb'
    obtain rfl : b = b' := Option.some.inj (hbuffer.symm.trans hb')
    have hle := h.marked e he hraise m (hname ▸ hlast)
    change t.build - e.time > b
    linarith
  · intro _ m' hm'
    obtain rfl : t.mark = m' := Option.some.inj (hmark.symm.trans hm')
    exact hbm
  · intro name m' hm'
    by_cases hname : name = n
    · subst hname
      obtain rfl : t.mark = m' := Option.some.inj (hmark.symm.trans hm')
      exact Or.inr le_rfl
    · exact Or.inl ((hothers name hname).symm.trans hm')

/-! ## The sections -/

theorem Throttled.fallRecovery (h : Throttled cfg t.mark s) :
    Throttled cfg t.mark (s.fallRecovery cfg t) := by
  obtain ⟨hnc, hcb, hbm⟩ := t.ordered
  unfold Health.fallRecovery
  split
  · split
    · split
      · exact h.loud ((hnc.trans hcb).trans hbm) rfl rfl
      · split
        · exact h.congr rfl rfl
        · exact h
    · exact h.congr rfl rfl
  · exact h

theorem Throttled.checkBattery (h : Throttled cfg t.mark s)
    (batteryCharge : ℚ) :
    Throttled cfg t.mark (s.checkBattery cfg batteryCharge t) := by
  unfold Health.checkBattery
  split
  · split
    · rename_i hcheck
      exact h.throttle (n := "BatteryLow") rfl rfl hcheck rfl rfl
        fun name hname => by simp only [last, if_neg hname, buildHealthData]
    · exact h
  · exact h

theorem Throttled.beginRound (h : Throttled cfg t.mark s) (r : Report) :
    Throttled cfg t.mark (s.beginRound cfg r t) := by
  obtain ⟨hnc, hcb, hbm⟩ := t.ordered
  have hnm : t.now ≤ t.mark := (hnc.trans hcb).trans hbm
  have hfall := (h.congr (p := { s with lastCheck := t.now }) rfl
    rfl).fallRecovery
  refine Throttled.quiet (Throttled.quiet (Throttled.quiet
    (Throttled.checkBattery ?_ r.batteryCharge) le_rfl) le_rfl) le_rfl
  exact ((hfall.quiet hnm).quiet hnm).quiet hnm

theorem Throttled.numberReading (h : Throttled cfg t.mark s) (joint : String)
    (x : ℚ) : Throttled cfg t.mark (s.numberReading u cfg joint x t) := by
  have hbm := t.ordered.2.2
  unfold Health.numberReading
  split
  · split
    · rename_i hcheck
      exact h.throttle (n := "TemperatureAbnormal") rfl rfl hcheck rfl rfl
        fun name hname => by simp only [last, if_neg hname, buildHealthData]
    · exact h.quiet hbm
  · exact h.quiet hbm

theorem Throttled.sensorReading (h : Throttled cfg t.mark s) (key : String)
    (data : Data) :
    Throttled cfg t.mark (s.sensorReading u cfg key data t) := by
  cases data with
  | missing => exact h
  | int n => exact h.numberReading _ _
  | float x => exact h.numberReading _ _
  | other text => exact h.quiet t.ordered.2.2

theorem Throttled.checkRepair (h : Throttled cfg t.mark s) :
    Throttled cfg t.mark (s.checkRepair cfg t) := by
  have hcount := h.congr (p := { s with
    failuresInWindow := s.m_FailedSensors.entries.length +
      s.m_RecoveredSensors.entries.length }) rfl rfl
  unfold Health.checkRepair
  dsimp only
  split
  · split
    · rename_i hcheck
      exact hcount.throttle (n := "SensorErrorRepair") rfl rfl hcheck rfl rfl
        fun name hname => by simp only [last, if_neg hname, buildHealthData]
    · exact hcount
  · exact hcount

/-! ### Diagnoses -/

/-- The `HealthData` for a code, and what else becomes of the state as far as
alerts are concerned. -/
theorem errorCode_spec (u : StringUtil) (cfg : Config) (s : Health) (t : Clock)
    (sensor : String) (code : ℤ) (stale : ℚ) :
    (s.errorCode u cfg sensor code stale t).sent =
        ⟨"SensorErrorCritical", sensor, healthState code, code,
          decide (0 < code), s.raises cfg code t, t.build⟩ :: s.sent ∧
      (s.errorCode u cfg sensor code stale t).last = s.last := by
  unfold errorCode
  by_cases hcode : code = 2
  · rw [if_pos ((healthState_eq_critical code).mpr hcode)]
    dsimp only
    by_cases hcheck :
        t.check - s.m_LastCriticalFailure > cfg.m_CriticalFailureBufferTime
    · rw [if_pos hcheck]
      simp only [buildHealthData, isRestPosture, raises, hcode, hcheck]
      exact ⟨by simp, rfl⟩
    · rw [if_neg hcheck]
      simp only [buildHealthData, raises, hcode, hcheck]
      exact ⟨by simp, rfl⟩
  · rw [if_neg (fun h => hcode ((healthState_eq_critical code).mp h))]
    simp only [buildHealthData, isRestPosture, raises]
    exact ⟨by simp [hcode], rfl⟩

theorem Throttled.errorCode (h : Throttled cfg t.mark s) {sensor : String}
    {code : ℤ} {stale : ℚ}
    (hj : s.raises cfg code t = true → 0 < code ∧
      ∀ d ∈ s.sent, d.raiseAlert = true → d.name = "SensorErrorCritical" →
        t.build - d.time > cfg.m_CriticalFailureBufferTime) :
    Throttled cfg t.mark (s.errorCode u cfg sensor code stale t) := by
  obtain ⟨hsent, hlast⟩ :=
    errorCode_spec u cfg s t sensor code stale
  refine h.cons hsent t.ordered.2.2 (fun hraise => ?_) ?_ ?_ ?_
  · exact decide_eq_true (hj hraise).1
  · intro e he hraise hraise' hname b hb
    obtain rfl := Option.some.inj hb
    exact (hj hraise).2 e he hraise' hname.symm
  · intro _ m hm
    rw [hlast] at hm
    cases hm
  · intro n m hm
    rw [hlast] at hm
    exact Or.inl hm

/-- A diagnosis that raises an alert without an error or too early. -/
theorem not_alerts_errorCode (u : StringUtil) (sensor : String) {code : ℤ}
    (stale : ℚ) (hraise : s.raises cfg code t = true)
    (hj : ¬(0 < code ∧ ∀ d ∈ s.sent, d.raiseAlert = true →
      d.name = "SensorErrorCritical" →
      t.build - d.time > cfg.m_CriticalFailureBufferTime)) :
    ¬Alerts cfg (s.errorCode u cfg sensor code stale t) := by
  obtain ⟨hsent, -⟩ :=
    errorCode_spec u cfg s t sensor code stale
  rintro ⟨hjustified, hapart⟩
  rw [hsent] at hjustified hapart
  refine hj ⟨of_decide_eq_true (hjustified _ List.mem_cons_self hraise),
    fun d hd hd' hname => ?_⟩
  exact (List.pairwise_cons.mp hapart).1 d hd hraise hd' hname.symm _ rfl

/-! ## Runs -/

theorem Throttled.act (h : Throttled cfg t.mark s) {a : Action}
    (hj : s.Justified cfg (a, t)) (ht : s.act u cfg a t = some s') :
    Throttled cfg t.mark s' := by
  have hbm : t.build ≤ t.mark := t.ordered.2.2
  rcases act_cases ht with ⟨posture, rfl, rfl⟩ | ⟨volume, rfl, rfl⟩ |
    ⟨flag, rfl, rfl⟩ | ⟨r, rfl, -, rfl⟩ | ⟨data, key, _, _, rfl, -, rfl⟩ |
    ⟨data, stale, key, _, rfl, -, rfl⟩ | ⟨answers, rfl, -, rfl⟩
  · exact ((h.congr (p := { s with m_LastPosture := posture }) rfl
      rfl).quiet hbm).congr rfl rfl
  · exact h.quiet hbm
  · exact (h.congr (p := { s with m_bBatteryCharging := decide (flag ≠ 0) })
      rfl rfl).quiet hbm
  · exact (h.beginRound r).congr rfl rfl
  · exact (h.sensorReading key data).congr rfl rfl
  · cases data with
    | missing => exact h.congr rfl rfl
    | int code => exact (h.errorCode (hj code stale rfl)).congr rfl rfl
    | float x => exact h.congr rfl rfl
    | other text => exact h.congr rfl rfl
  · exact ((h.congr (p := s.filterRecoveredSensorsMap cfg answers t) rfl
      rfl).checkRepair).congr rfl rfl

theorem Throttled.step {e : Action × Clock} (h : Throttled cfg s.clock s)
    (hj : s.Justified cfg e) (ht : s.step u cfg e = some s') :
    Throttled cfg s'.clock s' := by
  obtain ⟨hle, s'', hact, rfl⟩ := step_cases ht
  obtain ⟨hnc, hcb, hbm⟩ := e.2.ordered
  have hmark := h.mono (((hle.trans hnc).trans hcb).trans hbm)
  exact (hmark.act hj hact).congr rfl rfl

theorem not_alerts {e : Action × Clock} (hj : ¬s.Justified cfg e)
    (ht : s.step u cfg e = some s') : ¬Alerts cfg s' := by
  obtain ⟨-, s'', hact, rfl⟩ := step_cases ht
  obtain ⟨a, t⟩ := e
  unfold Justified at hj
  push Not at hj
  obtain ⟨code, stale, rfl, hraise, hbad⟩ := hj
  rcases act_cases hact with ⟨_, ha, -⟩ | ⟨_, ha, -⟩ | ⟨_, ha, -⟩ |
    ⟨_, ha, -⟩ | ⟨_, _, _, _, ha, -⟩ | ⟨_, stale, key, _, ha, -, rfl⟩ |
    ⟨_, ha, -⟩
  · cases ha
  · cases ha
  · cases ha
  · cases ha
  · cases ha
  · cases ha
    intro hal
    refine not_alerts_errorCode u (simplifyKey u key) stale hraise ?_
      ⟨hal.justified, hal.apart⟩
    rintro ⟨hpos, hfar⟩
    obtain ⟨d, hd, hd', hname, hnear⟩ := hbad hpos
    exact absurd (hfar d hd hd' hname) (not_lt.mpr hnear)
  · cases ha

theorem throttled_start (cfg : Config) (t : Clock) :
    Throttled cfg (start cfg t).clock (start cfg t) := by
  have hempty : Throttled cfg t.mark { m_LastPosture := "Stand" } :=
    ⟨⟨nofun, List.Pairwise.nil⟩, nofun, nofun⟩
  exact (hempty.quiet t.ordered.2.2).congr rfl rfl

/-- Throughout a run every alert reports an error and the alerts of each kind
are apart iff every diagnosis in it is justified. -/
theorem alerts_iff_justified (u : StringUtil) (cfg : Config) (t : Clock)
    (es : List (Action × Clock)) :
    Throughout (step u cfg) (Alerts cfg) (start cfg t) es ↔
      EachStep (step u cfg) (Justified cfg) (start cfg t) es :=
  throughout_iff_eachStep (I := fun s => Throttled cfg s.clock s)
    (L := fun _ _ => True) (fun _ h => h.toAlerts)
    (fun _ _ _ h _ hC ht => h.step hC ht)
    (fun _ _ _ _ _ hC ht => not_alerts hC ht) (throttled_start cfg t)
    (eachStep_true _ es)

/-- A standing robot whose diagnosis finds nothing serious. -/
theorem not_always_alerts :
    ¬∀ (u : StringUtil) (cfg : Config) (t : Clock)
      (es : List (Action × Clock)),
      Throughout (step u cfg) (Alerts cfg) (start cfg t) es := by
  intro h
  let cfg : Config :=
    { m_fLowBatteryThreshold := 20
      m_HealthSensorCheckInterval := 60
      m_SensorReadings := [] }
  have hrun : (run (step .plain cfg) (start cfg (.instant 1000))
      [(.beginRound ⟨"", "", 100, 50, false⟩, .instant 2000),
        (.errorDiagnosis (.int 0) 0, .instant 2000)]).map
      (fun s => s.sent.head?.map fun d => (d.raiseAlert, d.error)) =
        some (some (true, false)) := by decide +kernel
  obtain ⟨s, hs, hobs⟩ := (h _ _ _ _).last hrun
  obtain ⟨d, hd, hflags⟩ := Option.map_eq_some_iff.mp hobs
  obtain ⟨hraise, herror⟩ := Prod.mk.inj hflags
  have := hs.justified d (List.mem_of_mem_head? hd) hraise
  rw [herror] at this
  cases this

end Health

end SelfPlugins.Nao
