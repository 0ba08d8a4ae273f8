import SelfPlugins.Library.Runs
import Mathlib.Data.List.AList
import Mathlib.Algebra.Order.Ring.Rat

/-!
# The health sensor of the Nao robot

`CallSensorDiagnosis` is a loop whose rounds check the posture, the battery,
the sensor readings and the error diagnosis, and build `HealthData` from what
they find.  The model takes a round in sections: the check at its beginning,
one reading or one diagnosis at a time, and the end of the round.  Notifiers
that report a posture, a volume or the battery plug may run between the
sections.  Each section comes with the clock readings it takes.

Where the code goes on using an iterator after it has erased the entry the
iterator points to, the language promises nothing: the value read from it and
the place it moves on to are inputs of the model.
-/

namespace SelfPlugins.Nao

open Runs

/-- The functions of `StringUtil` the sensor uses; `format` is `Format` with
`"%s: %f"`. -/
structure StringUtil where
  find : String → String → Option ℕ
  startsWith : String → String → Bool
  wildMatch : String → String → Bool
  format : String → ℚ → String

/-- `StringUtil` on strings without wild cards and times that are not
negative. -/
def StringUtil.plain : StringUtil where
  find s t := (List.range (s.length + 1)).find? fun i =>
    t.toList.isPrefixOf (s.toList.drop i)
  startsWith s t := t.toList.isPrefixOf s.toList
  wildMatch pattern s := decide (pattern = s)
  format sensor time :=
    let micros := (time * 1000000).floor.toNat
    let digits := toString (micros % 1000000)
    sensor ++ ": " ++ toString (micros / 1000000) ++ "." ++
      String.ofList (List.replicate (6 - digits.length) '0') ++ digits

/-- The settings of the sensor, with the defaults of its constructor,
`Deserialize` and `OnStart`. -/
structure Config where
  m_fLowBatteryThreshold : ℚ
  m_HealthSensorCheckInterval : ℚ
  m_SensorReadings : List String :=
    ["Device/SubDeviceList/LHand/Temperature/Sensor/Value"]
  m_ErrorDiagnosis : List String := ["Diagnosis/Active/HeadYaw/Error"]
  m_StablePostures : List String := ["Stand"]
  m_ImportantJoints : List String := ["*Head*Temperature*"]
  m_bEnableFallRecovery : Bool := false
  m_fTimeForPostureTransition : ℚ := 12
  m_fLowTempThreshold : ℚ := 20
  m_fHighTempThreshold : ℚ := 60
  m_fHeadHighTempThreshold : ℚ := 80
  m_RepairThreshold : ℤ := 3
  m_CriticalFailureLifespan : ℚ := 14400
  m_CriticalFailureBufferTime : ℚ := 300
  m_RepairAlertBufferTime : ℚ := 300
  m_LowBatteryBufferTime : ℚ := 300
  m_AbnormalTempBufferTime : ℚ := 600

/-- The readings of `Time()` in a section: at its start, where a throttle is
consulted, when the data is built, and when the throttle is set. -/
structure Clock where
  now : ℚ
  check : ℚ
  build : ℚ
  mark : ℚ
  ordered : now ≤ check ∧ check ≤ build ∧ build ≤ mark

/-- A section that takes no time. -/
def Clock.instant (now : ℚ) : Clock :=
  ⟨now, now, now, now, by simp⟩

/-- What the memory of the robot holds under a key; `missing` if it has no such
key. -/
inductive Data
  | missing
  | int (n : ℤ)
  | float (x : ℚ)
  | other (text : String)
deriving DecidableEq

/-- A `HealthData`, with the time it is built. -/
structure HealthData where
  name : String
  sensor : String
  state : String
  value : ℚ
  error : Bool
  raiseAlert : Bool
  time : ℚ
deriving DecidableEq

/-- Where the loop is: between two rounds, or in a round with these readings
and diagnoses to come. -/
inductive Phase
  | idle
  | checking (readings diagnoses : List String)
deriving DecidableEq

/-- A map from strings to times. -/
abbrev Times := AList fun _ : String => ℚ

/-- An entry of such a map. -/
abbrev Entry := Sigma fun _ : String => ℚ

/-- The books the sensor keeps of failures: its two maps, and the number it
last computed from them.  `history` are the integer codes read for each key of
the diagnosis with their times, and `filtered` is when the recovered sensors
were last filtered. -/
structure Books where
  m_FailedSensors : Times := ∅
  m_RecoveredSensors : Times := ∅
  failuresInWindow : ℕ := 0
  history : String → List (ℤ × ℚ) := fun _ => []
  filtered : ℚ := 0

/-- The state of the sensor.  `sent` are the data built, the latest first. -/
structure Health extends Books where
  m_LastPosture : String := ""
  m_LastPostureTime : ℚ := 0
  m_RobotFallenCount : ℕ := 0
  m_bBatteryCharging : Bool := false
  m_LastCriticalFailure : ℚ := 0
  m_LastRepairAlert : ℚ := 0
  m_LastLowBattery : ℚ := 0
  m_LastAbnormalTemp : ℚ := 0
  lastCheck : ℚ := 0
  phase : Phase := .idle
  clock : ℚ := 0
  sent : List HealthData := []

/-! ## Names and postures -/

/-- `std::string::substr` -/
def substr (s : String) (pos n : ℕ) : String :=
  String.ofList ((s.toList.drop pos).take n)

/-- The key without the surroundings all keys have. -/
def stripKey (u : StringUtil) (key : String) : String :=
  match u.find key "Diagnosis/Active/" with
  | some pos => substr key (pos + 17) key.length
  | none =>
      match u.find key "Device/SubDeviceList/",
        u.find key "Sensor/Value" with
      | some 0, some suffix =>
          -- the length wraps around where the suffix comes too early
          if suffix < 22 then substr key 21 key.length
          else substr key 21 (suffix - 22)
      | _, _ => key

/-- `SimplifyKey` -/
def simplifyKey (u : StringUtil) (key : String) : String :=
  let simpleKey := stripKey u key
  let simpleKey :=
    if u.startsWith simpleKey "L" then
      "Left" ++ substr simpleKey 1 simpleKey.length
    else simpleKey
  if u.startsWith simpleKey "R" then
    "Right" ++ substr simpleKey 1 simpleKey.length
  else simpleKey

/-- `IsStablePosture` -/
def isStablePosture (cfg : Config) (posture : String) : Bool :=
  cfg.m_StablePostures.any fun stable =>
    stable.toList.isPrefixOf posture.toList

/-- `IsHeadJoint` -/
def isHeadJoint (u : StringUtil) (joint : String) : Bool :=
  u.wildMatch "Head*Temperature*" joint

/-- `IsImportantJoint` -/
def isImportantJoint (u : StringUtil) (cfg : Config) (joint : String) : Bool :=
  cfg.m_ImportantJoints.any fun pattern => u.wildMatch pattern joint

/-! ## The books -/

namespace Books

/-- A sensor that fails is remembered with the time it began to. -/
def fail (sensor : String) (now : ℚ) (b : Books) : Books :=
  match b.m_FailedSensors.lookup sensor with
  | some _ => b
  | none => { b with m_FailedSensors := b.m_FailedSensors.insert sensor now }

/-- A sensor that has recovered goes from one map to the other.  `stale` is
what is read through the iterator whose entry has just been erased. -/
def recover (u : StringUtil) (sensor : String) (stale : ℚ) (b : Books) :
    Books :=
  match b.m_FailedSensors.lookup sensor with
  | none => b
  | some _ =>
      { b with
        m_FailedSensors := b.m_FailedSensors.erase sensor
        m_RecoveredSensors :=
          b.m_RecoveredSensors.insert (u.format sensor stale) stale }

/-- The code read for a key becomes its latest. -/
def read (key : String) (code : ℤ) (now : ℚ) (b : Books) : Books :=
  { b with
    history := fun k =>
      if k = key then b.history k ++ [(code, now)] else b.history k }

/-- The loop of `FilterRecoveredSensorsMap`: it goes on to the next entry that
has expired and erases it.  `++it` then moves on from the erased entry, to
`answers.head`; without an answer the loop ends. -/
def filterWalk (expired : Entry → Bool) :
    List (List Entry) → List Entry → Times → Times
  | [], visit, m =>
      match visit.find? expired with
      | none => m
      | some x => m.erase x.1
  | next :: answers, visit, m =>
      match visit.find? expired with
      | none => m
      | some x => filterWalk expired answers next (m.erase x.1)

/-- The entry is older than `m_CriticalFailureLifespan`. -/
def expired (cfg : Config) (now : ℚ) (x : Entry) : Bool :=
  decide (now - x.2 > cfg.m_CriticalFailureLifespan)

/-- The recovered sensors without those that recovered a while ago. -/
def filterRecovered (cfg : Config) (answers : List (List Entry)) (now : ℚ)
    (b : Books) : Books :=
  { b with
    m_RecoveredSensors := filterWalk (expired cfg now) answers
      b.m_RecoveredSensors.entries b.m_RecoveredSensors
    filtered := now }

end Books

namespace Health

/-- `IsRestPosture` -/
def isRestPosture (s : Health) : Bool := decide (s.m_LastPosture = "Crouch")

/-- `BuildHealthData` -/
def buildHealthData (name sensor state : String) (value : ℚ)
    (error raiseAlert : Bool) (time : ℚ) (s : Health) : Health :=
  { s with
    sent := ⟨name, sensor, state, value, error, raiseAlert, time⟩ :: s.sent }

/-! ## The notifiers -/

/-- `OnPostureChanged` -/
def onPostureChanged (cfg : Config) (posture : String) (t : Clock)
    (s : Health) : Health :=
  let s := { s with m_LastPosture := posture }.buildHealthData
    "PostureChanged" "" posture 0 false false t.build
  { s with
    m_RobotFallenCount :=
      if isStablePosture cfg posture then 0 else s.m_RobotFallenCount
    m_LastPostureTime := t.mark }

/-- `OnVolumeChanged` -/
def onVolumeChanged (volume : ℚ) (t : Clock) (s : Health) : Health :=
  s.buildHealthData "volume" "" "" volume false false t.build

/-- `OnBatteryPowerChanged`, for one integer argument. -/
def onBatteryPowerChanged (flag : ℤ) (t : Clock) (s : Health) : Health :=
  let charging := decide (flag ≠ 0)
  { s with m_bBatteryCharging := charging }.buildHealthData
    "batteryCharging" "" (if charging then "plugged" else "unplugged") 0 false
    false t.build

/-! ## The beginning of a round -/

/-- The recovery from a fall. -/
def fallRecovery (cfg : Config) (t : Clock) (s : Health) : Health :=
  if cfg.m_bEnableFallRecovery then
    if s.m_LastPosture ≠ "" ∧ isStablePosture cfg s.m_LastPosture = false then
      if 0 < s.m_RobotFallenCount then
        s.buildHealthData "FallenRobotRecoveryFailure" "" "CRITICAL"
          s.m_RobotFallenCount true true t.now
      else if t.now - s.m_LastPostureTime > cfg.m_fTimeForPostureTransition then
        { s with m_RobotFallenCount := s.m_RobotFallenCount + 1 }
      else s
    else { s with m_RobotFallenCount := 0 }
  else s

/-- The alert for a low battery. -/
def checkBattery (cfg : Config) (batteryCharge : ℚ) (t : Clock)
    (s : Health) : Health :=
  if batteryCharge < cfg.m_fLowBatteryThreshold ∧
      s.m_bBatteryCharging = false then
    if t.check - s.m_LastLowBattery > cfg.m_LowBatteryBufferTime then
      { s.buildHealthData "BatteryLow" "" "CRITICAL" batteryCharge true true
          t.build with
        m_LastLowBattery := t.mark }
    else s
  else s

/-- What the proxies report at the beginning of a round. -/
structure Report where
  systemVersion : String
  timezone : String
  batteryCharge : ℚ
  outputVolume : ℚ
  muted : Bool

/-- The sections of a round up to the device values. -/
def beginRound (cfg : Config) (r : Report) (t : Clock) (s : Health) : Health :=
  let s := { s with lastCheck := t.now }.fallRecovery cfg t
  let s := s.buildHealthData "PostureChanged" "" s.m_LastPosture 0 false false
    t.now
  let s := s.buildHealthData "systemVersion" "" r.systemVersion 0 false false
    t.now
  let s := s.buildHealthData "timezone" "" r.timezone 0 false false t.now
  let s := s.checkBattery cfg r.batteryCharge t
  let s := s.buildHealthData "batteryCharge" ""
    (if s.m_bBatteryCharging then "plugged" else "unplugged") r.batteryCharge
    false false t.mark
  let s := s.buildHealthData "volume" "" "" r.outputVolume false false t.mark
  s.buildHealthData "audioOut" "" (if r.muted then "Muted" else "NotMuted") 0
    false false t.mark

/-! ## Device values -/

/-- A number read for a device. -/
def numberReading (u : StringUtil) (cfg : Config) (joint : String) (x : ℚ)
    (t : Clock) (s : Health) : Health :=
  if (isHeadJoint u joint = true ∧ x > cfg.m_fHeadHighTempThreshold) ∨
      (isImportantJoint u cfg joint = true ∧
        (x > cfg.m_fHighTempThreshold ∨ x < cfg.m_fLowTempThreshold)) then
    if t.check - s.m_LastAbnormalTemp > cfg.m_AbnormalTempBufferTime then
      { s.buildHealthData "TemperatureAbnormal" joint "CRITICAL" x true
          (!s.isRestPosture) t.build with
        m_LastAbnormalTemp := t.mark }
    else
      s.buildHealthData "TemperatureAbnormal" joint "CRITICAL" x true false
        t.build
  else s.buildHealthData joint joint "" x false false t.build

/-- One round of the loop over `m_SensorReadings`. -/
def sensorReading (u : StringUtil) (cfg : Config) (key : String) (data : Data)
    (t : Clock) (s : Health) : Health :=
  match data with
  | .missing => s
  | .int n => s.numberReading u cfg (simplifyKey u key) n t
  | .float x => s.numberReading u cfg (simplifyKey u key) x t
  | .other text =>
      s.buildHealthData (simplifyKey u key) (simplifyKey u key) text 0 false
        false t.build

/-! ## Error diagnosis -/

/-- The names of the failure levels. -/
def healthState (errorCode : ℤ) : String :=
  if errorCode = 0 then "NEGLIGIBLE"
  else if errorCode = 1 then "SERIOUS"
  else if errorCode = 2 then "CRITICAL"
  else ""

theorem healthState_eq_critical (code : ℤ) :
    healthState code = "CRITICAL" ↔ code = 2 := by
  unfold healthState
  split
  · simp [*]
  · split
    · simp [*]
    · split
      · simp [*]
      · simp [*]

/-- An integer code read for a sensor. -/
def errorCode (u : StringUtil) (cfg : Config) (sensor : String) (code : ℤ)
    (stale : ℚ) (t : Clock) (s : Health) : Health :=
  if healthState code = "CRITICAL" then
    let s := { s with toBooks := s.toBooks.fail sensor t.now }
    if t.check - s.m_LastCriticalFailure > cfg.m_CriticalFailureBufferTime then
      { s.buildHealthData "SensorErrorCritical" sensor (healthState code) code
          (decide (0 < code)) (!s.isRestPosture) t.build with
        m_LastCriticalFailure := t.mark }
    else
      s.buildHealthData "SensorErrorCritical" sensor (healthState code) code
        (decide (0 < code)) false t.build
  else
    let s := { s with toBooks := s.toBooks.recover u sensor stale }
    s.buildHealthData "SensorErrorCritical" sensor (healthState code) code
      (decide (0 < code)) (!s.isRestPosture) t.build

/-- One round of the loop over `m_ErrorDiagnosis`. -/
def errorDiagnosis (u : StringUtil) (cfg : Config) (key : String) (data : Data)
    (stale : ℚ) (t : Clock) (s : Health) : Health :=
  match data with
  | .int code =>
      let s := s.errorCode u cfg (simplifyKey u key) code stale t
      { s with toBooks := s.toBooks.read key code t.now }
  | _ => s

/-! ## The end of a round -/

/-- `FilterRecoveredSensorsMap` -/
def filterRecoveredSensorsMap (cfg : Config) (answers : List (List Entry))
    (t : Clock) (s : Health) : Health :=
  { s with toBooks := s.toBooks.filterRecovered cfg answers t.now }

/-- The number of failures and the alert for too many of them. -/
def checkRepair (cfg : Config) (t : Clock) (s : Health) : Health :=
  let failuresInWindow :=
    s.m_FailedSensors.entries.length + s.m_RecoveredSensors.entries.length
  let s := { s with failuresInWindow := failuresInWindow }
  if cfg.m_RepairThreshold ≤ failuresInWindow then
    if t.check - s.m_LastRepairAlert > cfg.m_RepairAlertBufferTime then
      { s.buildHealthData "SensorErrorRepair" "" "CRITICAL" failuresInWindow
          true (!s.isRestPosture) t.build with
        m_LastRepairAlert := t.mark }
    else s
  else s

/-! ## The machine -/

/-- What can happen: a notifier runs, or the loop takes its next section. -/
inductive Action
  | onPostureChanged (posture : String)
  | onVolumeChanged (volume : ℚ)
  | onBatteryPowerChanged (flag : ℤ)
  | beginRound (r : Report)
  | sensorReading (data : Data)
  | errorDiagnosis (data : Data) (stale : ℚ)
  | endRound (answers : List (List Entry))

/-- The effect of an action, where it is possible. -/
def act (u : StringUtil) (cfg : Config) (s : Health) (a : Action) (t : Clock) :
    Option Health :=
  match a, s.phase with
  | .onPostureChanged posture, _ => some (s.onPostureChanged cfg posture t)
  | .onVolumeChanged volume, _ => some (s.onVolumeChanged volume t)
  | .onBatteryPowerChanged flag, _ => some (s.onBatteryPowerChanged flag t)
  | .beginRound r, .idle =>
      if t.now - s.lastCheck > cfg.m_HealthSensorCheckInterval then
        some { s.beginRound cfg r t with
          phase := .checking cfg.m_SensorReadings cfg.m_ErrorDiagnosis }
      else none
  | .sensorReading data, .checking (key :: readings) diagnoses =>
      some { s.sensorReading u cfg key data t with
        phase := .checking readings diagnoses }
  | .errorDiagnosis data stale, .checking [] (key :: diagnoses) =>
      some { s.errorDiagnosis u cfg key data stale t with
        phase := .checking [] diagnoses }
  | .endRound answers, .checking [] [] =>
      some { (s.filterRecoveredSensorsMap cfg answers t).checkRepair cfg t with
        phase := .idle }
  | _, _ => none

/-- One action, at a time that is not earlier than the last one. -/
def step (u : StringUtil) (cfg : Config) (s : Health) (e : Action × Clock) :
    Option Health :=
  if s.clock ≤ e.2.now then
    (s.act u cfg e.1 e.2).map fun t => { t with clock := e.2.mark }
  else none

/-- What an action does: a notifier reports something, or the loop takes the
section that is next. -/
theorem act_cases {u : StringUtil} {cfg : Config} {s s' : Health} {a : Action}
    {t : Clock} (h : s.act u cfg a t = some s') :
    (∃ posture, a = .onPostureChanged posture ∧
        s' = s.onPostureChanged cfg posture t) ∨
      (∃ volume, a = .onVolumeChanged volume ∧
        s' = s.onVolumeChanged volume t) ∨
      (∃ flag, a = .onBatteryPowerChanged flag ∧
        s' = s.onBatteryPowerChanged flag t) ∨
      (∃ r, a = .beginRound r ∧ s.phase = .idle ∧
        s' = { s.beginRound cfg r t with
          phase := .checking cfg.m_SensorReadings cfg.m_ErrorDiagnosis }) ∨
      (∃ data key readings diagnoses, a = .sensorReading data ∧
        s.phase = .checking (key :: readings) diagnoses ∧
        s' = { s.sensorReading u cfg key data t with
          phase := .checking readings diagnoses }) ∨
      (∃ data stale key diagnoses, a = .errorDiagnosis data stale ∧
        s.phase = .checking [] (key :: diagnoses) ∧
        s' = { s.errorDiagnosis u cfg key data stale t with
          phase := .checking [] diagnoses }) ∨
      (∃ answers, a = .endRound answers ∧ s.phase = .checking [] [] ∧
        s' = { (s.filterRecoveredSensorsMap cfg answers t).checkRepair cfg t
          with phase := .idle }) := by
  unfold act at h
  split at h
  · exact Or.inl ⟨_, rfl, (Option.some.inj h).symm⟩
  · exact Or.inr (Or.inl ⟨_, rfl, (Option.some.inj h).symm⟩)
  · exact Or.inr (Or.inr (Or.inl ⟨_, rfl, (Option.some.inj h).symm⟩))
  · obtain ⟨-, h⟩ := Option.ite_none_right_eq_some.mp h
    exact Or.inr (Or.inr (Or.inr (Or.inl
      ⟨_, rfl, ‹_›, (Option.some.inj h).symm⟩)))
  · exact Or.inr (Or.inr (Or.inr (Or.inr (Or.inl
      ⟨_, _, _, _, rfl, ‹_›, (Option.some.inj h).symm⟩))))
  · exact Or.inr (Or.inr (Or.inr (Or.inr (Or.inr (Or.inl
      ⟨_, _, _, _, rfl, ‹_›, (Option.some.inj h).symm⟩)))))
  · exact Or.inr (Or.inr (Or.inr (Or.inr (Or.inr (Or.inr
      ⟨_, rfl, ‹_›, (Option.some.inj h).symm⟩)))))
  · cases h

/-- A step is an action at a time that is not too early. -/
theorem step_cases {u : StringUtil} {cfg : Config} {s s' : Health}
    {e : Action × Clock} (h : s.step u cfg e = some s') :
    s.clock ≤ e.2.now ∧ ∃ s'', s.act u cfg e.1 e.2 = some s'' ∧
      s' = { s'' with clock := e.2.mark } := by
  obtain ⟨hle, h⟩ := Option.ite_none_right_eq_some.mp h
  obtain ⟨s'', hact, rfl⟩ := Option.map_eq_some_iff.mp h
  exact ⟨hle, s'', hact, rfl⟩

/-- The state in which `OnStart` starts the loop. -/
def start (cfg : Config) (t : Clock) : Health :=
  { ({} : Health).onPostureChanged cfg "Stand" t with
    lastCheck := t.mark
    clock := t.mark
    filtered := t.mark }

end Health

end SelfPlugins.Nao
