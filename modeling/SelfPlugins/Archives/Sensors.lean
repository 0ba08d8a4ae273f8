import SelfPlugins.Framework.Archive

/-!
# The saved members of sensors, gestures and agents

For each class the members that its own `Serialize` and `Deserialize` go
through; the base classes have others.
-/

namespace SelfPlugins.Archives

open Json (Formats Codec Archive texts)
open Json.Value (isInt isInt_int isBool isBool_bool isString isString_string)

/-- A list of texts, for which others stand where it would be empty. -/
def filled (texts : List String) : List String → List String
  | [] => texts
  | x :: xs => x :: xs

@[simp] theorem filled_filled (ts xs : List String) :
    filled ts (filled ts xs) = filled ts xs := by
  cases xs with
  | nil => cases ts with
    | nil => rfl
    | cons t ts => rfl
  | cons x xs => rfl

theorem filled_eq_self {t : String} {ts xs : List String} :
    filled (t :: ts) xs = xs ↔ xs ≠ [] := by
  cases xs with
  | nil =>
      exact ⟨fun h => absurd h (List.cons_ne_nil t ts), fun h => absurd rfl h⟩
  | cons x xs => exact ⟨fun _ => List.cons_ne_nil x xs, fun _ => rfl⟩

/-! ## Cameras -/

structure KinectCamera where
  m_Width : Int32
  m_Height : Int32

def KinectCamera.archive : Archive KinectCamera where
  members := [
    Codec.int.memberIf isInt isInt_int "m_Width" m_Width
      fun x s => { s with m_Width := x },
    Codec.int.memberIf isInt isInt_int "m_Height" m_Height
      fun x s => { s with m_Height := x }]

structure KinectDepthCamera where
  m_Width : Int32
  m_Height : Int32
  m_bNearMode : Bool

def KinectDepthCamera.archive : Archive KinectDepthCamera where
  members := [
    Codec.int.memberIf isInt isInt_int "m_Width" m_Width
      fun x s => { s with m_Width := x },
    Codec.int.memberIf isInt isInt_int "m_Height" m_Height
      fun x s => { s with m_Height := x },
    Codec.bool.memberIf isBool isBool_bool "m_bNearMode" m_bNearMode
      fun x s => { s with m_bNearMode := x }]

structure OpenCVCamera where
  m_CameraStream : String
  m_CameraDevice : Int32
  m_Width : Int32
  m_Height : Int32

def OpenCVCamera.archive (F : Formats) : Archive OpenCVCamera where
  members := [
    (Codec.string F).memberIf isString isString_string "m_CameraStream"
      m_CameraStream fun x s => { s with m_CameraStream := x },
    Codec.int.memberIf isInt isInt_int "m_CameraDevice" m_CameraDevice
      fun x s => { s with m_CameraDevice := x },
    Codec.int.memberIf isInt isInt_int "m_Width" m_Width
      fun x s => { s with m_Width := x },
    Codec.int.memberIf isInt isInt_int "m_Height" m_Height
      fun x s => { s with m_Height := x }]
  keys := ["m_CameraStream", "m_CameraDevice", "m_Width", "m_Height"]

structure PointGreyCamera where
  m_Width : Int32
  m_Height : Int32

def PointGreyCamera.archive : Archive PointGreyCamera where
  members := [
    Codec.int.memberIf isInt isInt_int "m_Width" m_Width
      fun x s => { s with m_Width := x },
    Codec.int.memberIf isInt isInt_int "m_Height" m_Height
      fun x s => { s with m_Height := x }]

structure NaoDepthCamera where
  m_Width : Int32
  m_Height : Int32

def NaoDepthCamera.archive : Archive NaoDepthCamera where
  members := [
    Codec.int.memberIf isInt isInt_int "m_Width" m_Width
      fun x s => { s with m_Width := x },
    Codec.int.memberIf isInt isInt_int "m_Height" m_Height
      fun x s => { s with m_Height := x }]

/-! ## Other sensors -/

structure RaspiMicrophone where
  m_Device : Int32
  m_SubDevice : Int32

def RaspiMicrophone.archive : Archive RaspiMicrophone where
  members := [
    Codec.int.memberIf isInt isInt_int "m_Device" m_Device
      fun x s => { s with m_Device := x },
    Codec.int.memberIf isInt isInt_int "m_SubDevice" m_SubDevice
      fun x s => { s with m_SubDevice := x }]

structure NaoGaze (F : Formats) where
  m_Tolerance : F.Float

def NaoGaze.archive (F : Formats) : Archive (NaoGaze F) where
  members := [
    (Codec.float F).member "m_Tolerance" m_Tolerance
      fun x s => { s with m_Tolerance := x }]
  keys := ["m_Tolerance"]

/-- The threshold is a `double`. -/
structure NaoGestureSensor (F : Formats) where
  m_MaxWaveDetectionRange : F.Float
  m_WaveThreshold : ℚ

def NaoGestureSensor.archive (F : Formats) : Archive (NaoGestureSensor F) where
  members := [
    (Codec.float F).member "m_MaxWaveDetectionRange" m_MaxWaveDetectionRange
      fun x s => { s with m_MaxWaveDetectionRange := x },
    (Codec.narrowed F).member "m_WaveThreshold" m_WaveThreshold
      fun x s => { s with m_WaveThreshold := x }]
  kept s := { s with m_WaveThreshold := F.toFloat s.m_WaveThreshold }
  keys := ["m_MaxWaveDetectionRange", "m_WaveThreshold"]
  kept_kept s := by rw [F.toFloat_toFloat]

structure NaoLaser (F : Formats) where
  m_LaserSensors : List String
  m_Interval : F.Float
  m_DistanceThreshold : F.Float

def NaoLaser.archive (F : Formats) : Archive (NaoLaser F) where
  members := [
    texts F "m_LaserSensors" m_LaserSensors
      fun x s => { s with m_LaserSensors := x },
    (Codec.float F).member "m_Interval" m_Interval
      fun x s => { s with m_Interval := x },
    (Codec.float F).member "m_DistanceThreshold" m_DistanceThreshold
      fun x s => { s with m_DistanceThreshold := x }]
  keys := ["m_LaserSensors", "m_Interval", "m_DistanceThreshold"]

structure NaoSonar (F : Formats) where
  m_SonarSensors : List String
  m_Interval : F.Float

def NaoSonar.archive (F : Formats) : Archive (NaoSonar F) where
  members := [
    texts F "m_SonarSensors" m_SonarSensors
      fun x s => { s with m_SonarSensors := x },
    (Codec.float F).member "m_Interval" m_Interval
      fun x s => { s with m_Interval := x }]
  keys := ["m_SonarSensors", "m_Interval"]

structure NaoHealthSensor (F : Formats) where
  m_RepairThreshold : Int32
  m_bEnableFallRecovery : Bool
  m_fTimeForPostureTransition : F.Float
  m_fLowTempThreshold : F.Float
  m_fHighTempThreshold : F.Float
  m_fHeadHighTempThreshold : F.Float
  m_CriticalFailureLifespan : ℚ
  m_CriticalFailureBufferTime : ℚ
  m_RepairAlertBufferTime : ℚ
  m_LowBatteryBufferTime : ℚ
  m_AbnormalTempBufferTime : ℚ
  m_StablePostures : List String
  m_ImportantJoints : List String

/-- The postures and joints for which there are none. -/
def NaoHealthSensor.finish {F : Formats} (s : NaoHealthSensor F) :
    NaoHealthSensor F :=
  { s with
    m_StablePostures := filled ["Stand"] s.m_StablePostures
    m_ImportantJoints := filled ["*Head*Temperature*"] s.m_ImportantJoints }

def NaoHealthSensor.archive (F : Formats) : Archive (NaoHealthSensor F) where
  members := [
    Codec.int.member "m_RepairThreshold" m_RepairThreshold
      fun x s => { s with m_RepairThreshold := x },
    Codec.bool.member "m_bEnableFallRecovery" m_bEnableFallRecovery
      fun x s => { s with m_bEnableFallRecovery := x },
    (Codec.float F).member "m_fTimeForPostureTransition"
      m_fTimeForPostureTransition
      fun x s => { s with m_fTimeForPostureTransition := x },
    (Codec.float F).member "m_fLowTempThreshold" m_fLowTempThreshold
      fun x s => { s with m_fLowTempThreshold := x },
    (Codec.float F).member "m_fHighTempThreshold" m_fHighTempThreshold
      fun x s => { s with m_fHighTempThreshold := x },
    (Codec.float F).member "m_fHeadHighTempThreshold" m_fHeadHighTempThreshold
      fun x s => { s with m_fHeadHighTempThreshold := x },
    Codec.double.member "m_CriticalFailureLifespan" m_CriticalFailureLifespan
      fun x s => { s with m_CriticalFailureLifespan := x },
    Codec.double.member "m_CriticalFailureBufferTime"
      m_CriticalFailureBufferTime
      fun x s => { s with m_CriticalFailureBufferTime := x },
    Codec.double.member "m_RepairAlertBufferTime" m_RepairAlertBufferTime
      fun x s => { s with m_RepairAlertBufferTime := x },
    Codec.double.member "m_LowBatteryBufferTime" m_LowBatteryBufferTime
      fun x s => { s with m_LowBatteryBufferTime := x },
    Codec.double.member "m_AbnormalTempBufferTime" m_AbnormalTempBufferTime
      fun x s => { s with m_AbnormalTempBufferTime := x },
    texts F "m_StablePostures" m_StablePostures
      fun x s => { s with m_StablePostures := x },
    texts F "m_ImportantJoints" m_ImportantJoints
      fun x s => { s with m_ImportantJoints := x }]
  finish := finish
  kept := finish
  keys := ["m_RepairThreshold", "m_bEnableFallRecovery",
    "m_fTimeForPostureTransition", "m_fLowTempThreshold",
    "m_fHighTempThreshold", "m_fHeadHighTempThreshold",
    "m_CriticalFailureLifespan", "m_CriticalFailureBufferTime",
    "m_RepairAlertBufferTime", "m_LowBatteryBufferTime",
    "m_AbnormalTempBufferTime", "m_StablePostures", "m_ImportantJoints"]
  finish_put s t := by
    simp only [List.foldl_cons, List.foldl_nil, Codec.member, texts,
      Codec.vector, Codec.int, Codec.bool, Codec.float, Codec.double, id]
  kept_kept s := by simp [finish]

/-! ## Gestures and agents -/

structure NaoPostureGesture where
  m_bStiffnessControl : Bool

def NaoPostureGesture.archive : Archive NaoPostureGesture where
  members := [
    Codec.bool.member "m_bStiffnessControl" m_bStiffnessControl
      fun x s => { s with m_bStiffnessControl := x }]

structure NaoSpeechGesture where
  m_Language : String

def NaoSpeechGesture.archive (F : Formats) : Archive NaoSpeechGesture where
  members := [
    (Codec.string F).member "m_Language" m_Language
      fun x s => { s with m_Language := x }]
  keys := ["m_Language"]

structure RemoteCameraAgent (F : Formats) where
  m_fPersonInterval : F.Float
  m_bSaySomething : Bool

def RemoteCameraAgent.archive (F : Formats) :
    Archive (RemoteCameraAgent F) where
  members := [
    (Codec.float F).member "m_fPersonInterval" m_fPersonInterval
      fun x s => { s with m_fPersonInterval := x },
    Codec.bool.member "m_bSaySomething" m_bSaySomething
      fun x s => { s with m_bSaySomething := x }]
  keys := ["m_fPersonInterval", "m_bSaySomething"]

end SelfPlugins.Archives
