import SelfPlugins.Framework.Serializable

/-!
# Saved configurations

`Serialize` writes the configured members of a service, a proxy or a sensor
into JSON, from which `Deserialize` reads them into a new object.  What the
base classes write comes first.  A `double` or a `float` is the number it
stands for.

Four classes of the plugins save a member that they do not load: its value is
read under the guard of another member, is never read or never written, or has
two names.  `restored_iff` says which objects survive all the same.
-/

namespace SelfPlugins.Configuration

open Json (Value VectorFormat lookup assign)

/-- What the base classes of an object write: members with names other than
those the class itself uses. -/
structure Base (own : List String) where
  members : List (String × Value)
  lookup_eq_none : ∀ key ∈ own, lookup key members = none

/-- The members of an object the base classes of which write nothing. -/
def Base.empty (own : List String) : Base own where
  members := []
  lookup_eq_none _ _ := rfl

/-- The values of `LogLevel`. -/
abbrev LogLevel := Int32

/-! ## The robot gateway -/

structure RobotGateway where
  m_bApplyRemoteConfigs : Bool
  m_bApplyParentHost : Bool
  m_PersistLogInterval : ℚ
  m_PersistLogLevel : LogLevel
  m_HeartBeatInterval : ℚ
  m_PersistLogFilter : List String
deriving DecidableEq

namespace RobotGateway

def keys : List String :=
  ["m_bApplyRemoteConfigs", "m_bApplyParentHost", "m_PersistLogInterval",
    "m_PersistLogLevel", "m_HeartBeatInterval", "m_PersistLogFilter"]

/-- A new gateway; `debugLow` is `LL_DEBUG_LOW`. -/
def new (debugLow : LogLevel) : RobotGateway where
  m_bApplyRemoteConfigs := true
  m_bApplyParentHost := true
  m_PersistLogInterval := 60
  m_PersistLogLevel := debugLow
  m_HeartBeatInterval := 15
  m_PersistLogFilter := []

def serialize (fmt : VectorFormat) (s : RobotGateway)
    (json : List (String × Value)) : List (String × Value) :=
  let json := assign "m_bApplyRemoteConfigs" (.bool s.m_bApplyRemoteConfigs)
    json
  let json := assign "m_bApplyParentHost" (.bool s.m_bApplyParentHost) json
  let json := assign "m_PersistLogInterval" (.real s.m_PersistLogInterval) json
  let json := assign "m_PersistLogLevel" (.int s.m_PersistLogLevel.toInt) json
  let json := assign "m_HeartBeatInterval" (.real s.m_HeartBeatInterval) json
  fmt.serializeVector "m_PersistLogFilter"
    (s.m_PersistLogFilter.map Value.string) json

/-- The level is read if the interval is an integral number, and the heart
beat if the interval is a number. -/
def deserialize (fmt : VectorFormat) (realText : ℚ → String) (json : Value)
    (s : RobotGateway) : Option RobotGateway := do
  let m_bApplyRemoteConfigs ← json.readIf? "m_bApplyRemoteConfigs" Value.isBool
    "m_bApplyRemoteConfigs" Value.asBool? s.m_bApplyRemoteConfigs
  let m_bApplyParentHost ← json.readIf? "m_bApplyParentHost" Value.isBool
    "m_bApplyParentHost" Value.asBool? s.m_bApplyParentHost
  let m_PersistLogFilter ← fmt.deserializeVector "m_PersistLogFilter" json
    (fun w => w.1.asString? realText) s.m_PersistLogFilter
  let m_PersistLogInterval ← json.readIf? "m_PersistLogInterval" Value.isDouble
    "m_PersistLogInterval" Value.asDouble? s.m_PersistLogInterval
  let m_PersistLogLevel ← json.readIf? "m_PersistLogInterval" Value.isInt
    "m_PersistLogLevel" Value.asInt? s.m_PersistLogLevel
  let m_HeartBeatInterval ← json.readIf? "m_PersistLogInterval" Value.isDouble
    "m_HeartBeatInterval" Value.asDouble? s.m_HeartBeatInterval
  return { s with
    m_bApplyRemoteConfigs
    m_bApplyParentHost
    m_PersistLogInterval
    m_PersistLogLevel
    m_HeartBeatInterval
    m_PersistLogFilter }

theorem deserialize_serialize (fmt : VectorFormat) (realText : ℚ → String)
    (debugLow : LogLevel) (json : List (String × Value)) (s : RobotGateway) :
    deserialize fmt realText (.object (s.serialize fmt json)) (new debugLow) =
      some { s with
        m_PersistLogLevel :=
          if (Value.real s.m_PersistLogInterval).isInt then s.m_PersistLogLevel
          else debugLow } := by
  have hfilter : ∀ ms, lookup "m_PersistLogFilter" ms =
      some (fmt.store (s.m_PersistLogFilter.map Value.string)) →
      fmt.deserializeVector "m_PersistLogFilter" (.object ms)
        (fun w => w.1.asString? realText) [] = some s.m_PersistLogFilter :=
    fun ms =>
      fmt.deserializeVector_of_lookup (Value.asString? realText)
        (fun x _ => Value.asString?_string _ x) []
  have hlevel : ∀ b : Bool, (if b then some s.m_PersistLogLevel
      else some debugLow) =
        some (if b then s.m_PersistLogLevel else debugLow) := by
    intro b
    split
    · rfl
    · rfl
  simp [deserialize, serialize, new, VectorFormat.serializeVector, hfilter,
    hlevel]

end RobotGateway

/-! ## The proxy of the conversation service -/

structure ConversationProxy where
  m_ServiceId : String
  m_WorkspaceKey : String
  m_WorkspaceId : String
  m_IntentOverride : String
  m_PreCacheFile : String
  m_Context : Value
  m_bUseCache : Bool
deriving DecidableEq

namespace ConversationProxy

def keys : List String :=
  ["m_ServiceId", "m_WorkspaceKey", "m_WorkspaceId", "m_IntentOverride",
    "m_Context", "m_PreCacheFile", "m_bUseCache"]

def new : ConversationProxy where
  m_ServiceId := "ConversationV1"
  m_WorkspaceKey := "workspace_id"
  m_WorkspaceId := "Self"
  m_IntentOverride := "m_IntentOverride"
  m_PreCacheFile := "shared/conversation-precache.txt"
  m_Context := .null
  m_bUseCache := true

/-- `m_bUseCache` is not written. -/
def serialize (s : ConversationProxy) (json : List (String × Value)) :
    List (String × Value) :=
  let json := assign "m_ServiceId" (.string s.m_ServiceId) json
  let json := assign "m_WorkspaceKey" (.string s.m_WorkspaceKey) json
  let json := assign "m_WorkspaceId" (.string s.m_WorkspaceId) json
  let json := assign "m_IntentOverride" (.string s.m_IntentOverride) json
  let json := assign "m_Context" s.m_Context json
  assign "m_PreCacheFile" (.string s.m_PreCacheFile) json

def deserialize (realText : ℚ → String) (json : Value)
    (s : ConversationProxy) : Option ConversationProxy := do
  let m_ServiceId ← json.read? "m_ServiceId" (Value.asString? realText)
    s.m_ServiceId
  let m_WorkspaceKey ← json.read? "m_WorkspaceKey" (Value.asString? realText)
    s.m_WorkspaceKey
  let m_WorkspaceId ← json.read? "m_WorkspaceId" (Value.asString? realText)
    s.m_WorkspaceId
  let m_IntentOverride ← json.read? "m_IntentOverride"
    (Value.asString? realText) s.m_IntentOverride
  let m_Context ← json.read? "m_Context" some s.m_Context
  let m_PreCacheFile ← json.read? "m_PreCacheFile" (Value.asString? realText)
    s.m_PreCacheFile
  let m_bUseCache ← json.read? "m_bUseCache" Value.asBool? s.m_bUseCache
  return { s with
    m_ServiceId
    m_WorkspaceKey
    m_WorkspaceId
    m_IntentOverride
    m_PreCacheFile
    m_Context
    m_bUseCache }

theorem deserialize_serialize (realText : ℚ → String) (base : Base keys)
    (s : ConversationProxy) :
    deserialize realText (.object (s.serialize base.members)) new =
      some { s with m_bUseCache := true } := by
  have hbase : lookup "m_bUseCache" base.members = none :=
    base.lookup_eq_none _ (by decide)
  simp [deserialize, serialize, new, hbase]

end ConversationProxy

/-! ## The remote camera -/

structure RemoteCamera where
  m_ServiceId : String
  m_Width : Int32
  m_Height : Int32
deriving DecidableEq

namespace RemoteCamera

def keys : List String := ["m_ServiceId", "m_Width", "m_Height"]

def new : RemoteCamera where
  m_ServiceId := ""
  m_Width := 320
  m_Height := 240

def serialize (s : RemoteCamera) (json : List (String × Value)) :
    List (String × Value) :=
  let json := assign "m_ServiceId" (.string s.m_ServiceId) json
  let json := assign "m_Width" (.int s.m_Width.toInt) json
  assign "m_Height" (.int s.m_Height.toInt) json

/-- The name of the service is read if it is an integral number. -/
def deserialize (realText : ℚ → String) (json : Value) (s : RemoteCamera) :
    Option RemoteCamera := do
  let m_ServiceId ← json.readIf? "m_ServiceId" Value.isInt "m_ServiceId"
    (Value.asString? realText) s.m_ServiceId
  let m_Width ← json.readIf? "m_Width" Value.isInt "m_Width" Value.asInt?
    s.m_Width
  let m_Height ← json.readIf? "m_Height" Value.isInt "m_Height" Value.asInt?
    s.m_Height
  return { s with
    m_ServiceId
    m_Width
    m_Height }

theorem deserialize_serialize (realText : ℚ → String)
    (json : List (String × Value)) (s : RemoteCamera) :
    deserialize realText (.object (s.serialize json)) new =
      some { s with m_ServiceId := "" } := by
  simp [deserialize, serialize, new]

end RemoteCamera

/-! ## The browser of Wayblazer -/

structure Wayblazer where
  m_HeartBeatInterval : Int32
  m_AvailabilitySuffix : String
  m_FunctionalSuffix : String
deriving DecidableEq

namespace Wayblazer

def keys : List String :=
  ["m_HeartBeatInterface", "m_HeartBeatInterval", "m_AvailabilitySuffix",
    "m_FunctionalSuffix"]

/-- A new browser; the constructor leaves the interval as it finds it. -/
def new (m_HeartBeatInterval : Int32) : Wayblazer where
  m_HeartBeatInterval := m_HeartBeatInterval
  m_AvailabilitySuffix := "/heartbeat"
  m_FunctionalSuffix := "/displayurl"

def serialize (s : Wayblazer) (json : List (String × Value)) :
    List (String × Value) :=
  let json := assign "m_HeartBeatInterface" (.int s.m_HeartBeatInterval.toInt)
    json
  let json := assign "m_AvailabilitySuffix" (.string s.m_AvailabilitySuffix)
    json
  assign "m_FunctionalSuffix" (.string s.m_FunctionalSuffix) json

def deserialize (realText : ℚ → String) (json : Value) (s : Wayblazer) :
    Option Wayblazer := do
  let m_HeartBeatInterval ← json.readIf? "m_HeartBeatInterval" Value.isNumeric
    "m_HeartBeatInterval" Value.asInt? s.m_HeartBeatInterval
  let m_AvailabilitySuffix ← json.readIf? "m_AvailabilitySuffix" Value.isString
    "m_AvailabilitySuffix" (Value.asString? realText) s.m_AvailabilitySuffix
  let m_FunctionalSuffix ← json.readIf? "m_FunctionalSuffix" Value.isString
    "m_FunctionalSuffix" (Value.asString? realText) s.m_FunctionalSuffix
  return { s with
    m_HeartBeatInterval
    m_AvailabilitySuffix
    m_FunctionalSuffix }

theorem deserialize_serialize (realText : ℚ → String) (base : Base keys)
    (blank : Int32) (s : Wayblazer) :
    deserialize realText (.object (s.serialize base.members)) (new blank) =
      some { s with m_HeartBeatInterval := blank } := by
  have hbase : lookup "m_HeartBeatInterval" base.members = none :=
    base.lookup_eq_none _ (by decide)
  simp [deserialize, serialize, new, hbase]

end Wayblazer

/-! ## Loading what was saved -/

/-- An object that is saved, with what its base classes write; for the browser
also the interval that stands in the new object. -/
inductive Saved where
  | robotGateway (base : Base RobotGateway.keys) (s : RobotGateway)
  | conversationProxy (base : Base ConversationProxy.keys)
      (s : ConversationProxy)
  | remoteCamera (base : Base RemoteCamera.keys) (s : RemoteCamera)
  | wayblazer (base : Base Wayblazer.keys) (blank : Int32) (s : Wayblazer)

/-- `Deserialize`, applied to a new object, restores every member of what was
saved. -/
def Saved.Restored (fmt : VectorFormat) (realText : ℚ → String)
    (debugLow : LogLevel) : Saved → Prop
  | .robotGateway base s =>
      RobotGateway.deserialize fmt realText
        (.object (s.serialize fmt base.members)) (.new debugLow) = some s
  | .conversationProxy base s =>
      ConversationProxy.deserialize realText
        (.object (s.serialize base.members)) .new = some s
  | .remoteCamera base s =>
      RemoteCamera.deserialize realText (.object (s.serialize base.members))
        .new = some s
  | .wayblazer base blank s =>
      Wayblazer.deserialize realText (.object (s.serialize base.members))
        (.new blank) = some s

/-- The members that are not loaded have the values they have in a new
object. -/
def Saved.Loadable (debugLow : LogLevel) : Saved → Prop
  | .robotGateway _ s =>
      (Value.real s.m_PersistLogInterval).isInt = true ∨
        s.m_PersistLogLevel = debugLow
  | .conversationProxy _ s => s.m_bUseCache = true
  | .remoteCamera _ s => s.m_ServiceId = ""
  | .wayblazer _ blank s => s.m_HeartBeatInterval = blank

/-- An object survives precisely if the member that is not loaded has the value
it has in a new object. -/
theorem restored_iff (fmt : VectorFormat) (realText : ℚ → String)
    (debugLow : LogLevel) (x : Saved) :
    x.Restored fmt realText debugLow ↔ x.Loadable debugLow := by
  cases x with
  | robotGateway base s =>
      rw [Saved.Restored, RobotGateway.deserialize_serialize,
        Option.some.injEq, Saved.Loadable]
      by_cases hint : (Value.real s.m_PersistLogInterval).isInt = true
      · rw [if_pos hint]
        exact ⟨fun _ => Or.inl hint, fun _ => rfl⟩
      · rw [if_neg hint, or_iff_right hint]
        constructor
        · intro h
          exact (congrArg RobotGateway.m_PersistLogLevel h).symm
        · rintro rfl
          rfl
  | conversationProxy base s =>
      rw [Saved.Restored, ConversationProxy.deserialize_serialize,
        Option.some.injEq, Saved.Loadable]
      constructor
      · intro h
        exact (congrArg ConversationProxy.m_bUseCache h).symm
      · intro h
        rw [← h]
  | remoteCamera base s =>
      rw [Saved.Restored, RemoteCamera.deserialize_serialize,
        Option.some.injEq, Saved.Loadable]
      constructor
      · intro h
        exact (congrArg RemoteCamera.m_ServiceId h).symm
      · intro h
        rw [← h]
  | wayblazer base blank s =>
      rw [Saved.Restored, Wayblazer.deserialize_serialize, Option.some.injEq,
        Saved.Loadable]
      constructor
      · intro h
        exact (congrArg Wayblazer.m_HeartBeatInterval h).symm
      · rintro rfl
        rfl

/-- The name of the service of a remote camera is lost. -/
theorem not_restored_remoteCamera :
    ¬(Saved.remoteCamera (.empty _) ⟨"PTZCameraV1", 640, 480⟩).Restored .arrays
      (fun _ => "") 0 := by
  intro h
  rw [Saved.Restored, RemoteCamera.deserialize_serialize] at h
  simp at h

end SelfPlugins.Configuration
