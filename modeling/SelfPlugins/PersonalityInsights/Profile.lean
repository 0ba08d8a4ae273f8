import SelfPlugins.Framework.Serializable

/-!
# Personality profiles

The data models of the Personality Insights service.  A `Profile` holds trees
of traits, which may be of any depth and width, and categories of consumption
preferences.

Deserializing what was serialized is shown along the trees: the elements of a
vector are read back (`VectorFormat.deserializeVector_of_lookup`), and then the
object that holds them is.
-/

namespace SelfPlugins.PersonalityInsights

open Json (Value VectorFormat lookup assign)

/-- `m_Children` are the traits below this one. -/
structure Trait where
  m_TraitId : String
  m_Name : String
  m_Category : String
  m_Percentile : ℚ
  m_Children : List Trait

structure ConsumptionPreference where
  m_ConsumptionPreferenceId : String
  m_Name : String
  m_Score : ℚ

structure ConsumptionPreferenceCategory where
  m_ConsumptionPreferenceCategoryId : String
  m_Name : String
  m_ConsumptionPreferences : List ConsumptionPreference

structure Profile where
  m_WordCount : ℚ
  m_WordCountMessage : String
  m_ProcessedLanguage : String
  m_Personality : List Trait
  m_Needs : List Trait
  m_Values : List Trait
  m_ConsumptionPreferences : List ConsumptionPreferenceCategory

/-- What the library and the allocator contribute: the format of vectors, the
text of a floating-point number, and the number that stands in a member which
no constructor sets. -/
structure Environment where
  vectors : VectorFormat
  realText : ℚ → String
  blank : ℚ

variable (env : Environment)

/-! ## Traits -/

namespace Trait

def new : Trait where
  m_TraitId := ""
  m_Name := ""
  m_Category := ""
  m_Percentile := env.blank
  m_Children := []

theorem sizeOf_lt_of_mem_children {s c : Trait} (hc : c ∈ s.m_Children) :
    sizeOf c < sizeOf s := by
  have hlt := List.sizeOf_lt_of_mem hc
  cases s
  rw [Trait.mk.sizeOf_spec]
  dsimp only at hlt
  omega

def serialize (s : Trait) (json : List (String × Value)) :
    List (String × Value) :=
  let json := assign "trait_id" (.string s.m_TraitId) json
  let json := assign "name" (.string s.m_Name) json
  let json := assign "category" (.string s.m_Category) json
  let json := assign "percentile" (.real s.m_Percentile) json
  env.vectors.serializeVector "children"
    (s.m_Children.map fun c => .object (serialize c [])) json
termination_by sizeOf s
decreasing_by
  exact sizeOf_lt_of_mem_children ‹_›

def deserialize (json : Value) (s : Trait) : Option Trait := do
  let m_TraitId ← json.read? "trait_id" (Value.asString? env.realText)
    s.m_TraitId
  let m_Name ← json.read? "name" (Value.asString? env.realText) s.m_Name
  let m_Category ← json.read? "category" (Value.asString? env.realText)
    s.m_Category
  let m_Percentile ← json.read? "percentile" Value.asDouble? s.m_Percentile
  let m_Children ←
    if ← json.isMember? "children" then
      env.vectors.deserializeVector "children" json
        (fun w => deserialize w.1 (new env)) s.m_Children
    else some s.m_Children
  return { s with
    m_TraitId
    m_Name
    m_Category
    m_Percentile
    m_Children }
termination_by sizeOf json
decreasing_by exact env.vectors.sizeOf_lt_of_mem_elements w.2

@[simp] theorem mk_eta (t : Trait) :
    mk t.m_TraitId t.m_Name t.m_Category t.m_Percentile t.m_Children = t := by
  cases t
  rfl

/-- A trait is read back with all traits below it. -/
theorem deserialize_serialize (t : Trait) (json : List (String × Value))
    (s : Trait) :
    deserialize env (.object (serialize env t json)) s = some t := by
  have hchildren : ∀ ms, lookup "children" ms =
      some (env.vectors.store
        (t.m_Children.map fun c => .object (serialize env c []))) →
      env.vectors.deserializeVector "children" (.object ms)
        (fun w => deserialize env w.1 (new env)) s.m_Children =
          some t.m_Children := fun ms =>
    env.vectors.deserializeVector_of_lookup
      (fun w => deserialize env w (new env))
      (fun c _ => deserialize_serialize c [] (new env)) s.m_Children
  rw [deserialize, serialize]
  simp [VectorFormat.serializeVector, hchildren]
termination_by sizeOf t
decreasing_by
  exact sizeOf_lt_of_mem_children ‹_›

end Trait

/-! ## Consumption preferences -/

namespace ConsumptionPreference

def new : ConsumptionPreference where
  m_ConsumptionPreferenceId := ""
  m_Name := ""
  m_Score := env.blank

def serialize (s : ConsumptionPreference) (json : List (String × Value)) :
    List (String × Value) :=
  let json := assign "consumption_preference_id"
    (.string s.m_ConsumptionPreferenceId) json
  let json := assign "name" (.string s.m_Name) json
  assign "score" (.real s.m_Score) json

def deserialize (json : Value) (s : ConsumptionPreference) :
    Option ConsumptionPreference := do
  let m_ConsumptionPreferenceId ← json.read? "consumption_preference_id"
    (Value.asString? env.realText) s.m_ConsumptionPreferenceId
  let m_Name ← json.read? "name" (Value.asString? env.realText) s.m_Name
  let m_Score ← json.read? "score" Value.asDouble? s.m_Score
  return { s with
    m_ConsumptionPreferenceId
    m_Name
    m_Score }

theorem deserialize_serialize (p : ConsumptionPreference)
    (json : List (String × Value)) (s : ConsumptionPreference) :
    deserialize env (.object (p.serialize json)) s = some p := by
  simp [deserialize, serialize]

end ConsumptionPreference

namespace ConsumptionPreferenceCategory

def new : ConsumptionPreferenceCategory where
  m_ConsumptionPreferenceCategoryId := ""
  m_Name := ""
  m_ConsumptionPreferences := []

def serialize (s : ConsumptionPreferenceCategory)
    (json : List (String × Value)) : List (String × Value) :=
  let json := assign "consumption_preference_category_id"
    (.string s.m_ConsumptionPreferenceCategoryId) json
  let json := assign "name" (.string s.m_Name) json
  env.vectors.serializeVector "consumption_preferences"
    (s.m_ConsumptionPreferences.map fun p => .object (p.serialize [])) json

def deserialize (json : Value) (s : ConsumptionPreferenceCategory) :
    Option ConsumptionPreferenceCategory := do
  let m_ConsumptionPreferenceCategoryId ←
    json.read? "consumption_preference_category_id"
      (Value.asString? env.realText) s.m_ConsumptionPreferenceCategoryId
  let m_Name ← json.read? "name" (Value.asString? env.realText) s.m_Name
  let m_ConsumptionPreferences ←
    env.vectors.deserializeVector "consumption_preferences" json
      (fun w => ConsumptionPreference.deserialize env w.1 (.new env))
      s.m_ConsumptionPreferences
  return { s with
    m_ConsumptionPreferenceCategoryId
    m_Name
    m_ConsumptionPreferences }

theorem deserialize_serialize (c : ConsumptionPreferenceCategory)
    (json : List (String × Value)) (s : ConsumptionPreferenceCategory) :
    deserialize env (.object (c.serialize env json)) s = some c := by
  have hpreferences : ∀ ms, lookup "consumption_preferences" ms =
      some (env.vectors.store (c.m_ConsumptionPreferences.map fun p =>
        .object (p.serialize []))) →
      env.vectors.deserializeVector "consumption_preferences" (.object ms)
        (fun w => ConsumptionPreference.deserialize env w.1 (.new env))
        s.m_ConsumptionPreferences = some c.m_ConsumptionPreferences :=
    fun ms =>
      env.vectors.deserializeVector_of_lookup
        (fun w => ConsumptionPreference.deserialize env w (.new env))
        (fun p _ => ConsumptionPreference.deserialize_serialize env p [] _)
        s.m_ConsumptionPreferences
  simp [deserialize, serialize, VectorFormat.serializeVector, hpreferences]

end ConsumptionPreferenceCategory

/-! ## Profiles -/

namespace Profile

def new : Profile where
  m_WordCount := env.blank
  m_WordCountMessage := ""
  m_ProcessedLanguage := ""
  m_Personality := []
  m_Needs := []
  m_Values := []
  m_ConsumptionPreferences := []

def serialize (s : Profile) (json : List (String × Value)) :
    List (String × Value) :=
  let traits := List.map fun t : Trait => Value.object (t.serialize env [])
  let json := assign "word_count" (.real s.m_WordCount) json
  let json := assign "word_count_message" (.string s.m_WordCountMessage) json
  let json := assign "processed_language" (.string s.m_ProcessedLanguage) json
  let json := env.vectors.serializeVector "personality"
    (traits s.m_Personality) json
  let json := env.vectors.serializeVector "needs" (traits s.m_Needs) json
  let json := env.vectors.serializeVector "values" (traits s.m_Values) json
  env.vectors.serializeVector "consumption_preferences"
    (s.m_ConsumptionPreferences.map fun c => .object (c.serialize env [])) json

def deserialize (json : Value) (s : Profile) : Option Profile := do
  let trait := fun w : Value => Trait.deserialize env w (.new env)
  let m_WordCount ← json.read? "word_count" Value.asDouble? s.m_WordCount
  let m_WordCountMessage ← json.read? "word_count_message"
    (Value.asString? env.realText) s.m_WordCountMessage
  let m_ProcessedLanguage ← json.read? "processed_language"
    (Value.asString? env.realText) s.m_ProcessedLanguage
  let m_Personality ← env.vectors.deserializeVector "personality" json
    (fun w => trait w.1) s.m_Personality
  let m_Needs ← env.vectors.deserializeVector "needs" json
    (fun w => trait w.1) s.m_Needs
  let m_Values ← env.vectors.deserializeVector "values" json
    (fun w => trait w.1) s.m_Values
  let m_ConsumptionPreferences ←
    env.vectors.deserializeVector "consumption_preferences" json
      (fun w => ConsumptionPreferenceCategory.deserialize env w.1 .new)
      s.m_ConsumptionPreferences
  return { s with
    m_WordCount
    m_WordCountMessage
    m_ProcessedLanguage
    m_Personality
    m_Needs
    m_Values
    m_ConsumptionPreferences }

theorem deserialize_serialize (p : Profile) (json : List (String × Value))
    (s : Profile) :
    deserialize env (.object (p.serialize env json)) s = some p := by
  have htraits : ∀ name ms (ts old : List Trait), lookup name ms =
      some (env.vectors.store
        (ts.map fun t => .object (t.serialize env []))) →
      env.vectors.deserializeVector name (.object ms)
        (fun w => Trait.deserialize env w.1 (.new env)) old = some ts :=
    fun name ms ts old =>
      env.vectors.deserializeVector_of_lookup
        (fun w => Trait.deserialize env w (.new env))
        (fun t _ => Trait.deserialize_serialize env t [] _) old
  have hcategories : ∀ ms, lookup "consumption_preferences" ms =
      some (env.vectors.store (p.m_ConsumptionPreferences.map fun c =>
        .object (c.serialize env []))) →
      env.vectors.deserializeVector "consumption_preferences" (.object ms)
        (fun w => ConsumptionPreferenceCategory.deserialize env w.1 .new)
        s.m_ConsumptionPreferences = some p.m_ConsumptionPreferences :=
    fun ms =>
      env.vectors.deserializeVector_of_lookup
        (fun w => ConsumptionPreferenceCategory.deserialize env w .new)
        (fun c _ =>
          ConsumptionPreferenceCategory.deserialize_serialize env c [] _)
        s.m_ConsumptionPreferences
  have hpersonality := fun ms =>
    htraits "personality" ms p.m_Personality s.m_Personality
  have hneeds := fun ms => htraits "needs" ms p.m_Needs s.m_Needs
  have hvalues := fun ms => htraits "values" ms p.m_Values s.m_Values
  simp [deserialize, serialize, VectorFormat.serializeVector, hpersonality,
    hneeds, hvalues, hcategories]

/-- A new profile that reads what was written is the profile that was written,
and it writes the same. -/
theorem roundTrip (p : Profile) (json : List (String × Value)) :
    deserialize env (.object (p.serialize env json)) (new env) = some p ∧
      ∀ q, deserialize env (.object (p.serialize env json)) (new env) =
        some q → q.serialize env json = p.serialize env json := by
  have hread := deserialize_serialize env p json (new env)
  refine ⟨hread, fun q hq => ?_⟩
  rw [Option.some.inj (hq.symm.trans hread)]

end Profile

end SelfPlugins.PersonalityInsights
