import SelfPlugins.Conversation.Proxy
import SelfPlugins.Framework.Building
import SelfPlugins.Framework.WebClient
import SelfPlugins.Library.Errands

/-!
# The texts that are classified

`NLCProxy::ClassifyText` creates a `Request` for each text, which asks the
service for the class of the text and makes a result of the answer.  Without a
service that is configured the result is a failure, and comes at once.  A filter
of the proxy may have the result ignored; the log line about it wants a top
class that is a string, and throws otherwise.  The members that are read of the
result are created as null where they are missing.

The service may answer from its cache: the answer of a request is what its
callback is called with.

`texts_classified` says what becomes of the texts, and which answers are lost.
-/

namespace SelfPlugins.Watson.TextRequests

open Json (Value update?_spec)
open Runs Errands

/-- What the requests see of an `NLCProxy` and its service; `m_Filters` tells
which results its filters ignore. -/
structure Proxy where
  found : Bool
  isConfigured : Bool
  m_ClassifierId : String
  m_Filters : List (Value → Bool)
  m_bPriority : Bool

/-- `m_pNLC != NULL && m_pNLC->IsConfigured()` -/
def Proxy.ready (p : Proxy) : Bool := p.found && p.isConfigured

def Proxy.ignores (p : Proxy) (json : Value) : Bool :=
  p.m_Filters.any fun ignores => ignores json

/-- A request by `POST`. -/
structure Request where
  endpoint : String
  body : Value
  cacheRequest : CacheRequest String

/-- `NaturalLanguageClassifier::Classify`; the cache is that of the classifier,
where answers are kept by the hash of the text. -/
def classify (a_ClassifierId a_Text : String) : Request where
  endpoint := "/v1/classifiers/" ++ a_ClassifierId ++ "/classify"
  body := .object [("text", .string a_Text)]
  cacheRequest := ⟨a_ClassifierId, a_Text⟩

/-- A new result with a top class. -/
def named (result : Value) (topClass : String) : ClassifyResult where
  result := result
  topClass := topClass
  confidence := none
  priority := none
  hasParentProxy := false

/-- The confidence of the first class. -/
def topConfidence (json : Value) : Option ℚ := do
  let classes ← json.get? "classes"
  (← (← classes.at? 0).get? "confidence").asDouble?

/-- `m_Result["classes"][0]["confidence"]`, as an expression that creates what
is missing. -/
def touchConfidence (m_Result : Value) : Option Value :=
  m_Result.update? "classes" fun classes =>
    classes.updateAt? 0 fun first => first.update? "confidence" some

variable (realText : ℚ → String)

def onTextClassified (p : Proxy) (a_Result : Value) : Option ClassifyResult :=
  if a_Result.isNull then some (named a_Result "failure")
  else do
    let m_Result ← a_Result.update? "top_class" some
    let topClass ← m_Result.get? "top_class"
    if p.ignores a_Result then
      -- asCString() in the log line
      if topClass.isString then some (named m_Result "ignored") else none
    else do
      let topClass ← topClass.asString? realText
      let m_Result ← touchConfidence m_Result
      let confidence ← topConfidence m_Result
      return { named m_Result topClass with
        confidence := some confidence
        priority := some p.m_bPriority }

def errand : Errand Proxy String Request Value ClassifyResult Proxy where
  opens p a_Text :=
    if p.ready then .send (classify p.m_ClassifierId a_Text)
    -- OnTextClassified( Json::Value() )
    else .tell (named .null "failure") true
  closes p _ _ json := onTextClassified realText p json
  reacts _ p := some p

/-- The answers of which no result is made: ignored ones whose top class is no
string, and others whose top class or confidence cannot be read. -/
def Lost (p : Proxy) (json : Value) : Prop :=
  json ≠ .null ∧
    if p.ignores json then ¬ ∃ t, json.get? "top_class" = some (.string t)
    else ¬ ∃ t q, (json.get? "top_class").bind (Value.asString? realText) =
      some t ∧ topConfidence json = some q

/-- Reading a member through `operator[]` throws where it throws on a constant
value, and changes nothing that can be read. -/
theorem touch_cases (json : Value) (key : String) :
    json.get? key = none ∧ json.update? key some = none ∨
      ∃ v json', json.get? key = some v ∧ json.update? key some = some json' ∧
        ∀ l, json'.get? l = json.get? l := by
  cases hget : json.get? key with
  | none => exact Or.inl ⟨rfl, by simp [Value.update?, hget]⟩
  | some v =>
      obtain ⟨json', hjson', hread⟩ := update?_spec (f := some) hget rfl
      refine Or.inr ⟨v, json', rfl, hjson', fun l => ?_⟩
      rw [hread]
      split
      · rename_i hl
        rw [← hl, hget]
      · rfl

theorem touchFirst_cases (classes : Value) :
    ((classes.at? 0).bind fun c => c.get? "confidence") = none ∧
        classes.updateAt? 0 (fun c => c.update? "confidence" some) = none ∨
      ∃ v classes', ((classes.at? 0).bind fun c => c.get? "confidence") =
          some v ∧
        classes.updateAt? 0 (fun c => c.update? "confidence" some) =
          some classes' ∧
        ((classes'.at? 0).bind fun c => c.get? "confidence") = some v := by
  cases hat : classes.at? 0 with
  | none => exact Or.inl ⟨rfl, by simp [Value.updateAt?, hat]⟩
  | some c =>
      rcases touch_cases c "confidence" with
        ⟨hget, hupdate⟩ | ⟨v, c', hget, hupdate, hread⟩
      · exact Or.inl ⟨hget, by simp [Value.updateAt?, hat, hupdate]⟩
      · have hset : ∃ classes', classes.setAt? 0 c' = some classes' ∧
            classes'.at? 0 = some c' := by
          cases classes with
          | null => exact ⟨_, rfl, rfl⟩
          | array items =>
              cases items with
              | nil => exact ⟨_, rfl, rfl⟩
              | cons item items => exact ⟨_, rfl, rfl⟩
          | _ => cases hat
        obtain ⟨classes', hset, hat'⟩ := hset
        refine Or.inr ⟨v, classes', hget, ?_, ?_⟩
        · simp [Value.updateAt?, hat, hupdate, hset]
        · rw [hat', Option.bind_some, hread, hget]

theorem topConfidence_eq (json : Value) :
    topConfidence json = (json.get? "classes").bind fun classes =>
      ((classes.at? 0).bind fun c => c.get? "confidence").bind
        Value.asDouble? := by
  unfold topConfidence
  simp only [Option.bind_eq_bind, Option.bind_assoc]

/-- The confidence can be read afterwards precisely where it can be read of the
constant value. -/
theorem touchConfidence_bind (json : Value) :
    (touchConfidence json).bind topConfidence = topConfidence json := by
  rw [topConfidence_eq json]
  cases hclasses : json.get? "classes" with
  | none => simp [touchConfidence, Value.update?, hclasses]
  | some classes =>
      rw [Option.bind_some]
      rcases touchFirst_cases classes with
        ⟨hread, hupdate⟩ | ⟨v, classes', hread, hupdate, hread'⟩
      · have hnone : touchConfidence json = none := by
          rw [touchConfidence, Value.update?, hclasses]
          simp only [Option.bind_eq_bind, Option.bind_some, hupdate,
            Option.bind_none]
        rw [hnone, hread]
        rfl
      · obtain ⟨json', hjson', hget⟩ := update?_spec (f := fun classes =>
          classes.updateAt? 0 fun c => c.update? "confidence" some) hclasses
          hupdate
        have hclasses' := hget "classes"
        rw [if_pos rfl] at hclasses'
        rw [touchConfidence, hjson', Option.bind_some, topConfidence_eq,
          hclasses', Option.bind_some, hread, hread']

theorem onTextClassified_eq_none_iff (p : Proxy) (json : Value) :
    onTextClassified realText p json = none ↔ Lost realText p json := by
  by_cases hnull : json = .null
  · subst hnull
    exact iff_of_false nofun fun h => h.1 rfl
  · have hisNull : ¬ json.isNull = true :=
      fun h => hnull ((Value.isNull_iff json).mp h)
    rw [onTextClassified, if_neg hisNull, Lost, and_iff_right hnull]
    rcases touch_cases json "top_class" with
      ⟨hget, hupdate⟩ | ⟨v, json', hget, hupdate, hread⟩
    · rw [hupdate, hget]
      split <;> simp
    · have hconfidence : topConfidence json' = topConfidence json := by
        rw [topConfidence_eq, topConfidence_eq, hread]
      have htouched := touchConfidence_bind json'
      rw [hconfidence] at htouched
      simp only [hupdate, hread, hget, Option.bind_eq_bind, Option.bind_some]
      split
      · cases v <;> simp [Value.isString]
      · cases v.asString? realText with
        | none => simp
        | some t =>
            cases htouch : touchConfidence json' with
            | none =>
                rw [htouch] at htouched
                simp [← htouched]
            | some json'' =>
                rw [htouch, Option.bind_some] at htouched
                cases hq : topConfidence json <;> simp [htouched, hq]

/-- The texts are as `Served` says, those that meet no service fail at once, and
precisely the answers that are `Lost` throw. -/
structure Classified (s : Desk Proxy String Request Value ClassifyResult) :
    Prop extends
    Served (errand realText) Proxy.ready (.told (named .null "failure")) s,
    Loses (fun p _ json => Lost realText p json) s

/-- In whatever order texts and answers come, and however the proxy changes
meanwhile. -/
theorem texts_classified (p : Proxy) (evs : List (Event String Value Proxy)) :
    Throughout (Desk.step (errand realText)) (Classified realText)
      { owner := p } evs := by
  refine (filed_throughout _ p evs).mono fun s hs => ?_
  refine ⟨served_told hs ?_ ?_, hs.loses fun p _ _ json =>
    onTextClassified_eq_none_iff realText p json⟩
  · exact fun p q h => ⟨classify p.m_ClassifierId q, if_pos h⟩
  · exact fun p q h => Or.inl ⟨true, by simp [errand, h]⟩

end SelfPlugins.Watson.TextRequests
