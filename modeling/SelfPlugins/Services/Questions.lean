import SelfPlugins.Archives.Services
import SelfPlugins.Framework.WebClient
import SelfPlugins.Library.Errands
import SelfPlugins.RetrieveAndRank.Response

/-!
# The proxies that answer questions

`AskQuestion` of `DeepQAProxy`, `RetrieveAndRankProxy` and `InteractProxy`
creates an object for the question, which asks the service and calls back with
an answer that it makes of the response.  Without a service `DeepQAProxy` never
calls back, the others do so at once, with null.  The first two replace a text
in which the service has little confidence by one of their own, if they have
any; `Deserialize` sees to it that they do.  Their constructors leave the
pointer to the service as it is, so that nothing is known of a question before
`Start`.

`DeepQA` may answer from its cache: the response to a question is what the
callback of its request is called with.

`questions_answered` says what becomes of the questions, and which responses are
lost because they cannot be read; `low_confidence` says what those who asked are
told by a proxy that has been loaded.
-/

namespace SelfPlugins.Questions

open Json (Value Formats Archive assign lookup_assign)
open RetrieveAndRank (RetrieveAndRankResponse)
open Runs Errands

/-- A request to a service. -/
structure Request where
  endpoint : String
  method : String
  body : Option Value := none
  cacheRequest : Option (CacheRequest Value) := none

/-- A proxy: its saved members, whether there is a service, unless the pointer
to it has not been assigned, and what `HasPriority` says. -/
structure Proxy (σ : Type) where
  saved : σ
  service : Option Bool
  hasPriority : Bool

/-- The proxy has a service. -/
def Proxy.found {σ : Type} (p : Proxy σ) : Bool := p.service == some true

/-- What is done where there is a service, and where there is none. -/
def Proxy.opens {σ β : Type} (p : Proxy σ) (request : Request)
    (otherwise : Opening Request β) : Opening Request β :=
  match p.service with
  | some true => .send request
  | some false => otherwise
  | none => .undefined

/-- `Start`, and `Deserialize` with what `HasPriority` says afterwards. -/
inductive Own
  | start (found : Bool)
  | deserialize (json : Value) (hasPriority : Bool)

def Proxy.reacts {σ : Type} (A : Archive σ) (p : Proxy σ) :
    Own → Option (Proxy σ)
  | .start found => some { p with service := some found }
  | .deserialize json hasPriority =>
      (A.deserialize json p.saved).map fun s =>
        { p with saved := s, hasPriority := hasPriority }

/-- One of the proxy's own texts, if it has any and the confidence is low. -/
def chooseText (m_fMinConfidence : ℚ) (m_LowConfidenceResponses : List String)
    (rand : ℕ) (confidence : ℚ) (text : Option Value) : Option Value :=
  if 0 < m_LowConfidenceResponses.length ∧ confidence < m_fMinConfidence then
    m_LowConfidenceResponses[rand % m_LowConfidenceResponses.length]?.map
      .string
  else text

variable {F : Formats}

/-! ## `DeepQAProxy` -/

namespace DeepQAProxy

/-- `DeepQA::AskQuestion` with its default arguments; answers are kept by the
hash of the body. -/
def askQuestion (a_Question : String) : Request :=
  let question := assign "formattedAnswer" (.bool true) []
  let question := assign "questionText" (.string a_Question) question
  let question := assign "status" (.string "Accepted") question
  let question := assign "evidenceRequest" .null question
  let question := assign "inferQuestion" (.bool false) question
  let body : Value := .object [("question", .object question)]
  { endpoint := "/v1/question/"
    method := "POST"
    body := some body
    cacheRequest := some ⟨"AskQuestion", body⟩ }

/-- The first of the answers. -/
def best (json : Value) : Option Value := do
  let question ← json.get? "question"
  (← question.get? "answers").at? 0

def answer (p : Proxy (Archives.DeepQAProxy F)) (confidence : ℚ)
    (text answers : Value) : Value :=
  let answer := assign "confidence" (.real confidence) []
  let answer := assign "response" (.array [text]) answer
  let answer := assign "hasPriority" (.bool p.hasPriority) answer
  let answer :=
    assign "pipelineType" (.string p.saved.m_PipelineType) answer
  .object (assign "answers" answers answer)

def onResponse (p : Proxy (Archives.DeepQAProxy F)) (json : Value)
    (rand : ℕ) : Option Value :=
  if json.isNull then some .null
  else do
    if ← json.isMember? "question" then
      let question ← json.get? "question"
      if ← question.isMember? "answers" then
        let best ← best json
        if (← best.isMember? "text") && (← best.isMember? "confidence") then
          let confidence ← (← best.get? "confidence").asDouble?
          let text ← chooseText p.saved.m_fMinConfidence.1
            p.saved.m_LowConfidenceResponses rand confidence (best.get? "text")
          return answer p confidence text (← question.get? "answers")
        else return .null
      else return .null
    else return .null

/-- The answer comes with the next number of `rand`. -/
def errand (F : Formats) :
    Errand (Proxy (Archives.DeepQAProxy F)) String Request (Value × ℕ) Value
      Own where
  opens p a_Question := p.opens (askQuestion a_Question) .leave
  closes p _ _ a := onResponse p a.1 a.2
  reacts := Proxy.reacts (Archives.DeepQAProxy.archive F)

end DeepQAProxy

/-! ## `RetrieveAndRankProxy` -/

namespace RetrieveAndRankProxy

/-- `RetrieveAndRank::Ask` -/
def ask (urlEscape : String → String) (s : Archives.RetrieveAndRankProxy F)
    (a_Text : String) : Request where
  endpoint := "/v1/solr_clusters/" ++ s.m_SolrId ++ "/solr/" ++
    s.m_WorkspaceId ++ "/fcselect?&q=" ++ urlEscape a_Text ++ "&source=" ++
    s.m_Source ++ "&wt=json"
  method := "GET"

def answer (confidence : ℚ) (text : Value) : Value :=
  let answer := assign "confidence" (.real confidence) []
  .object (assign "response" (.array [text]) answer)

/-- The body of the first document, if there is one. -/
def body (r : RetrieveAndRankResponse) : Option Value :=
  r.m_Docs.head?.map fun d => .string d.m_Body

def onResponse (p : Proxy (Archives.RetrieveAndRankProxy F))
    (a_pResponse : Option RetrieveAndRankResponse) (rand : ℕ) : Option Value :=
  match a_pResponse with
  | none => some .null
  | some r =>
      (chooseText p.saved.m_fMinConfidence.1 p.saved.m_LowConfidenceResponses
        rand r.m_MaxScore (body r)).map (answer r.m_MaxScore)

def errand (F : Formats) (urlEscape : String → String) :
    Errand (Proxy (Archives.RetrieveAndRankProxy F)) String Request
      (Option RetrieveAndRankResponse × ℕ) Value Own where
  opens p a_Question := p.opens (ask urlEscape p.saved a_Question)
    (.tell .null true)
  closes p _ _ a := onResponse p a.1 a.2
  reacts := Proxy.reacts (Archives.RetrieveAndRankProxy.archive F)

end RetrieveAndRankProxy

/-! ## `InteractProxy` -/

namespace InteractProxy

/-- `Interact::Converse` -/
def converse (a_Question : String) : Request where
  endpoint := "/v1/api/converse"
  method := "POST"
  body := some (.object [("text", .string a_Question)])

def onConverse (F : Formats) (a_Response : Value) : Option Value :=
  if a_Response.isNull then some .null
  else do
    let expertise ← (← a_Response.get? "expertise").asString? F.realText
    let confidence := if 0 < expertise.length then 1 / 2 else 0
    let response ← (← a_Response.get? "response").asString? F.realText
    let answer := assign "confidence" (.real confidence) []
    return .object (assign "response" (.array [.string response]) answer)

def errand (F : Formats) :
    Errand (Proxy Archives.InteractProxy) String Request Value Value Own where
  -- OnConverse( Json::Value::nullRef )
  opens p a_Question := p.opens (converse a_Question) (.tell .null true)
  closes _ _ _ json := onConverse F json
  reacts := Proxy.reacts (Archives.InteractProxy.archive F)

end InteractProxy

/-! ## Responses that cannot be read -/

/-- The object has a member. -/
def Has (json : Value) (key : String) (v : Value) : Prop :=
  ∃ ms, json.members? = some ms ∧ Json.lookup key ms = some v

theorem Has.get? {json v : Value} {key : String} (h : Has json key v) :
    json.get? key = some v := by
  obtain ⟨ms, hms, hv⟩ := h
  simp [Value.get?, hms, hv]

/-- A member is asked for and then read. -/
theorem member_cases (json : Value) (key : String) :
    (json.members? = none ∧ json.isMember? key = none) ∨
      (json.members? ≠ none ∧ json.isMember? key = some false ∧
        ∀ v, ¬Has json key v) ∨
      ∃ v, json.members? ≠ none ∧ json.isMember? key = some true ∧
        json.get? key = some v ∧ ∀ w, Has json key w ↔ v = w := by
  cases hms : json.members? with
  | none => exact Or.inl ⟨rfl, by simp [Value.isMember?, hms]⟩
  | some ms =>
      refine Or.inr ?_
      cases hv : Json.lookup key ms with
      | none =>
          refine Or.inl ⟨Option.some_ne_none ms, by simp [Value.isMember?, hms, hv], ?_⟩
          rintro v ⟨ms', hms', hv'⟩
          obtain rfl := Option.some.inj (hms.symm.trans hms')
          rw [hv] at hv'
          cases hv'
      | some v =>
          refine Or.inr ⟨v, Option.some_ne_none ms,
            by simp [Value.isMember?, hms, hv], by simp [Value.get?, hms, hv],
            fun w => ?_⟩
          simp [Has, hms, hv]

/-- A response, question or first answer that is no object, answers that are no
array, or a confidence that is no number. -/
def DeepQAProxy.Lost (json : Value) : Prop :=
  json.members? = none ∨ ∃ question, Has json "question" question ∧
    (question.members? = none ∨ ∃ answers, Has question "answers" answers ∧
      (answers.at? 0 = none ∨ ∃ best, answers.at? 0 = some best ∧
        (best.members? = none ∨ ∃ text confidence, Has best "text" text ∧
          Has best "confidence" confidence ∧ confidence.asDouble? = none)))

/-- There is no document, which the source reads all the same, and the text is
not replaced. -/
def RetrieveAndRankProxy.Lost (p : Proxy (Archives.RetrieveAndRankProxy F))
    (a_pResponse : Option RetrieveAndRankResponse) : Prop :=
  ∃ r, a_pResponse = some r ∧ r.m_Docs = [] ∧
    ¬(0 < p.saved.m_LowConfidenceResponses.length ∧
      r.m_MaxScore < p.saved.m_fMinConfidence.1)

/-- A response that is no object, or one of the two texts that is none. -/
def InteractProxy.Lost (F : Formats) (a_Response : Value) : Prop :=
  a_Response.members? = none ∨ ∃ key ∈ ["expertise", "response"],
    ∃ v, a_Response.get? key = some v ∧ v.asString? F.realText = none

theorem chooseText_eq_none_iff {m_fMinConfidence confidence : ℚ}
    {stock : List String} {rand : ℕ} {text : Option Value} :
    chooseText m_fMinConfidence stock rand confidence text = none ↔
      text = none ∧ ¬(0 < stock.length ∧ confidence < m_fMinConfidence) := by
  unfold chooseText
  split
  · rename_i hlow
    have hlt : rand % stock.length < stock.length := Nat.mod_lt _ hlow.1
    simp [List.getElem?_eq_getElem hlt, hlow]
  · rename_i hhigh
    exact (and_iff_left hhigh).symm

theorem InteractProxy.onConverse_eq_none_iff (a_Response : Value) :
    onConverse F a_Response = none ↔ Lost F a_Response := by
  unfold onConverse Lost
  cases hnull : a_Response.isNull with
  | true =>
      obtain rfl := (Value.isNull_iff _).mp hnull
      simp [Value.members?, Value.get?, Value.asString?]
  | false =>
      cases hms : a_Response.members? with
      | none => simp [Value.get?, hms]
      | some ms =>
          have hget : ∀ key, a_Response.get? key =
              some ((Json.lookup key ms).getD .null) := fun key => by
            simp [Value.get?, hms]
          cases hexpertise : ((Json.lookup "expertise" ms).getD
              .null).asString? F.realText with
          | none => simp [hget, hexpertise]
          | some expertise =>
              cases hresponse : ((Json.lookup "response" ms).getD
                  .null).asString? F.realText <;>
                simp [hget, hexpertise, hresponse]

theorem RetrieveAndRankProxy.onResponse_eq_none_iff
    (p : Proxy (Archives.RetrieveAndRankProxy F))
    (a_pResponse : Option RetrieveAndRankResponse) (rand : ℕ) :
    onResponse p a_pResponse rand = none ↔ Lost p a_pResponse := by
  cases a_pResponse with
  | none => simp [onResponse, Lost]
  | some r => simp [onResponse, Lost, chooseText_eq_none_iff, body]

/-- The first answer is read for its confidence, if it has a text. -/
theorem DeepQAProxy.readAnswer_eq_none_iff {best other : Value}
    {make : ℚ → Option Value}
    (hmake : ∀ text, Has best "text" text → ∀ confidence,
      make confidence ≠ none) :
    ((best.isMember? "text").bind fun hasText =>
      (best.isMember? "confidence").bind fun hasConfidence =>
        if (hasText && hasConfidence) = true then
          (best.get? "confidence").bind fun confidence =>
            confidence.asDouble?.bind make
        else some other) = none ↔
      best.members? = none ∨ ∃ text confidence, Has best "text" text ∧
        Has best "confidence" confidence ∧ confidence.asDouble? = none := by
  rcases member_cases best "text" with ⟨hms, htext⟩ | ⟨hms, htext, hno⟩ |
    ⟨text, hms, htext, -, hhasText⟩
  · simp [hms, htext]
  · rcases member_cases best "confidence" with ⟨hms', -⟩ | ⟨-, h, -⟩ |
      ⟨c, -, h, -⟩
    · exact absurd hms' hms
    · simp [hms, htext, h, hno]
    · simp [hms, htext, h, hno]
  · rcases member_cases best "confidence" with ⟨hms', -⟩ | ⟨-, h, hno⟩ |
      ⟨c, -, h, hc, hhasConfidence⟩
    · exact absurd hms' hms
    · simp [hms, htext, h, hno]
    · cases hdouble : c.asDouble? with
      | none => simp [hms, htext, h, hc, hhasText, hhasConfidence, hdouble]
      | some confidence =>
          have hmade := hmake text ((hhasText text).mpr rfl) confidence
          simp [hms, htext, h, hc, hhasText, hhasConfidence, hdouble, hmade]

theorem DeepQAProxy.onResponse_eq_none_iff
    (p : Proxy (Archives.DeepQAProxy F)) (json : Value) (rand : ℕ) :
    onResponse p json rand = none ↔ Lost json := by
  unfold onResponse Lost
  rcases member_cases json "question" with ⟨hms, hmember⟩ |
    ⟨hms, hmember, hno⟩ | ⟨question, hms, hmember, hquestion, hhas⟩
  · have hnull : json.isNull = false := by
      cases json <;> first | rfl | cases hms
    simp [hnull, hms, hmember]
  · simp [hms, hmember, hno]
  · have hnull : json.isNull = false := by
      cases json <;> first | rfl | cases hmember
    simp only [hnull, hmember, hquestion, hhas, best]
    rcases member_cases question "answers" with ⟨hms', hmember'⟩ |
      ⟨hms', hmember', hno⟩ | ⟨answers, hms', hmember', hanswers, hhas'⟩
    · simp [hms, hms', hmember']
    · simp [hms, hms', hmember', hno]
    · cases hbest : answers.at? 0 with
      | none => simp [hms, hms', hmember', hanswers, hhas', hbest]
      | some b =>
          simp only [hms, hms', hmember', hanswers, hhas', hbest,
            Option.bind_eq_bind, Option.bind_some, Option.pure_def,
            Option.some.injEq, Bool.false_eq_true, if_false, if_true, false_or,
            exists_eq_left', reduceCtorEq]
          refine readAnswer_eq_none_iff fun text htext confidence => ?_
          rw [htext.get?, Ne, Option.bind_eq_none_iff]
          obtain ⟨chosen, hchosen⟩ := Option.ne_none_iff_exists'.mp fun hnone =>
            absurd (chooseText_eq_none_iff.mp hnone).1 (Option.some_ne_none text)
          exact fun hall => Option.some_ne_none _ (hall chosen hchosen)

/-! ## What becomes of the questions -/

section

variable {σ β : Type} {p : Proxy σ} (request : Request)
  (otherwise : Opening Request β)

theorem Proxy.opens_of_found (h : p.found = true) :
    p.opens request otherwise = .send request := by
  rw [Proxy.found, beq_iff_eq] at h
  rw [Proxy.opens, h]

theorem Proxy.opens_of_not_found (h : p.found = false) :
    p.opens request otherwise = otherwise ∨
      p.opens request otherwise = .undefined := by
  obtain ⟨saved, service, hasPriority⟩ := p
  match service with
  | none => exact Or.inr rfl
  | some false => exact Or.inl rfl
  | some true => cases h

end

/-- In whatever order questions, answers and calls to the proxies come, each
question is sent to the service once, if there is one, and each valid callback
is called at most once, with what is made of its own answer.  Precisely the
answers that are `Lost` are never reported. -/
theorem questions_answered (urlEscape : String → String)
    (p : Proxy (Archives.DeepQAProxy F))
    (q : Proxy (Archives.RetrieveAndRankProxy F))
    (r : Proxy Archives.InteractProxy) :
    (∀ evs, Throughout (Desk.step (DeepQAProxy.errand F))
      (fun s => Served (DeepQAProxy.errand F) Proxy.found .left s ∧
        Loses (fun _ _ a => DeepQAProxy.Lost a.1) s) { owner := p } evs) ∧
    (∀ evs, Throughout (Desk.step (RetrieveAndRankProxy.errand F urlEscape))
      (fun s => Served (RetrieveAndRankProxy.errand F urlEscape) Proxy.found
          (.told .null) s ∧
        Loses (fun q _ a => RetrieveAndRankProxy.Lost q a.1) s)
      { owner := q } evs) ∧
    (∀ evs, Throughout (Desk.step (InteractProxy.errand F))
      (fun s => Served (InteractProxy.errand F) Proxy.found (.told .null) s ∧
        Loses (fun _ _ a => InteractProxy.Lost F a) s) { owner := r } evs) := by
  refine ⟨fun evs => ?_, fun evs => ?_, fun evs => ?_⟩
  · refine (filed_throughout _ p evs).mono fun s hs =>
      ⟨served_left hs ?_ ?_, hs.loses fun p _ _ a =>
        DeepQAProxy.onResponse_eq_none_iff p a.1 a.2⟩
    · exact fun p q h => ⟨_, p.opens_of_found _ _ h⟩
    · exact fun p q h => p.opens_of_not_found _ _ h
  · refine (filed_throughout _ q evs).mono fun s hs =>
      ⟨served_told hs ?_ ?_, hs.loses fun p _ _ a =>
        RetrieveAndRankProxy.onResponse_eq_none_iff p a.1 a.2⟩
    · exact fun p q h => ⟨_, p.opens_of_found _ _ h⟩
    · exact fun p q h =>
        (p.opens_of_not_found _ _ h).imp_left fun htold => ⟨true, htold⟩
  · refine (filed_throughout _ r evs).mono fun s hs =>
      ⟨served_told hs ?_ ?_, hs.loses fun _ _ _ a =>
        InteractProxy.onConverse_eq_none_iff a⟩
    · exact fun p q h => ⟨_, p.opens_of_found _ _ h⟩
    · exact fun p q h =>
        (p.opens_of_not_found _ _ h).imp_left fun htold => ⟨true, htold⟩

/-! ## Low confidence -/

/-- The answer has the confidence of the service and one text, which comes from
`stock` if the confidence is low, and else is that of the service. -/
def Guarded (m_fMinConfidence : ℚ) (stock : List String)
    (service : Option ℚ × Option Value) (answer : Value) : Prop :=
  ∃ confidence chosen, service.1 = some confidence ∧
    answer.get? "confidence" = some (.real confidence) ∧
    answer.get? "response" = some (.array [chosen]) ∧
    if confidence < m_fMinConfidence then ∃ r ∈ stock, chosen = .string r
    else service.2 = some chosen

theorem chooseText_spec {m_fMinConfidence confidence : ℚ} {stock : List String}
    {rand : ℕ} {text : Option Value} {chosen : Value} (hstock : stock ≠ [])
    (h : chooseText m_fMinConfidence stock rand confidence text =
      some chosen) :
    if confidence < m_fMinConfidence then ∃ r ∈ stock, chosen = .string r
    else text = some chosen := by
  unfold chooseText at h
  have hpos := List.length_pos_iff.mpr hstock
  split
  · rename_i hlow
    rw [if_pos ⟨hpos, hlow⟩] at h
    obtain ⟨r, hr, rfl⟩ := Option.map_eq_some_iff.mp h
    exact ⟨r, List.mem_of_getElem? hr, rfl⟩
  · rename_i hlow
    rw [if_neg fun hboth => hlow hboth.2] at h
    exact h

/-- The confidence and the text of the first answer. -/
def DeepQAProxy.firstAnswer (json : Value) : Option ℚ × Option Value :=
  ((best json).bind fun b => (b.get? "confidence").bind Value.asDouble?,
    (best json).bind fun b => b.get? "text")

/-- The greatest score and the first text. -/
def RetrieveAndRankProxy.firstDocument (r : RetrieveAndRankResponse) :
    Option ℚ × Option Value :=
  (some r.m_MaxScore, body r)

theorem DeepQAProxy.guarded_onResponse {p : Proxy (Archives.DeepQAProxy F)}
    (hstock : p.saved.m_LowConfidenceResponses ≠ []) {json : Value} {rand : ℕ}
    {a : Value} (h : onResponse p json rand = some a) :
    a = .null ∨ Guarded p.saved.m_fMinConfidence.1
      p.saved.m_LowConfidenceResponses (firstAnswer json) a := by
  unfold onResponse at h
  split at h
  · exact Or.inl (Option.some.inj h).symm
  · obtain ⟨hasQuestion, -, h⟩ := Option.bind_eq_some_iff.mp h
    split at h
    · obtain ⟨question, hquestion, h⟩ := Option.bind_eq_some_iff.mp h
      obtain ⟨hasAnswers, -, h⟩ := Option.bind_eq_some_iff.mp h
      split at h
      · obtain ⟨b, hb, h⟩ := Option.bind_eq_some_iff.mp h
        obtain ⟨hasText, -, h⟩ := Option.bind_eq_some_iff.mp h
        obtain ⟨hasConfidence, -, h⟩ := Option.bind_eq_some_iff.mp h
        split at h
        · obtain ⟨value, hvalue, h⟩ := Option.bind_eq_some_iff.mp h
          obtain ⟨confidence, hconfidence, h⟩ := Option.bind_eq_some_iff.mp h
          obtain ⟨chosen, hchosen, h⟩ := Option.bind_eq_some_iff.mp h
          obtain ⟨answers, -, h⟩ := Option.bind_eq_some_iff.mp h
          obtain rfl := Option.some.inj h
          refine Or.inr ⟨confidence, chosen, ?_, ?_, ?_, ?_⟩
          · simp [firstAnswer, hb, hvalue, hconfidence]
          · simp [answer, lookup_assign]
          · simp [answer, lookup_assign]
          · rw [firstAnswer, hb]
            exact chooseText_spec hstock hchosen
        · exact Or.inl (Option.some.inj h).symm
      · exact Or.inl (Option.some.inj h).symm
    · exact Or.inl (Option.some.inj h).symm

theorem RetrieveAndRankProxy.guarded_onResponse
    {p : Proxy (Archives.RetrieveAndRankProxy F)}
    (hstock : p.saved.m_LowConfidenceResponses ≠ [])
    {r : RetrieveAndRankResponse} {rand : ℕ} {a : Value}
    (h : onResponse p (some r) rand = some a) :
    Guarded p.saved.m_fMinConfidence.1 p.saved.m_LowConfidenceResponses
      (firstDocument r) a := by
  obtain ⟨chosen, hchosen, rfl⟩ := Option.map_eq_some_iff.mp h
  refine ⟨r.m_MaxScore, chosen, rfl, ?_, ?_, chooseText_spec hstock hchosen⟩
  · simp [answer, lookup_assign]
  · simp [answer, lookup_assign]

/-- `Deserialize` leaves no proxy without texts of its own. -/
theorem DeepQAProxy.stocked {json : Value} {s t : Archives.DeepQAProxy F}
    (h : (Archives.DeepQAProxy.archive F).deserialize json t = some s) :
    s.m_LowConfidenceResponses ≠ [] := by
  obtain ⟨u, -, rfl⟩ := Option.map_eq_some_iff.mp h
  exact Archives.filled_eq_self.mp (Archives.filled_filled _ _)

theorem RetrieveAndRankProxy.stocked {json : Value}
    {s t : Archives.RetrieveAndRankProxy F}
    (h : (Archives.RetrieveAndRankProxy.archive F).deserialize json t =
      some s) : s.m_LowConfidenceResponses ≠ [] := by
  obtain ⟨u, -, rfl⟩ := Option.map_eq_some_iff.mp h
  exact Archives.filled_eq_self.mp (Archives.filled_filled _ _)

theorem Proxy.saved_reacts {σ : Type} {A : Archive σ} {P : σ → Prop}
    (hP : ∀ json t s, A.deserialize json t = some s → P s) (p : Proxy σ)
    (e : Own) (q : Proxy σ) (hp : P p.saved) (h : p.reacts A e = some q) :
    P q.saved := by
  cases e with
  | start found =>
      obtain rfl := Option.some.inj h
      exact hp
  | deserialize json hasPriority =>
      obtain ⟨s, hs, rfl⟩ := Option.map_eq_some_iff.mp h
      exact hP json _ s hs

/-- In every run of a proxy that has been loaded, an answer that is not null has
one text: where its confidence is below the minimum that the proxy has by then,
one of the proxy's own, and else that of the service. -/
theorem low_confidence (urlEscape : String → String)
    (service : Option Bool) (hasPriority : Bool)
    {json₁ json₂ : Value} {s₁ t₁ : Archives.DeepQAProxy F}
    {s₂ t₂ : Archives.RetrieveAndRankProxy F}
    (h₁ : (Archives.DeepQAProxy.archive F).deserialize json₁ t₁ = some s₁)
    (h₂ : (Archives.RetrieveAndRankProxy.archive F).deserialize json₂ t₂ =
      some s₂) :
    (∀ evs, Throughout (Desk.step (DeepQAProxy.errand F))
      (fun s => ∀ n a, (n, a) ∈ s.told → a = .null ∨
        ∃ c p json rand, s.calls[n]? = some c ∧
          c.fate = .answered p (json, rand) a ∧
          Guarded p.saved.m_fMinConfidence.1 p.saved.m_LowConfidenceResponses
            (DeepQAProxy.firstAnswer json) a)
      { owner := ⟨s₁, service, hasPriority⟩ } evs) ∧
    (∀ evs, Throughout (Desk.step (RetrieveAndRankProxy.errand F urlEscape))
      (fun s => ∀ n a, (n, a) ∈ s.told → a = .null ∨
        ∃ c p r rand, s.calls[n]? = some c ∧
          c.fate = .answered p (some r, rand) a ∧
          Guarded p.saved.m_fMinConfidence.1 p.saved.m_LowConfidenceResponses
            (RetrieveAndRankProxy.firstDocument r) a)
      { owner := ⟨s₂, service, hasPriority⟩ } evs) := by
  refine ⟨fun evs => ?_, fun evs => ?_⟩
  · refine (filed_owned_throughout
      (P := fun p => p.saved.m_LowConfidenceResponses ≠ [])
      (Proxy.saved_reacts fun _ _ _ => DeepQAProxy.stocked)
      (DeepQAProxy.stocked h₁) evs).mono fun s hs n a ha => ?_
    obtain ⟨c, hc, hmem, -, hresult⟩ := hs.1.told_cases ha
    rcases hresult with ⟨checked, hopens⟩ | ⟨p, ⟨json, rand⟩, hfate, hcloses⟩
    · simp only [DeepQAProxy.errand, Proxy.opens] at hopens
      split at hopens <;> cases hopens
    · have hstock := (hs.2.calls c hmem).2 p (by rw [hfate]; rfl)
      exact (DeepQAProxy.guarded_onResponse hstock hcloses).imp_right
        fun hguarded => ⟨c, p, json, rand, hc, hfate, hguarded⟩
  · refine (filed_owned_throughout
      (P := fun p => p.saved.m_LowConfidenceResponses ≠ [])
      (Proxy.saved_reacts fun _ _ _ => RetrieveAndRankProxy.stocked)
      (RetrieveAndRankProxy.stocked h₂) evs).mono fun s hs n a ha => ?_
    obtain ⟨c, hc, hmem, -, hresult⟩ := hs.1.told_cases ha
    rcases hresult with ⟨checked, hopens⟩ | ⟨p, ⟨r, rand⟩, hfate, hcloses⟩
    · simp only [RetrieveAndRankProxy.errand, Proxy.opens] at hopens
      split at hopens <;> cases hopens
      exact Or.inl rfl
    · have hstock := (hs.2.calls c hmem).2 p (by rw [hfate]; rfl)
      cases r with
      | none => exact Or.inl (Option.some.inj hcloses).symm
      | some r =>
          exact Or.inr ⟨c, p, r, rand, hc, hfate,
            RetrieveAndRankProxy.guarded_onResponse hstock hcloses⟩

/-- An answer of `DeepQA`. -/
def DeepQAProxy.response (confidence : ℚ) (text : String) : Value :=
  .object [("question", .object [("answers", .array [.object
    [("confidence", .real confidence), ("text", .string text)]])])]

/-- A response of `RetrieveAndRank` with one document. -/
def RetrieveAndRankProxy.response (score : ℚ) (body : String) :
    RetrieveAndRankResponse :=
  ⟨.null, [⟨"", "", "", body, "", "", "", 0, 0, []⟩], 1, 0, score⟩

/-- Proxies that are loaded, and for each two questions, to one of which the
service has an answer that it is sure of. -/
theorem low_confidence_both :
    let F : Formats := ⟨.arrays, fun _ => "", id, fun _ => rfl⟩
    let p : Archives.DeepQAProxy F :=
      ⟨"DeepQAV1", "wda", ⟨1 / 2, rfl⟩, ["I am not sure"]⟩
    let q : Archives.RetrieveAndRankProxy F :=
      ⟨"RetrieveAndRankV1", "", ⟨1 / 2, rfl⟩, "", "", ["I am not sure"]⟩
    Throughout (Desk.step (DeepQAProxy.errand F))
      (fun s => ∀ n a, (n, a) ∈ s.told → a = .null ∨
        ∃ c p json rand, s.calls[n]? = some c ∧
          c.fate = .answered p (json, rand) a ∧
          Guarded p.saved.m_fMinConfidence.1 p.saved.m_LowConfidenceResponses
            (DeepQAProxy.firstAnswer json) a)
      { owner := ⟨p, some true, false⟩ }
      [.call "Who?" true, .call "Where?" true,
        .answer 1 (DeepQAProxy.response (9 / 10) "Here", 4),
        .answer 0 (DeepQAProxy.response (1 / 10) "I", 7)] ∧
    Throughout (Desk.step (RetrieveAndRankProxy.errand F id))
      (fun s => ∀ n a, (n, a) ∈ s.told → a = .null ∨
        ∃ c p r rand, s.calls[n]? = some c ∧
          c.fate = .answered p (some r, rand) a ∧
          Guarded p.saved.m_fMinConfidence.1 p.saved.m_LowConfidenceResponses
            (RetrieveAndRankProxy.firstDocument r) a)
      { owner := ⟨q, some true, false⟩ }
      [.call "Who?" true, .call "Where?" true,
        .answer 1 (some (RetrieveAndRankProxy.response (9 / 10) "Here"), 4),
        .answer 0 (some (RetrieveAndRankProxy.response (1 / 10) "I"), 7)] := by
  intro F p q
  have h₁ : (Archives.DeepQAProxy.archive F).deserialize
      (.object [("m_LowConfidenceResponses", .array [.string "I am not sure"]),
        ("m_fMinConfidence", .real (1 / 2))])
      ⟨"DeepQAV1", "wda", ⟨0, rfl⟩, []⟩ = some p := rfl
  have h₂ : (Archives.RetrieveAndRankProxy.archive F).deserialize
      (.object [("m_LowConfidenceResponses", .array [.string "I am not sure"]),
        ("m_fMinConfidence", .real (1 / 2))])
      ⟨"RetrieveAndRankV1", "", ⟨0, rfl⟩, "", "", []⟩ = some q := rfl
  obtain ⟨hdeep, hranked⟩ := low_confidence id (some true) false h₁ h₂
  exact ⟨hdeep _, hranked _⟩

/-- What those who asked are told. -/
example :
    let F : Formats := ⟨.arrays, fun _ => "", id, fun _ => rfl⟩
    (run (Desk.step (RetrieveAndRankProxy.errand F id))
      { owner := ⟨⟨"", "", ⟨5, rfl⟩, "", "", ["I am not sure"]⟩, some true,
        false⟩ }
      [.call "Who?" true, .call "Where?" true,
        .answer 1 (some (RetrieveAndRankProxy.response 9 "Here"), 4),
        .answer 0 (some (RetrieveAndRankProxy.response 1 "I"), 7)]).map
          (fun s => s.told.map fun x => (x.1, x.2.get? "response")) =
      some [(1, some (.array [.string "Here"])),
        (0, some (.array [.string "I am not sure"]))] := by rfl

end SelfPlugins.Questions
