import SelfPlugins.Framework.Serializable

/-!
# Responses of Retrieve and Rank

A `RetrieveAndRankResponse` holds the number of results, their start, the
greatest score and the documents, and besides these `m_Response`, the JSON they
have been read from.  `Serialize` copies `m_Response` first and writes the
members into it afterwards: what it delivers is `m_Response` as it was.

`survives_iff` says for which responses this is the right JSON.
-/

namespace SelfPlugins.RetrieveAndRank

open Json (Value VectorFormat lookup assign)

structure Documents where
  m_Id : String
  m_Title : String
  m_ContentHTML : String
  m_Body : String
  m_FileName : String
  m_SourceDocId : String
  m_IndexTimeStamp : String
  m_TextSize : Int32
  m_Sequence : Int32
  m_SearchText : List String

structure RetrieveAndRankResponse where
  m_Response : Value
  m_Docs : List Documents
  m_NumFound : Int32
  m_Start : Int32
  m_MaxScore : ℚ

variable (fmt : VectorFormat) (realText : ℚ → String)

/-! ## Documents -/

namespace Documents

def new : Documents where
  m_Id := ""
  m_Title := ""
  m_ContentHTML := ""
  m_Body := ""
  m_FileName := ""
  m_SourceDocId := ""
  m_IndexTimeStamp := ""
  m_TextSize := 0
  m_Sequence := 0
  m_SearchText := []

def serialize (s : Documents) (json : List (String × Value)) :
    List (String × Value) :=
  let json := assign "id" (.string s.m_Id) json
  let json := assign "title" (.string s.m_Title) json
  let json := assign "contentHtml" (.string s.m_ContentHTML) json
  let json := assign "body" (.string s.m_Body) json
  let json := assign "fileName" (.string s.m_FileName) json
  let json := assign "sourceDocId" (.string s.m_SourceDocId) json
  let json := assign "indexedTimeStamp" (.string s.m_IndexTimeStamp) json
  let json := assign "sequence" (.int s.m_Sequence.toInt) json
  let json := assign "textSize" (.int s.m_TextSize.toInt) json
  fmt.serializeVector "searchText" (s.m_SearchText.map Value.string) json

def deserialize (json : Value) (s : Documents) : Option Documents := do
  let m_Id ← json.read? "id" (Value.asString? realText) s.m_Id
  let m_Title ← json.read? "title" (Value.asString? realText) s.m_Title
  let m_ContentHTML ← json.read? "contentHtml" (Value.asString? realText)
    s.m_ContentHTML
  let m_Body ← json.read? "body" (Value.asString? realText) s.m_Body
  let m_FileName ← json.read? "fileName" (Value.asString? realText)
    s.m_FileName
  let m_SourceDocId ← json.read? "sourceDocId" (Value.asString? realText)
    s.m_SourceDocId
  let m_IndexTimeStamp ← json.read? "indexedTimeStamp"
    (Value.asString? realText) s.m_IndexTimeStamp
  let m_Sequence ← json.read? "sequence" Value.asInt? s.m_Sequence
  let m_TextSize ← json.read? "textSize" Value.asInt? s.m_TextSize
  let m_SearchText ← fmt.deserializeVector "searchText" json
    (fun w => w.1.asString? realText) s.m_SearchText
  return { s with
    m_Id
    m_Title
    m_ContentHTML
    m_Body
    m_FileName
    m_SourceDocId
    m_IndexTimeStamp
    m_TextSize
    m_Sequence
    m_SearchText }

theorem deserialize_serialize (d : Documents) (json : List (String × Value))
    (s : Documents) :
    deserialize fmt realText (.object (d.serialize fmt json)) s = some d := by
  have htexts : ∀ ms, lookup "searchText" ms =
      some (fmt.store (d.m_SearchText.map Value.string)) →
      fmt.deserializeVector "searchText" (.object ms)
        (fun w => w.1.asString? realText) s.m_SearchText =
          some d.m_SearchText := fun ms =>
    fmt.deserializeVector_of_lookup (Value.asString? realText)
      (fun x _ => Value.asString?_string _ x) s.m_SearchText
  simp [deserialize, serialize, VectorFormat.serializeVector, htexts]

end Documents

/-! ## Responses -/

namespace RetrieveAndRankResponse

def new : RetrieveAndRankResponse where
  m_Response := .null
  m_Docs := []
  m_NumFound := 0
  m_Start := 0
  m_MaxScore := 0

/-- What `SerializeVector` writes for the documents. -/
def docs (s : RetrieveAndRankResponse) : List Value :=
  s.m_Docs.map fun d => .object (d.serialize fmt [])

/-- The JSON that is written and the object afterwards.  Writing a member into
`m_Response` throws if it is neither an object nor null. -/
def serialize (s : RetrieveAndRankResponse) (json : List (String × Value)) :
    Option (List (String × Value) × RetrieveAndRankResponse) := do
  let json := assign "response" s.m_Response json
  let m_Response ← s.m_Response.set? "numFound" (.int s.m_NumFound.toInt)
  let m_Response ← m_Response.set? "start" (.int s.m_Start.toInt)
  let m_Response ← m_Response.set? "maxScore" (.real s.m_MaxScore)
  let members ← m_Response.members?
  let m_Response := .object (fmt.serializeVector "docs" (s.docs fmt) members)
  return (json, { s with m_Response })

def deserialize (json : Value) (s : RetrieveAndRankResponse) :
    Option RetrieveAndRankResponse := do
  let m_Response ← json.get? "response"
  let m_NumFound ← m_Response.read? "numFound" Value.asInt? s.m_NumFound
  let m_Start ← m_Response.read? "start" Value.asInt? s.m_Start
  let m_Docs ←
    if ← m_Response.isMember? "docs" then
      fmt.deserializeVector "docs" m_Response
        (fun w => Documents.deserialize fmt realText w.1 .new) s.m_Docs
    else some s.m_Docs
  let m_MaxScore ← m_Response.read? "maxScore" Value.asDouble? s.m_MaxScore
  return { s with
    m_Response
    m_Docs
    m_NumFound
    m_Start
    m_MaxScore }

/-- A new object that reads what was written has the four members of the object
that was written, which writes the same once more. -/
def Survives (s : RetrieveAndRankResponse) (json : List (String × Value)) :
    Prop :=
  ∃ written s', s.serialize fmt json = some (written, s') ∧
    (∃ q, deserialize fmt realText (.object written) new = some q ∧
      q.m_NumFound = s.m_NumFound ∧ q.m_Start = s.m_Start ∧
      q.m_MaxScore = s.m_MaxScore ∧ q.m_Docs = s.m_Docs) ∧
    ∃ s'', s'.serialize fmt json = some (written, s'')

/-- `m_Response` holds the four members as they would be written. -/
def Current (s : RetrieveAndRankResponse) : Prop :=
  ∃ members, s.m_Response = .object members ∧
    lookup "numFound" members = some (.int s.m_NumFound.toInt) ∧
    lookup "start" members = some (.int s.m_Start.toInt) ∧
    lookup "maxScore" members = some (.real s.m_MaxScore) ∧
    lookup "docs" members = some (fmt.store (s.docs fmt))

/-- The members of `m_Response` after the four have been written. -/
def updated (s : RetrieveAndRankResponse) (members : List (String × Value)) :
    List (String × Value) :=
  fmt.serializeVector "docs" (s.docs fmt)
    (assign "maxScore" (.real s.m_MaxScore)
    (assign "start" (.int s.m_Start.toInt)
    (assign "numFound" (.int s.m_NumFound.toInt) members)))

/-- Serializing delivers `m_Response` as it was, and then updates it. -/
theorem serialize_eq (s : RetrieveAndRankResponse)
    (json : List (String × Value)) :
    s.serialize fmt json = s.m_Response.members?.map fun members =>
      (assign "response" s.m_Response json,
        { s with m_Response := .object (s.updated fmt members) }) := by
  rw [serialize, Value.set?]
  cases s.m_Response.members? with
  | none => rfl
  | some members => rfl

theorem current_updated (s : RetrieveAndRankResponse)
    (members : List (String × Value)) :
    ({ s with m_Response := .object (s.updated fmt members) } :
      RetrieveAndRankResponse).Current fmt := by
  refine ⟨_, rfl, ?_, ?_, ?_, ?_⟩
  · simp [updated, VectorFormat.serializeVector]
  · simp [updated, VectorFormat.serializeVector]
  · simp [updated, VectorFormat.serializeVector]
  · simp [updated, VectorFormat.serializeVector, docs]

variable {fmt} {realText}

/-- Updating a current object changes nothing. -/
theorem updated_eq_self {s : RetrieveAndRankResponse}
    {members : List (String × Value)} (hord : Json.Ordered members)
    (hnum : lookup "numFound" members = some (.int s.m_NumFound.toInt))
    (hstart : lookup "start" members = some (.int s.m_Start.toInt))
    (hmax : lookup "maxScore" members = some (.real s.m_MaxScore))
    (hdocs : lookup "docs" members = some (fmt.store (s.docs fmt))) :
    s.updated fmt members = members := by
  rw [updated, (Json.assign_eq_self hord).mpr hnum,
    (Json.assign_eq_self hord).mpr hstart,
    (Json.assign_eq_self hord).mpr hmax, VectorFormat.serializeVector,
    (Json.assign_eq_self hord).mpr hdocs]

/-- The four members of a current object are read back. -/
theorem Current.deserialize {s : RetrieveAndRankResponse}
    (h : s.Current fmt) (json : List (String × Value)) :
    deserialize fmt realText (.object (assign "response" s.m_Response json))
      new = some s := by
  obtain ⟨members, hresp, hnum, hstart, hmax, hdocs⟩ := h
  have hread : fmt.deserializeVector "docs" (.object members)
      (fun w => Documents.deserialize fmt realText w.1 .new) [] =
        some s.m_Docs :=
    fmt.deserializeVector_of_lookup
      (fun w => Documents.deserialize fmt realText w .new)
      (fun d _ => Documents.deserialize_serialize fmt realText d [] _) [] hdocs
  simp [RetrieveAndRankResponse.deserialize, new, hresp, hnum, hstart, hmax,
    hdocs, hread]
  rw [← hresp]

/-- A response as the program holds it: the members of a JSON object come in
the order of their keys. -/
structure Held where
  response : RetrieveAndRankResponse
  ordered : ∀ members, response.m_Response = .object members →
    Json.Ordered members

/-- An object that writes the same twice has been current before. -/
theorem Survives.current {s : RetrieveAndRankResponse}
    {json : List (String × Value)} (h : s.Survives fmt realText json) :
    s.Current fmt := by
  obtain ⟨written, s', hs, -, s'', hs'⟩ := h
  rw [serialize_eq] at hs hs'
  obtain ⟨members, -, heq⟩ := Option.map_eq_some_iff.mp hs
  obtain ⟨members', -, heq'⟩ := Option.map_eq_some_iff.mp hs'
  obtain ⟨hwritten, rfl⟩ := Prod.mk.inj heq
  obtain ⟨hwritten', -⟩ := Prod.mk.inj heq'
  have hresp : s.m_Response = .object (s.updated fmt members) := by
    have hlook := congrArg (lookup "response") (hwritten.trans hwritten'.symm)
    simpa using hlook
  have hcur := current_updated fmt s members
  rw [← hresp] at hcur
  exact hcur

/-- A current object writes `m_Response`, and stays as it is. -/
theorem Current.serialize_eq {s : RetrieveAndRankResponse}
    (h : s.Current fmt)
    (hord : ∀ members, s.m_Response = .object members → Json.Ordered members)
    (json : List (String × Value)) :
    s.serialize fmt json = some (assign "response" s.m_Response json, s) := by
  obtain ⟨members, hresp, hnum, hstart, hmax, hdocs⟩ := h
  have hself : s.updated fmt members = members :=
    updated_eq_self (hord members hresp) hnum hstart hmax hdocs
  rw [RetrieveAndRankResponse.serialize_eq, hresp, Value.members?,
    Option.map_some, hself, ← hresp]

variable (fmt realText)

/-- A response survives precisely if `m_Response` already holds what is
written into it. -/
theorem survives_iff (s : Held) (json : List (String × Value)) :
    s.response.Survives fmt realText json ↔ s.response.Current fmt := by
  constructor
  · exact Survives.current
  · intro hcur
    have hs := hcur.serialize_eq s.ordered json
    exact ⟨_, s.response, hs,
      ⟨s.response, hcur.deserialize json, rfl, rfl, rfl, rfl⟩, _, hs⟩

/-- A response that was built in code is lost. -/
theorem not_survives_built :
    ¬({ new with m_NumFound := 5 } : RetrieveAndRankResponse).Survives .arrays
      (fun _ => "") [] := by
  intro h
  obtain ⟨members, hresp, -⟩ := h.current
  cases hresp

end RetrieveAndRankResponse

end SelfPlugins.RetrieveAndRank
