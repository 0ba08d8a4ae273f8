import SelfPlugins.Framework.Building

/-!
# The requests of a device

`ExampleSensor` asks a device a series of requests, which its configuration
describes.  Between two of them the next description is written into JSON, its
variables are replaced, and it is read again; the round trip itself changes
nothing (`Rest.deserialize_serialize`).
-/

namespace SelfPlugins.SmartThings

open Json (Value assign Ordered arrayOf elements_arrayOf updateAt?_next
  updateAt?_last update?_spec read?_of_get? isMember?_cases)

/-- `ExampleSensor::Rest`; the headers are an ordered map. -/
structure Rest where
  m_Token : String
  m_URL : String
  m_Type : String
  m_Params : String
  m_Headers : List (String × String)
deriving DecidableEq

namespace Rest

/-- A round of the loop over the headers. -/
def serializeHeader (json : Value) (header : (String × String) × ℕ) :
    Option Value := do
  let json ← json.update? "m_Headers" fun headers =>
    headers.updateAt? header.2 fun entry =>
      entry.set? "key" (.string header.1.1)
  json.update? "m_Headers" fun headers =>
    headers.updateAt? header.2 fun entry =>
      entry.set? "value" (.string header.1.2)

/-- The token is not written. -/
def serialize (json : Value) (r : Rest) : Option Value := do
  let json ← json.set? "m_URL" (.string r.m_URL)
  let json ← json.set? "m_Type" (.string r.m_Type)
  let json ← json.set? "m_Params" (.string r.m_Params)
  r.m_Headers.zipIdx.foldlM serializeHeader json

/-- The values that a constant iterator meets. -/
def iterated : Value → List Value
  | .array items => items
  | .object ms => ms.map Prod.snd
  | _ => []

def deserializeHeader (realText : ℚ → String)
    (headers : List (String × String)) (entry : Value) :
    Option (List (String × String)) := do
  let key ← (← entry.get? "key").asString? realText
  let value ← (← entry.get? "value").asString? realText
  some (assign key value headers)

/-- The headers, which are cleared first. -/
def deserializeHeaders (realText : ℚ → String) (json : Value) :
    Option (List (String × String)) := do
  if ← json.isMember? "m_Headers" then
    (iterated (← json.get? "m_Headers")).foldlM (deserializeHeader realText) []
  else some []

def deserialize (realText : ℚ → String) (json : Value) (r : Rest) :
    Option Rest := do
  let m_URL ← (← json.get? "m_URL").asString? realText
  let m_Type ← (← json.get? "m_Type").asString? realText
  let m_Params ← json.read? "m_Params" (Value.asString? realText) r.m_Params
  let m_Headers ← deserializeHeaders realText json
  return { r with
    m_URL
    m_Type
    m_Params
    m_Headers }

/-! ## What is written -/

/-- The entry of a header. -/
def entry (header : String × String) : Value :=
  .object [("key", .string header.1), ("value", .string header.2)]

/-- The headers are the entries so far. -/
def Listed (headers : List (String × String)) (json : Value) : Prop :=
  json.get? "m_Headers" = some (arrayOf (headers.map entry))

/-- A round writes one entry, and touches no other member. -/
theorem serializeHeader_spec {headers : List (String × String)} {json : Value}
    (h : Listed headers json) (header : String × String) :
    ∃ json', serializeHeader json (header, headers.length) = some json' ∧
      Listed (headers ++ [header]) json' ∧
      ∀ key, key ≠ "m_Headers" → json'.get? key = json.get? key := by
  have hkey := updateAt?_next (headers.map entry)
    (f := fun e => e.set? "key" (.string header.1)) rfl
  have hvalue := updateAt?_last (headers.map entry)
    (w := .object [("key", .string header.1)])
    (f := fun e => e.set? "value" (.string header.2)) (x := entry header) rfl
  rw [List.length_map] at hkey hvalue
  obtain ⟨json₁, h₁, hget₁⟩ := update?_spec
    (f := fun hs => hs.updateAt? headers.length
      fun e => e.set? "key" (.string header.1)) h hkey
  have hlisted := hget₁ "m_Headers"
  rw [if_pos rfl] at hlisted
  obtain ⟨json₂, h₂, hget₂⟩ := update?_spec
    (f := fun hs => hs.updateAt? headers.length
      fun e => e.set? "value" (.string header.2)) hlisted hvalue
  refine ⟨json₂, ?_, ?_, fun key hne => ?_⟩
  · simp only [serializeHeader, h₁, h₂, Option.bind_eq_bind, Option.bind_some]
  · rw [Listed, hget₂, if_pos rfl, List.map_append, List.map_singleton]
  · rw [hget₂, if_neg hne.symm, hget₁, if_neg hne.symm]

theorem serializeHeaders_spec {json : Value} (todo : List (String × String))
    {headers : List (String × String)} (h : Listed headers json) :
    ∃ json', (todo.zipIdx headers.length).foldlM serializeHeader json =
        some json' ∧
      Listed (headers ++ todo) json' ∧
      ∀ key, key ≠ "m_Headers" → json'.get? key = json.get? key := by
  induction todo generalizing headers json with
  | nil => exact ⟨json, rfl, by rwa [List.append_nil], fun _ _ => rfl⟩
  | cons header todo ih =>
      obtain ⟨json₁, h₁, hlisted, hkeep⟩ := serializeHeader_spec h header
      obtain ⟨json₂, h₂, hlisted₂, hkeep₂⟩ := ih hlisted
      rw [List.length_append, List.length_singleton] at h₂
      refine ⟨json₂, ?_, ?_, fun key hne => ?_⟩
      · rw [List.zipIdx_cons, List.foldlM_cons, h₁]
        exact h₂
      · rwa [List.append_assoc, List.singleton_append] at hlisted₂
      · rw [hkeep₂ key hne, hkeep key hne]

/-- What a description is written as. -/
theorem serialize_spec (r : Rest) :
    ∃ json, serialize .null r = some json ∧
      json.get? "m_URL" = some (.string r.m_URL) ∧
      json.get? "m_Type" = some (.string r.m_Type) ∧
      json.get? "m_Params" = some (.string r.m_Params) ∧
      Listed r.m_Headers json := by
  have hlisted : Listed [] (.object [("m_Params", .string r.m_Params),
      ("m_Type", .string r.m_Type), ("m_URL", .string r.m_URL)]) := rfl
  obtain ⟨json, hjson, hheaders, hkeep⟩ :=
    serializeHeaders_spec r.m_Headers hlisted
  refine ⟨json, hjson, ?_, ?_, ?_, ?_⟩
  · rw [hkeep _ (by decide)]
    rfl
  · rw [hkeep _ (by decide)]
    rfl
  · rw [hkeep _ (by decide)]
    rfl
  · rwa [List.nil_append] at hheaders

/-! ## What is read -/

theorem assign_of_lt {key : String} {headers : List (String × String)}
    (h : ∀ m ∈ headers, m.1 < key) (value : String) :
    assign key value headers = headers ++ [(key, value)] := by
  induction headers with
  | nil => rfl
  | cons m headers ih =>
      have hlt := h m List.mem_cons_self
      obtain ⟨k, v⟩ := m
      rw [assign, if_neg hlt.ne, if_neg hlt.asymm,
        ih fun n hn => h n (List.mem_cons_of_mem _ hn)]
      rfl

/-- The entries of headers in order are read as these headers. -/
theorem deserializeHeaders_entries (realText : ℚ → String)
    (done : List (String × String)) {todo : List (String × String)}
    (h : Ordered (done ++ todo)) :
    (todo.map entry).foldlM (deserializeHeader realText) done =
      some (done ++ todo) := by
  induction todo generalizing done with
  | nil => simp
  | cons header todo ih =>
      have hlt : ∀ m ∈ done, m.1 < header.1 := fun m hm =>
        (List.pairwise_append.mp h).2.2 m hm header List.mem_cons_self
      have hread : deserializeHeader realText done (entry header) =
          some (done ++ [header]) := by
        have hassign := assign_of_lt hlt header.2
        simp [deserializeHeader, entry, hassign]
      rw [List.map_cons, List.foldlM_cons, hread, Option.bind_eq_bind,
        Option.bind_some, ih _ (by rwa [List.append_assoc])]
      rw [List.append_assoc]
      rfl

theorem iterated_arrayOf (vs : List Value) : iterated (arrayOf vs) = vs := by
  unfold arrayOf
  split
  · rename_i h
    rw [h]
    rfl
  · rfl

theorem deserializeHeaders_listed (realText : ℚ → String)
    {headers : List (String × String)} {json : Value}
    (h : Listed headers json) (hordered : Ordered headers) :
    deserializeHeaders realText json = some headers := by
  have hentries := deserializeHeaders_entries realText [] hordered
  unfold Listed at h
  rcases isMember?_cases h with hmem | ⟨hmem, hnull⟩
  · simpa [deserializeHeaders, hmem, h, iterated_arrayOf] using hentries
  · have hnone : headers.map entry = [] := by
      rw [← elements_arrayOf (headers.map entry), hnull]
      rfl
    simp [deserializeHeaders, hmem, List.map_eq_nil_iff.mp hnone]

/-- A description is read as it was written, but for the token, which stays as
it is in the object that reads. -/
theorem deserialize_serialize (realText : ℚ → String) (r old : Rest)
    (h : Ordered r.m_Headers) :
    (serialize .null r).bind (fun json => deserialize realText json old) =
      some { r with m_Token := old.m_Token } := by
  obtain ⟨json, hjson, hurl, htype, hparams, hlisted⟩ := serialize_spec r
  rw [hjson, Option.bind_some]
  simp only [deserialize, hurl, htype, Option.bind_eq_bind, Option.bind_some,
    Value.asString?_string, read?_of_get? hparams nofun,
    deserializeHeaders_listed realText hlisted h]
  rfl

end Rest

end SelfPlugins.SmartThings
