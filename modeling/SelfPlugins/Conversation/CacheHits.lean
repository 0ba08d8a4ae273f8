import SelfPlugins.Conversation.Service

/-!
# Cache hits agree with the service

Whatever is delivered from the cache is a response the service returned before
for the same workspace and the same hashed input, with its dialog stack for a
context.  The invariant `Sound` follows such a response through encoding,
reduction, printing, refreshing and expiry, up to decoding.
-/

namespace SelfPlugins.Watson

open Runs
open Json (Value)

variable {F Text Hash : Type}

/-- `d` is the response `r` with its dialog stack for a context. -/
structure Agrees (r d : ConversationResponse F) : Prop where
  intents : d.intents = r.intents
  entities : d.entities = r.entities
  output : d.output = r.output
  context : ∃ stack, dialogStack? r.context = some stack ∧
    d.context = stackContext stack

/-- What is decoded from a reduced response agrees with the response. -/
theorem agrees_of_ofJson {f : Framework F Text Hash} (hf : f.Lawful)
    {r d : ConversationResponse F} {v : Value}
    (hreduce : reduceContext (r.toJson f) = some v)
    (hd : ConversationResponse.ofJson f v = some d) : Agrees r d := by
  rw [reduceContext_toJson] at hreduce
  obtain ⟨stack, hstack, rfl⟩ := Option.map_eq_some_iff.mp hreduce
  rw [ConversationResponse.ofJson_toJson hf, Option.some.injEq] at hd
  subst hd
  exact ⟨rfl, rfl, rfl, stack, hstack, rfl⟩

namespace Conversation

/-- Every response delivered from the cache agrees with one the service
returned for the same workspace and input. -/
def FromService (s : Conversation F Text Hash) : Prop :=
  ∀ d ∈ s.fromCache, ∃ r ∈ s.returned,
    r.workspaceId = d.workspaceId ∧ r.input = d.input ∧
      Agrees r.response d.response

/-- The item holds a response the service returned for an input with the
hash. -/
def Returned (f : Framework F Text Hash) (s : Conversation F Text Hash)
    (workspaceId : String) (hash : Hash) (v : Value) : Prop :=
  ∃ r ∈ s.returned, r.workspaceId = workspaceId ∧ f.hash r.input = hash ∧
    reduceContext (r.response.toJson f) = some v

structure Sound (f : Framework F Text Hash) (s : Conversation F Text Hash) :
    Prop where
  hashed : ∀ req ∈ s.pending, req.inputHash = f.hash req.input
  stored : ∀ workspaceId hash items,
    storedItems f (s.caches workspaceId hash) = some items →
      ∀ item ∈ items, Returned f s workspaceId hash item.response
  fromService : FromService s

theorem Returned.mono {f : Framework F Text Hash}
    {s t : Conversation F Text Hash}
    (hst : ∀ r ∈ s.returned, r ∈ t.returned) {workspaceId : String}
    {hash : Hash} {v : Value} (h : Returned f s workspaceId hash v) :
    Returned f t workspaceId hash v := by
  obtain ⟨r, hr, hrest⟩ := h
  exact ⟨r, hst r hr, hrest⟩

theorem FromService.mono {s t : Conversation F Text Hash}
    (hcache : t.fromCache = s.fromCache)
    (hst : ∀ r ∈ s.returned, r ∈ t.returned) (h : FromService s) :
    FromService t := by
  intro d hd
  rw [hcache] at hd
  obtain ⟨r, hr, hrest⟩ := h d hd
  exact ⟨r, hst r hr, hrest⟩

theorem Sound.new (f : Framework F Text Hash) : Sound f new := by
  refine ⟨?_, ?_, ?_⟩
  · intro req hreq
    cases hreq
  · intro workspaceId hash items hitems item hitem
    cases hitems
    cases hitem
  · intro d hd
    cases hd

/-! ## Messages -/

/-- A response found in the cache is that of an item of the list. -/
theorem cachedResponse_spec {f : Framework F Text Hash} {stored : Option Text}
    {pick : ℕ} {d : ConversationResponse F}
    (hd : cachedResponse f stored pick = some (some d)) :
    ∃ items, storedItems f stored = some items ∧
      ∃ item ∈ items, ConversationResponse.ofJson f item.response = some d := by
  cases stored with
  | none => simp [cachedResponse] at hd
  | some text =>
      cases hparse : f.parse text with
      | none => simp [cachedResponse, hparse] at hd
      | some v =>
          simp only [cachedResponse, hparse] at hd
          obtain ⟨items, hitems, hd⟩ := Option.bind_eq_some_iff.mp hd
          refine ⟨items, by simp [storedItems, hparse, hitems], ?_⟩
          cases hitem : items[pick % items.length]? with
          | none => simp [hitem] at hd
          | some item =>
              simp only [hitem] at hd
              obtain ⟨r, hr, hd⟩ := Option.bind_eq_some_iff.mp hd
              cases hd
              exact ⟨item, List.mem_of_getElem? hitem, hr⟩

/-- The request that `Message` makes. -/
def request (f : Framework F Text Hash) (a : MessageArgs) (callback : Bool)
    (input body : Value) : MessageReq Hash :=
  ⟨a.workspaceId, callback, a.useCache, f.hash input, input, body⟩

theorem message_cases {f : Framework F Text Hash} {a : MessageArgs}
    {s t : Conversation F Text Hash} (ht : message f a s = some t) :
    ∃ input body,
      (∃ d items, storedItems f (s.caches a.workspaceId (f.hash input)) =
          some items ∧
        (∃ item ∈ items,
          ConversationResponse.ofJson f item.response = some d) ∧
        t = { s with
          fromCache := s.fromCache ++ [⟨a.workspaceId, input, d⟩]
          pending := s.pending ++ [request f a false input body] }) ∨
      t = { s with
        pending := s.pending ++ [request f a a.callback input body] } := by
  obtain ⟨input, -, ht⟩ := Option.bind_eq_some_iff.mp ht
  obtain ⟨body, -, ht⟩ := Option.bind_eq_some_iff.mp ht
  obtain ⟨hit, hhit, ht⟩ := Option.bind_eq_some_iff.mp ht
  refine ⟨input, body, ?_⟩
  cases hit with
  | none =>
      right
      exact (Option.some.inj ht).symm
  | some d =>
      left
      by_cases hcache : (a.useCache && a.cacheThere) = true
      · rw [if_pos hcache] at hhit
        obtain ⟨items, hitems, hitem⟩ := cachedResponse_spec hhit
        exact ⟨d, items, hitems, hitem, (Option.some.inj ht).symm⟩
      · rw [if_neg hcache] at hhit
        cases hhit

theorem hashed_concat {f : Framework F Text Hash}
    {s : Conversation F Text Hash} (h : Sound f s) (a : MessageArgs)
    (callback : Bool) (input body : Value) :
    ∀ req ∈ s.pending ++ [request f a callback input body],
      req.inputHash = f.hash req.input := by
  intro req hreq
  rcases List.mem_append.mp hreq with hreq | hreq
  · exact h.hashed req hreq
  · rw [List.mem_singleton.mp hreq]
    rfl

theorem Sound.message {f : Framework F Text Hash} (hf : f.Lawful)
    (hinj : Function.Injective f.hash) {s t : Conversation F Text Hash}
    (h : Sound f s) {a : MessageArgs}
    (ht : Conversation.message f a s = some t) : Sound f t := by
  obtain ⟨input, body, ⟨d, items, hitems, ⟨item, hitem, hd⟩, rfl⟩ | rfl⟩ :=
    message_cases ht
  · refine ⟨hashed_concat h a _ input body, h.stored, ?_⟩
    intro d' hd'
    rcases List.mem_append.mp hd' with hd' | hd'
    · exact h.fromService d' hd'
    · rw [List.mem_singleton.mp hd']
      obtain ⟨r, hr, hworkspace, hhash, hreduce⟩ :=
        h.stored _ _ items hitems item hitem
      exact ⟨r, hr, hworkspace, hinj hhash, agrees_of_ofJson hf hreduce hd⟩
  · exact ⟨hashed_concat h a _ input body, h.stored, h.fromService⟩

/-! ## Responses -/

theorem deliver_frame (req : MessageReq Hash)
    (r : Option (ConversationResponse F)) (s : Conversation F Text Hash) :
    (deliver req r s).pending = s.pending ∧
      (deliver req r s).returned = s.returned ∧
      (deliver req r s).fromCache = s.fromCache := by
  rw [deliver]
  split
  · exact ⟨rfl, rfl, rfl⟩
  · exact ⟨rfl, rfl, rfl⟩

theorem Sound.deliver {f : Framework F Text Hash}
    {s : Conversation F Text Hash} (h : Sound f s) (req : MessageReq Hash)
    (r : Option (ConversationResponse F)) :
    Sound f (Conversation.deliver req r s) := by
  obtain ⟨hpending, hreturned, hcache⟩ := deliver_frame req r s
  have hmem : ∀ r' ∈ s.returned,
      r' ∈ (Conversation.deliver req r s).returned := by
    rw [hreturned]
    exact fun _ hr' => hr'
  refine ⟨?_, ?_, h.fromService.mono hcache hmem⟩
  · rw [hpending]
    exact h.hashed
  · intro workspaceId hash items hitems item hitem
    rw [deliver_caches] at hitems
    exact (h.stored workspaceId hash items hitems item hitem).mono hmem

theorem Sound.receive {f : Framework F Text Hash}
    {s : Conversation F Text Hash} (h : Sound f s) (n : ℕ)
    (req : MessageReq Hash) (r : Option (ConversationResponse F)) :
    Sound f (receive req r { s with pending := s.pending.eraseIdx n }) := by
  have hmem : ∀ r' ∈ s.returned, r' ∈ (Conversation.receive req r
      { s with pending := s.pending.eraseIdx n }).returned :=
    fun r' hr' => List.mem_append_left _ hr'
  refine ⟨?_, ?_, FromService.mono (s := s) rfl hmem h.fromService⟩
  · intro req' hreq'
    exact h.hashed req' (List.mem_of_mem_eraseIdx hreq')
  · intro workspaceId hash items hitems item hitem
    exact (h.stored workspaceId hash items hitems item hitem).mono hmem

variable [DecidableEq Hash]

theorem Sound.save {f : Framework F Text Hash} {s : Conversation F Text Hash}
    (h : Sound f s) {workspaceId : String} {hash : Hash} {text : Option Text}
    (htext : ∀ items, storedItems f text = some items →
      ∀ item ∈ items, Returned f s workspaceId hash item.response) :
    Sound f (Conversation.save workspaceId hash text s) := by
  refine ⟨h.hashed, ?_, h.fromService⟩
  intro workspaceId' hash' items hitems item hitem
  simp only [Conversation.save] at hitems
  split at hitems
  · rename_i heq
    obtain ⟨rfl, rfl⟩ := heq
    exact htext items hitems item hitem
  · exact h.stored workspaceId' hash' items hitems item hitem

/-- The saved list holds the new response and stored ones. -/
theorem Sound.saveResponse {f : Framework F Text Hash} (hf : f.Lawful)
    {s : Conversation F Text Hash} (h : Sound f s) {req : MessageReq Hash}
    (hreq : req.inputHash = f.hash req.input) {r : ConversationResponse F}
    (hr : ⟨req.workspaceId, req.input, r⟩ ∈ s.returned)
    {maxCacheAge now : ℚ} {text : Text}
    (htext : Watson.saveResponse f maxCacheAge now r
      (s.caches req.workspaceId req.inputHash) = some text) :
    ∀ items, storedItems f (some text) = some items → ∀ item ∈ items,
      Returned f s req.workspaceId req.inputHash item.response := by
  obtain ⟨response, hresponse, htext⟩ := Option.bind_eq_some_iff.mp htext
  obtain ⟨old, hold, htext⟩ := Option.bind_eq_some_iff.mp htext
  cases htext
  intro items hitems item hitem
  rw [storedItems_print hf, Option.some.injEq] at hitems
  subst hitems
  rcases mem_maintain hitem with heq | ⟨j, hj, heq⟩
  · refine ⟨⟨req.workspaceId, req.input, r⟩, hr, rfl, hreq.symm, ?_⟩
    rw [heq]
    exact hresponse
  · rw [← heq]
    exact h.stored _ _ old hold j hj

theorem Sound.onResponse {f : Framework F Text Hash} (hf : f.Lawful)
    {s t : Conversation F Text Hash} (h : Sound f s) {req : MessageReq Hash}
    (hreq : req.inputHash = f.hash req.input)
    {r : Option (ConversationResponse F)}
    (hr : ∀ r' ∈ r, ⟨req.workspaceId, req.input, r'⟩ ∈ s.returned)
    {c : Config} {now : ℚ} {cacheThere : Bool}
    (ht : Conversation.onResponse f c req r now cacheThere s = some t) :
    Sound f t := by
  cases r with
  | none =>
      cases ht
      exact h.deliver req none
  | some r =>
      simp only [Conversation.onResponse] at ht
      split at ht
      · obtain ⟨text, htext, ht⟩ := Option.bind_eq_some_iff.mp ht
        cases ht
        exact (h.save (h.saveResponse hf hreq (hr r rfl) htext)).deliver req _
      · cases ht
        exact h.deliver req _

/-! ## Runs -/

theorem Sound.next {f : Framework F Text Hash} (hf : f.Lawful)
    (hinj : Function.Injective f.hash) {c : Config}
    {s t : Conversation F Text Hash} (h : Sound f s) {e : Event Hash}
    (ht : step f c s e = some t) : Sound f t := by
  cases e with
  | message a =>
      cases ht
      cases hmessage : Conversation.message f a s with
      | none => exact h
      | some t => exact h.message hf hinj hmessage
  | evict workspaceId hash =>
      cases ht
      apply h.save
      intro items hitems item hitem
      cases hitems
      cases hitem
  | response n json now cacheThere =>
      obtain ⟨req, hreq, rfl⟩ := Option.map_eq_some_iff.mp ht
      have hhash := h.hashed req (List.mem_of_getElem? hreq)
      have hreceive := h.receive n req
        (json.bind (ConversationResponse.ofJson f))
      cases hon : Conversation.onResponse f c req
        (json.bind (ConversationResponse.ofJson f)) now cacheThere
        (Conversation.receive req (json.bind (ConversationResponse.ofJson f))
          { s with pending := s.pending.eraseIdx n }) with
      | none =>
          simp only [hon, Option.getD_none]
          exact hreceive
      | some t =>
          simp only [hon, Option.getD_some]
          refine hreceive.onResponse hf hhash ?_ hon
          intro r' hr'
          apply List.mem_append_right
          rw [Option.mem_def] at hr'
          simp [hr']

/-- In every state of a run that starts with empty caches, what has been
delivered from the cache agrees with responses of the service. -/
theorem fromService_throughout {f : Framework F Text Hash} (hf : f.Lawful)
    (hinj : Function.Injective f.hash) (c : Config) (es : List (Event Hash)) :
    Throughout (step f c) FromService new es := by
  refine Throughout.mono (fun s (h : Sound f s) => h.fromService) ?_
  exact throughout_of_eachStep (C := fun _ _ => True)
    (fun s e t h _ ht => h.next hf hinj ht) (Sound.new f) (eachStep_true _ _)

/-- The second greeting is answered from the cache. -/
theorem fromService_throughout_greeting :
    let hello : MessageArgs :=
      ⟨"Self", .null, "hi", "", true, true, true, 0⟩
    Throughout (step .exact ⟨"[cache]", 1⟩) FromService new
      [.message hello,
        .response 0 (some ((greeting "Hello! [cache]").toJson .exact)) 9000
          true,
        .message hello] :=
  fromService_throughout Framework.exact_lawful (fun _ _ h => h) _ _

end Conversation

end SelfPlugins.Watson
