import SelfPlugins.Configuration
import SelfPlugins.Conversation.Requests

/-!
# The two contexts of the conversation proxy

`m_Context` is configured, and `m_MergedContext` is the context of the dialog:
each request merges the configured one into it, and a response with intents
replaces it.  When a request fails, `OnTextClassified` clears `m_Context`, the
configured one, and leaves the context of the failed dialog where it is.

`keepsContext_iff` says in which runs the configured context stays what it was
and a failed request leaves nothing behind.
-/

namespace SelfPlugins.Watson.ConversationProxy

open Runs
open Json (Value lookup)

variable {F Text Hash : Type}

@[simp] theorem begun_context (a : ClassifyArgs F) (merged : Value)
    (p : ProxyData) : (begun a merged p).context = p.context := rfl

/-! ## Responses handed to `OnTextClassified` -/

/-- The context after `m_Context.clear()`, which throws where there is nothing
to clear. -/
def cleared (context : Value) : Value := (clear? context).getD context

/-- The data of the proxy after `OnTextClassified`. -/
def afterClassified (f : Framework F Text Hash) (text : TextThing)
    (response : Option (ConversationResponse F)) (p : ProxyData) : ProxyData :=
  match classify f text response p with
  | some (_, data) => data
  | none => p

section

variable [DecidableEq Hash] (f : Framework F Text Hash) (c : Config)
  (merge : Value → Value → Value)
  (deserialize : Value → Option (Option (ConversationResponse F)))

/-- What `Message` hands on at once: the response of the cache, or the answer of
the network, unless it is lost while it is cached. -/
def atOnce (m : OwnedReq Hash) (answer : Option (Answer F))
    (service : Conversation F Text Hash) :
    Option (ConversationResponse F) → Option (Option (ConversationResponse F))
  | some response => some (some response)
  | none => answer.bind fun x => (cacheFor f c m x service).map fun _ =>
      x.response

/-- The response `OnTextClassified` is called with in a step, and the data of
the proxy at this time. -/
def handed (s : ConversationProxy F Text Hash) :
    Event F → Option (ProxyData × Option (ConversationResponse F))
  | .classifyText a =>
      if a.serviceThere then do
        let merged ← mergeContext merge a s.data
        let p := begun a merged s.data
        if 0 < p.workspaceId.length then
          let (m, found) ← prepare f deserialize s.nextRequest a p s.service
          (atOnce f c m a.answer s.service found).map fun x => (p, x)
        else none
      else none
  | .callbackReturns => none
  | .response n answer => do
      let m ← s.inFlight[n]?
      if m.req.callback then
        (cacheFor f c m answer s.service).map fun _ =>
          (s.data, answer.response)
      else none
  | .invalidate _ => none

end

/-- The event begins a request that merges the contexts. -/
def starts : Event F → Bool
  | .classifyText a => a.serviceThere
  | _ => false

/-! ## What a step does with the data -/

section Data

variable {f : Framework F Text Hash} {s t : ConversationProxy F Text Hash}

/-- Only a failure changes the configured context. -/
theorem afterClassified_cases (f : Framework F Text Hash) (text : TextThing)
    (response : Option (ConversationResponse F)) (p : ProxyData) :
    if failed response then
      afterClassified f text response p =
        { p with context := cleared p.context }
    else (afterClassified f text response p).context = p.context := by
  unfold afterClassified classify
  cases hintent : response.bind fun r =>
      r.intents.head?.map fun intent => (r, intent) with
  | some found =>
      obtain ⟨r', rfl, hhead⟩ := Option.bind_eq_some_iff.mp hintent
      obtain ⟨first, hfirst, rfl⟩ := Option.map_eq_some_iff.mp hhead
      have hfailed : failed (some r') = false := by simp [failed, hfirst]
      rw [hfailed, if_neg Bool.false_ne_true]
      dsimp only
      by_cases hignored : (p.filters.any fun ignores =>
          ignores (resultJson f text r' first)) = true
      · rw [if_pos hignored]
      · rw [if_neg hignored]
  | none =>
      have hfailed : failed response = true := by
        cases response with
        | none => rfl
        | some r => simpa [failed] using hintent
      rw [hfailed, if_pos rfl]
      cases hclear : clear? p.context with
      | none => simp [cleared, hclear]
      | some context => simp [cleared, hclear]

@[simp] theorem messageReturns_data (r : RequestId)
    (s : ConversationProxy F Text Hash) :
    (messageReturns r s).data = s.data := by
  rw [messageReturns]
  split
  · rfl
  · rfl

@[simp] theorem finishClassified_data (r : RequestId)
    (s : ConversationProxy F Text Hash) :
    (finishClassified r s).data = s.data := by
  rw [finishClassified]
  split
  · rfl
  · rfl

@[simp] theorem finishResponse_data (r : RequestId) (atOnce : Bool)
    (s : ConversationProxy F Text Hash) :
    (finishResponse r atOnce s).data = s.data := by
  rw [finishResponse]
  split
  · rw [messageReturns_data]
  · rfl

@[simp] theorem constructed_data (r : RequestId)
    (o : Outcome (ConversationProxy F Text Hash)) :
    (constructed r o).data = o.state.data := by
  cases o with
  | returns s => rfl
  | throws s => rfl

/-- `OnTextClassified` changes the data as `classify` does. -/
theorem onTextClassified_data (r : RequestId)
    (response : Option (ConversationResponse F)) (frame : Frame F Hash)
    (s : ConversationProxy F Text Hash) :
    ∃ text, (onTextClassified f r response frame s).state.data =
      afterClassified f text response s.data := by
  refine ⟨((note (.used r) s).requests r).text, ?_⟩
  rw [onTextClassified, afterClassified]
  cases hclassify : classify f ((note (.used r) s).requests r).text response
      s.data with
  | none =>
      have hclassify' : classify f ((note (.used r) s).requests r).text response
          (note (.used r) s).data = none := hclassify
      dsimp only
      rw [hclassify']
      rfl
  | some result =>
      have hclassify' : classify f ((note (.used r) s).requests r).text response
          (note (.used r) s).data = some result := hclassify
      dsimp only
      rw [hclassify']
      rfl

variable [DecidableEq Hash] {c : Config} {merge : Value → Value → Value}
  {deserialize : Value → Option (Option (ConversationResponse F))}

/-- A response of the network is handed on if it can be cached and the callback
is valid. -/
theorem onResponse_data (m : OwnedReq Hash) (answer : Answer F) (atOnce : Bool)
    (s : ConversationProxy F Text Hash) :
    if (cacheFor f c m answer s.service).isSome ∧ m.req.callback = true then
      ∃ text, (onResponse f c m answer atOnce s).state.data =
        afterClassified f text answer.response s.data
    else (onResponse f c m answer atOnce s).state.data = s.data := by
  cases hcache : cacheFor f c m answer s.service with
  | none =>
      rw [onResponse_throws hcache, if_neg (by simp)]
      rfl
  | some items =>
      obtain ⟨service, heq⟩ := onResponse_eq atOnce hcache
      rw [heq]
      by_cases hcallback : m.req.callback = true
      · rw [if_pos ⟨rfl, hcallback⟩, if_pos hcallback]
        exact onTextClassified_data m.owner answer.response
          (.answered m.owner atOnce) { s with service := service }
      · rw [if_neg fun h => hcallback h.2, if_neg hcallback]
        exact finishResponse_data m.owner atOnce _

/-- What `Message` hands on at once changes the data. -/
theorem message_data (f : Framework F Text Hash) (c : Config)
    (deserialize : Value → Option (Option (ConversationResponse F)))
    (r : RequestId) (a : ClassifyArgs F)
    (s : ConversationProxy F Text Hash) :
    match (prepare f deserialize r a s.data s.service).bind fun x =>
      atOnce f c x.1 a.answer s.service x.2 with
    | some x => ∃ text, (message f c deserialize r a s).state.data =
        afterClassified f text x s.data
    | none => (message f c deserialize r a s).state.data = s.data := by
  rw [message]
  cases hprepare : prepare f deserialize r a s.data s.service with
  | none => rfl
  | some prepared =>
      obtain ⟨m, found⟩ := prepared
      have hcallback := (prepare_eq_some hprepare).2
      rw [Option.bind_some]
      cases found with
      | some response =>
          exact onTextClassified_data r (some response) (.hit m a.answer) _
      | none =>
          cases a.answer with
          | none => exact messageReturns_data m.owner _
          | some x =>
              have hdata := onResponse_data (f := f) (c := c) m x true s
              simp only [atOnce, Option.bind_some]
              cases hcache : cacheFor f c m x s.service with
              | none =>
                  rw [hcache, if_neg (by simp)] at hdata
                  exact hdata
              | some items =>
                  rw [hcache, if_pos ⟨rfl, hcallback⟩] at hdata
                  exact hdata

/-- `ClassifyText` hands on what `Message` has at once, or leaves the configured
context alone. -/
theorem classifyText_data (f : Framework F Text Hash) (c : Config)
    (merge : Value → Value → Value)
    (deserialize : Value → Option (Option (ConversationResponse F)))
    (a : ClassifyArgs F)
    (s : ConversationProxy F Text Hash) :
    match handed f c merge deserialize s (.classifyText a) with
    | some (p, x) => p.context = s.data.context ∧
        ∃ text, (classifyText f c merge deserialize a s).data =
          afterClassified f text x p
    | none =>
        (classifyText f c merge deserialize a s).data.context =
            s.data.context ∧
          (starts (.classifyText a : Event F) = false →
            (classifyText f c merge deserialize a s).data = s.data) := by
  rw [classifyText_eq, handed]
  by_cases hthere : a.serviceThere = true
  · have hstarts : ¬starts (.classifyText a : Event F) = false := by
      simp [starts, hthere]
    rw [if_pos hthere, if_pos hthere]
    cases hmerged : mergeContext merge a s.data with
    | none => exact ⟨rfl, fun h => absurd h hstarts⟩
    | some merged =>
        rw [Option.bind_eq_bind, Option.bind_some]
        dsimp only
        by_cases hlen : 0 < (begun a merged s.data).workspaceId.length
        · rw [if_pos hlen, if_pos hlen, constructed_data]
          have hdata := message_data f c deserialize s.nextRequest a
            { entered a s with data := begun a merged s.data }
          change match (prepare f deserialize s.nextRequest a
            (begun a merged s.data) s.service).bind fun x =>
              atOnce f c x.1 a.answer s.service x.2 with
            | some x => _
            | none => _ at hdata
          cases hprepare : prepare f deserialize s.nextRequest a
              (begun a merged s.data) s.service with
          | none =>
              rw [hprepare] at hdata
              dsimp only [Option.bind_none] at hdata
              refine ⟨?_, fun h => absurd h hstarts⟩
              rw [hdata, begun_context]
          | some prepared =>
              rw [hprepare, Option.bind_some] at hdata
              rw [Option.bind_eq_bind, Option.bind_some]
              cases hat : atOnce f c prepared.1 a.answer s.service
                  prepared.2 with
              | none =>
                  rw [hat] at hdata
                  dsimp only at hdata
                  refine ⟨?_, fun h => absurd h hstarts⟩
                  rw [hdata, begun_context]
              | some x =>
                  rw [hat] at hdata
                  exact ⟨rfl, hdata⟩
        · rw [if_neg hlen, if_neg hlen]
          exact ⟨rfl, fun h => absurd h hstarts⟩
  · rw [if_neg hthere, if_neg hthere]
    exact ⟨rfl, fun _ => rfl⟩

/-- When the callback of the user returns, no response is handed on. -/
theorem callbackReturns_data (ht : callbackReturns f c s = some t) :
    t.data = s.data := by
  unfold callbackReturns at ht
  cases hstack : s.stack with
  | nil =>
      rw [hstack] at ht
      cases ht
  | cons frame rest =>
      rw [hstack] at ht
      cases frame with
      | failed r =>
          obtain rfl := Option.some.inj ht
          rfl
      | hit m answer =>
          obtain rfl := Option.some.inj ht
          rw [constructed_data]
          cases answer with
          | none =>
              exact (messageReturns_data m.owner _).trans
                (finishClassified_data m.owner _)
          | some x =>
              have hdata := onResponse_data (f := f) (c := c)
                { m with req := { m.req with callback := false } } x true
                (finishClassified m.owner { s with stack := rest })
              rw [if_neg fun h => Bool.false_ne_true h.2] at hdata
              exact hdata.trans (finishClassified_data m.owner _)
      | answered r atOnce =>
          obtain rfl := Option.some.inj ht
          rw [finishResponse_data, finishClassified_data]

/-- A step hands a response to `OnTextClassified`, which changes the data; or it
leaves the contexts alone, unless a request begins, which leaves the configured
one alone. -/
theorem step_data {e : Event F}
    (ht : step f c merge deserialize s e = some t) :
    (∃ p x text, handed f c merge deserialize s e = some (p, x) ∧
        p.context = s.data.context ∧ t.data = afterClassified f text x p) ∨
      (handed f c merge deserialize s e = none ∧
        t.data.context = s.data.context ∧
        (starts e = false → t.data = s.data)) := by
  cases e with
  | classifyText a =>
      obtain rfl := Option.some.inj ht
      have hdata := classifyText_data f c merge deserialize a s
      cases hhanded : handed f c merge deserialize s (.classifyText a) with
      | none =>
          rw [hhanded] at hdata
          exact Or.inr ⟨rfl, hdata⟩
      | some x =>
          rw [hhanded] at hdata
          obtain ⟨hcontext, text, heq⟩ := hdata
          exact Or.inl ⟨x.1, x.2, text, rfl, hcontext, heq⟩
  | callbackReturns =>
      have hdata := callbackReturns_data ht
      exact Or.inr ⟨rfl, by rw [hdata], fun _ => hdata⟩
  | response n answer =>
      obtain ⟨m, hm, rfl⟩ := step_response ht
      have hdata := onResponse_data (f := f) (c := c) m answer false
        { s with inFlight := s.inFlight.eraseIdx n }
      cases hcache : cacheFor f c m answer s.service with
      | none =>
          rw [if_neg fun h => absurd h.1 (by simp [hcache])] at hdata
          exact Or.inr ⟨by simp [handed, hm, hcache], by rw [hdata],
            fun _ => hdata⟩
      | some items =>
          by_cases hcallback : m.req.callback = true
          · rw [if_pos ⟨by simp [hcache], hcallback⟩] at hdata
            obtain ⟨text, heq⟩ := hdata
            exact Or.inl ⟨s.data, answer.response, text,
              by simp [handed, hm, hcallback, hcache], rfl, heq⟩
          · rw [if_neg fun h => hcallback h.2] at hdata
            exact Or.inr ⟨by simp [handed, hm, hcallback], by rw [hdata],
              fun _ => hdata⟩
  | invalidate r =>
      obtain rfl := Option.some.inj ht
      exact Or.inr ⟨rfl, rfl, fun _ => rfl⟩

end Data

/-! ## The configured context -/

/-- A proxy, and whether the response it was given last is a failure after
which no request has begun. -/
structure Session (F Text Hash : Type) where
  proxy : ConversationProxy F Text Hash
  failed : Bool

/-- What `Serialize` saves of a proxy; `saved` are the members that
classification does not use. -/
def ProxyData.configuration (saved : Configuration.ConversationProxy)
    (p : ProxyData) : Configuration.ConversationProxy :=
  { saved with
    m_WorkspaceId := p.workspaceId
    m_IntentOverride := p.intentOverride
    m_Context := p.context
    m_bUseCache := p.useCache }

/-- No request that begins now sends anything that is left of the merged
context: it sends what it would send if that were empty. -/
def Afresh (merge : Value → Value → Value) (p : ProxyData) : Prop :=
  ∀ a : ClassifyArgs F, mergeContext merge a p =
    mergeContext merge a { p with mergedContext := .null }

namespace Session

variable [DecidableEq Hash] (f : Framework F Text Hash) (c : Config)
  (merge : Value → Value → Value)
  (deserialize : Value → Option (Option (ConversationResponse F)))

def step (s : Session F Text Hash) (e : Event F) :
    Option (Session F Text Hash) :=
  (ConversationProxy.step f c merge deserialize s.proxy e).map fun t =>
    { proxy := t
      failed := match handed f c merge deserialize s.proxy e with
        | some (_, response) => ConversationProxy.failed response
        | none => s.failed && !starts e }

/-- The configured context is the one that was loaded, and is what `Serialize`
writes.  After a failure the next request starts from it: what it sends is what
it would send with the loaded context alone. -/
structure KeepsContext (saved : Configuration.ConversationProxy)
    (json : List (String × Value)) (loaded : Value) (s : Session F Text Hash) :
    Prop where
  context : s.proxy.data.context = loaded
  written : lookup "m_Context"
    ((ProxyData.configuration saved s.proxy.data).serialize json) = some loaded
  restarts : s.failed = true → ∀ a : ClassifyArgs F,
    mergeContext merge a s.proxy.data = mergeContext merge a
      { s.proxy.data with mergedContext := .null, context := loaded }

/-- If `OnTextClassified` is called with a failure, clearing the configured
context changes nothing, and the merged one is not felt by a request that begins
then. -/
def Harmless (s : Session F Text Hash) (e : Event F) : Prop :=
  ∀ p response, handed f c merge deserialize s.proxy e = some (p, response) →
    ConversationProxy.failed response = true →
    cleared p.context = p.context ∧ Afresh (F := F) merge p

variable {f c merge deserialize}

theorem written_eq (saved : Configuration.ConversationProxy)
    (json : List (String × Value)) (p : ProxyData) :
    lookup "m_Context" ((ProxyData.configuration saved p).serialize json) =
      some p.context := by
  simp [ProxyData.configuration, Configuration.ConversationProxy.serialize]

variable {saved : Configuration.ConversationProxy}
  {json : List (String × Value)} {loaded : Value} {s t : Session F Text Hash}
  {e : Event F}

omit [DecidableEq Hash] in
theorem KeepsContext.intro (hcontext : s.proxy.data.context = loaded)
    (hrestarts : s.failed = true → Afresh (F := F) merge s.proxy.data) :
    KeepsContext merge saved json loaded s where
  context := hcontext
  written := by rw [written_eq, hcontext]
  restarts := by
    subst hcontext
    exact hrestarts

omit [DecidableEq Hash] in
theorem KeepsContext.afresh (h : KeepsContext merge saved json loaded s)
    (hfailed : s.failed = true) : Afresh (F := F) merge s.proxy.data := by
  have hrestarts := h.restarts hfailed
  rw [← h.context] at hrestarts
  exact hrestarts

/-- A step without a failure keeps the configured context; one with a failure
keeps it precisely if it is harmless. -/
theorem KeepsContext.step_iff (h : KeepsContext merge saved json loaded s)
    (ht : step f c merge deserialize s e = some t) :
    KeepsContext merge saved json loaded t ↔
      Harmless f c merge deserialize s e := by
  obtain ⟨proxy, hproxy, rfl⟩ := Option.map_eq_some_iff.mp ht
  rcases step_data hproxy with ⟨p, x, text, hhanded, hp, hdata⟩ |
    ⟨hhanded, hcontext, hrest⟩
  · have hcases := afterClassified_cases f text x p
    rw [← hdata] at hcases
    rw [h.context] at hp
    cases hfailed : ConversationProxy.failed x with
    | false =>
        rw [hfailed, if_neg (by simp)] at hcases
        constructor
        · intro _ q y hq hy
          obtain ⟨rfl, rfl⟩ := Prod.mk.inj
            (Option.some.inj (hhanded.symm.trans hq))
          exact absurd (hfailed.symm.trans hy) (by simp)
        · intro _
          refine .intro (hcases.trans hp) fun hfail => ?_
          simp [hhanded, hfailed] at hfail
    | true =>
        rw [hfailed, if_pos rfl] at hcases
        constructor
        · intro hkept q y hq hy
          obtain ⟨rfl, rfl⟩ := Prod.mk.inj
            (Option.some.inj (hhanded.symm.trans hq))
          have hsame : cleared p.context = p.context := by
            have hcleared : proxy.data.context = cleared p.context :=
              congrArg ProxyData.context hcases
            exact hcleared.symm.trans (hkept.context.trans hp.symm)
          have hafresh := hkept.afresh (by simp [hhanded, hfailed])
          dsimp only at hafresh
          rw [hcases, hsame] at hafresh
          exact ⟨hsame, hafresh⟩
        · intro hharmless
          obtain ⟨hsame, hafresh⟩ := hharmless p x hhanded hfailed
          rw [hsame] at hcases
          have heq : proxy.data = p := hcases
          refine .intro ?_ fun _ => ?_
          · exact (congrArg ProxyData.context heq).trans hp
          · dsimp only
            rw [heq]
            exact hafresh
  · constructor
    · intro _ q y hq _
      exact absurd (hhanded.symm.trans hq) (by simp)
    · intro _
      refine .intro (hcontext.trans h.context) fun hfail => ?_
      simp only [hhanded, Bool.and_eq_true, Bool.not_eq_true'] at hfail
      dsimp only
      rw [hrest hfail.2]
      exact h.afresh hfail.1

/-- In a run the configured context is kept, and failures leave nothing
behind, precisely if every failure is harmless. -/
theorem keepsContext_iff (f : Framework F Text Hash) (c : Config)
    (merge : Value → Value → Value)
    (deserialize : Value → Option (Option (ConversationResponse F)))
    (saved : Configuration.ConversationProxy)
    (json : List (String × Value)) (data : ProxyData)
    (service : Conversation F Text Hash) (es : List (Event F)) :
    Throughout (step f c merge deserialize)
        (KeepsContext merge saved json data.context)
        ⟨new data service, false⟩ es ↔
      EachStep (step f c merge deserialize) (Harmless f c merge deserialize)
        ⟨new data service, false⟩ es :=
  throughout_iff_eachStep (L := fun _ _ => True) (fun _ h => h)
    (fun _ _ _ h _ hC ht => (h.step_iff ht).mpr hC)
    (fun _ _ _ h _ hC ht hP => hC ((h.step_iff ht).mp hP))
    (.intro rfl fun h => absurd h (by simp)) (eachStep_true _ _)

/-- `JsonHelpers::Merge` for objects: the members of `b` are copied. -/
def mergeMembers (a b : Value) : Value :=
  (b.members?.getD []).foldl (fun v m => (v.set? m.1 m.2).getD v) a

/-- The first request fails: the configured name is gone. -/
theorem not_always_keepsContext :
    ¬Throughout (step .exact ⟨"[cache]", 1⟩ mergeMembers
        fun v => (ConversationResponse.ofJson .exact v).map some)
      (KeepsContext mergeMembers .new [] (.object [("name", .string "Ada")]))
      ⟨new ⟨"Self", "", .object [("name", .string "Ada")], .null, true, "",
        false, false, []⟩ Conversation.new, false⟩
      [.classifyText ⟨⟨"hi", .null, .null⟩, true, true, none, 1 / 2, .null,
        true, 0, some ⟨none, 0, true⟩⟩] := by
  intro h
  have hkept := h.2 _ rfl
  have hcontext := hkept.context
  cases hcontext

end Session

end SelfPlugins.Watson.ConversationProxy
