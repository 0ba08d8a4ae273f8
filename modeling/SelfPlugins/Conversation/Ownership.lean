import SelfPlugins.Conversation.Proxy

/-!
# Who owns the responses of a message

A `MessageReq` may hold two `ConversationResponse` objects: one that its
constructor makes from the cache, and one that `OnResponse` gets from the
network.  Each has to be handed to a valid callback or deleted.  This module
lists what a call does with its callback and its objects, for any contents of
the cache, and determines the calls after which every object has an owner
(`accounted_messageEffects_iff`).

The constructor calls the callback on a hit without asking whether it is
valid, as `OnResponse` does; the calls by which `ConversationProxy::Start`
fills the cache have no valid callback.
-/

namespace SelfPlugins.Watson

open Json (Value)

variable {F Text Hash : Type}

namespace Conversation

/-- Where a response object of a call comes from. -/
inductive Origin where
  | cache
  | network
deriving DecidableEq

/-- An object is created, `m_Callback` is called with it (with null if it is
`none`), an object is deleted. -/
inductive Effect where
  | created (o : Origin)
  | called (valid : Bool) (o : Option Origin)
  | deleted (o : Origin)
deriving DecidableEq

/-! ## The constructor -/

/-- The constructor up to the callback: the input is hashed, completed, and
looked up in the cache. -/
def lookUp (f : Framework F Text Hash)
    (deserialize : Value → Option (Option (ConversationResponse F)))
    (a : MessageArgs) (stored : Option Text) :
    Option (Option (ConversationResponse F)) := do
  let input ← hashedInput a.context a.text a.intentOverrideTag
  let _body ← fullInput a.context input
  findResponse f deserialize
    (if a.useCache && a.cacheThere then stored else none) a.pick

/-- A `MessageReq` that has been constructed; `requested` tells whether the
constructor has come to its request. -/
structure Construction where
  effects : List Effect
  callback : Bool
  requested : Bool

def construct (f : Framework F Text Hash)
    (deserialize : Value → Option (Option (ConversationResponse F)))
    (a : MessageArgs) (stored : Option Text) : Construction :=
  match lookUp f deserialize a stored with
  | none => ⟨[], a.callback, false⟩
  | some none => ⟨[], a.callback, true⟩
  | some (some _) =>
      ⟨[.created .cache, .called a.callback (some .cache)], false, true⟩

/-! ## The response of the network -/

section Response

variable [DecidableEq Hash]

/-- `OnResponse`, for a request whose callback is valid or not. -/
def onResponseEffects (f : Framework F Text Hash) (c : Config)
    (useCache callback : Bool) (answer : Answer F) (stored : Option Text) :
    List Effect :=
  let object := answer.response.map fun _ => Origin.network
  (object.map .created).toList ++
    match cacheAnswer f c useCache answer stored with
    | none => []
    | some _ =>
        if callback then [.called true object]
        else (object.map .deleted).toList

/-- What becomes of a call: `stored` is what the cache holds when the call is
made, `stored'` when the network answers. -/
def messageEffects (f : Framework F Text Hash) (c : Config)
    (deserialize : Value → Option (Option (ConversationResponse F)))
    (a : MessageArgs) (answer : Answer F) (stored stored' : Option Text) :
    List Effect :=
  let m := construct f deserialize a stored
  m.effects ++
    if m.requested then
      onResponseEffects f c a.useCache m.callback answer stored'
    else []

end Response

/-! ## Filling the cache -/

/-- The lines of the file that `ConversationProxy::Start` asks for, with white
space removed at both ends. -/
def preCacheLines (lines : List String) : List String :=
  let blank := [' ', '\r', '\n', '\t']
  (lines.filter fun line => line ≠ "" ∧ line.toList.head? ≠ some '#').map
    fun line => String.ofList
      (((line.toList.dropWhile (· ∈ blank)).reverse.dropWhile
        (· ∈ blank)).reverse)

/-- The calls made by `Start`, without a valid callback.  `cacheThere` and
`pick` belong to the environment. -/
def preCacheCalls (p : ProxyData) (cacheThere : Bool) (pick : ℕ)
    (lines : List String) : List MessageArgs :=
  (preCacheLines lines).map fun line =>
    ⟨p.workspaceId, p.mergedContext, line, p.intentOverride, false, true,
      cacheThere, pick⟩

/-! ## Accounts -/

/-- Whether an effect is a call of the callback. -/
def Effect.isCall : Effect → Bool
  | .called _ _ => true
  | _ => false

/-- The callback is called exactly once if it is valid and never otherwise;
each object is created at most once, and handed to a valid callback or deleted
as often as it is created. -/
def Accounted (valid : Bool) (effects : List Effect) : Prop :=
  effects.countP Effect.isCall = (if valid then 1 else 0) ∧
  ∀ o, effects.count (.created o) ≤ 1 ∧
    effects.count (.called true (some o)) + effects.count (.deleted o) =
      effects.count (.created o)

instance (valid : Bool) (effects : List Effect) :
    Decidable (Accounted valid effects) :=
  decidable_of_iff
    (effects.countP Effect.isCall = (if valid then 1 else 0) ∧
      ∀ o ∈ [Origin.cache, Origin.network],
        effects.count (.created o) ≤ 1 ∧
        effects.count (.called true (some o)) + effects.count (.deleted o) =
          effects.count (.created o))
    (and_congr_right fun _ =>
      ⟨fun h o => h o (by cases o <;> decide), fun h o _ => h o⟩)

/-! ## When every object has an owner -/

section Accounts

variable [DecidableEq Hash]

/-- A response whose caching succeeds is handed on or deleted. -/
theorem onResponseEffects_eq {f : Framework F Text Hash} {c : Config}
    {useCache : Bool} {answer : Answer F} {stored : Option Text}
    (h : cacheAnswer f c useCache answer stored ≠ none) (callback : Bool) :
    onResponseEffects f c useCache callback answer stored =
      if answer.response.isSome then
        [.created .network, if callback then .called true (some .network)
          else .deleted .network]
      else if callback then [.called true none] else [] := by
  obtain ⟨items, hitems⟩ := Option.ne_none_iff_exists'.mp h
  rw [onResponseEffects, hitems]
  cases answer.response with
  | none => cases callback <;> rfl
  | some r => cases callback <;> rfl

/-- If caching throws, the response of the network is lost. -/
theorem onResponseEffects_of_none {f : Framework F Text Hash} {c : Config}
    {useCache : Bool} {answer : Answer F} {stored : Option Text}
    (h : cacheAnswer f c useCache answer stored = none) (callback : Bool) :
    onResponseEffects f c useCache callback answer stored =
      [.created .network] := by
  have hresponse : answer.response.isSome := by
    by_contra hnone
    rw [Option.not_isSome_iff_eq_none] at hnone
    rw [cacheAnswer, hnone] at h
    cases h
  obtain ⟨r, hr⟩ := Option.isSome_iff_exists.mp hresponse
  rw [onResponseEffects, h, hr]
  rfl

/-- The callback is called exactly once if it is valid and never otherwise,
and every response object has an owner, precisely if no access throws (an
access of the constructor may, without a valid callback), and the callback is
valid if the cache has a response. -/
theorem accounted_messageEffects_iff (f : Framework F Text Hash) (c : Config)
    (deserialize : Value → Option (Option (ConversationResponse F)))
    (a : MessageArgs) (answer : Answer F) (stored stored' : Option Text) :
    Accounted a.callback
        (messageEffects f c deserialize a answer stored stored') ↔
      (lookUp f deserialize a stored = none → a.callback = false) ∧
      (∀ r, lookUp f deserialize a stored = some (some r) →
        a.callback = true) ∧
      (lookUp f deserialize a stored ≠ none →
        cacheAnswer f c a.useCache answer stored' ≠ none) := by
  rw [messageEffects, construct]
  generalize a.callback = callback
  cases hlook : lookUp f deserialize a stored with
  | none => cases callback <;> simp <;> decide
  | some found =>
      by_cases hcache : cacheAnswer f c a.useCache answer stored' = none
      · simp only [onResponseEffects_of_none hcache, hcache]
        cases found <;> cases callback <;> simp <;> decide
      · simp only [onResponseEffects_eq hcache]
        generalize answer.response.isSome = answered
        cases found <;> cases callback <;> cases answered <;>
          simp [hcache] <;> decide

end Accounts

/-- A line of the file whose response has been cached before: the response
made from the cache is handed to no one. -/
theorem not_accounted_preCache :
    let p : ProxyData := ⟨"Self", "", .null, .null, true, "", false, false, []⟩
    let item := CacheItem.toJson (greetingItem "Hi! [cache]" 0)
    let deserialize := fun v =>
      (ConversationResponse.ofJson Framework.exact v).map some
    ∃ a ∈ preCacheCalls p true 0 ["# greetings", "hi\r"],
      ¬Accounted a.callback (messageEffects .exact ⟨"[cache]", 1⟩ deserialize a
        ⟨none, 0, true⟩ (some (.array [item])) (some (.array [item]))) := by
  refine ⟨_, List.mem_cons_self, ?_⟩
  decide

end Conversation

end SelfPlugins.Watson
