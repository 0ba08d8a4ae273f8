import Mathlib.Data.List.Nodup
import SelfPlugins.Wex.Agent

/-!
# The request queue of the WEX agent

For arbitrary arrivals and responses the agent has at most one unanswered
search, executes the intents in the order of their arrival, attributes each
response to the intent it was searched for, and gives no intent two final
states (`inOrder_and_attributed`).

It can get stuck, however: when the service is missing for an intent taken
from the queue, `ExecuteRequest` leaves the answered intent in `m_spActive`
and no response is left that would take the next one.  That is the only way
(`live_iff_served`).
-/

namespace SelfPlugins.Wex

open Runs
open Json (Value assign)

namespace WEXAgent

variable {makeJSON : String → Option (List (String × Value))}

/-- The intent a change gives a final state. -/
def finalOf : Effect → Option ℕ
  | .setState wex .completed => some wex.id
  | .setState wex .error => some wex.id
  | .setState _ .processing => none
  | .addChild _ _ => none

/-- The intents that were given a final state. -/
def finals (s : WEXAgent) : List ℕ := s.effects.filterMap finalOf

theorem filterMap_answer (wex : WEXIntent) (callback : String) :
    (answer makeJSON wex callback).filterMap finalOf = [wex.id] := by
  rw [answer]
  split
  · rfl
  · rfl

/-! ## The invariant -/

/-- What every step keeps.  The second disjunct of `outstanding` is the one in
which a response is awaited. -/
structure Ordered (s : WEXAgent) : Prop where
  numbered : s.arrived.map WEXIntent.id = List.range s.arrived.length
  order : s.executed ++ s.wexRequests = s.arrived
  outstanding : s.searches = [] ∨ ∃ wex ∈ s.executed,
    s.spActive = some wex ∧ s.searches = [searchOf wex] ∧ wex.id ∉ s.finals
  idle : s.spActive = none → s.wexRequests = []
  given : ∀ i ∈ s.finals, ∃ wex ∈ s.executed, wex.id = i
  once : s.finals.Nodup

/-- The state in which `ExecuteRequest` is called for an intent. -/
structure Ready (wex : WEXIntent) (s : WEXAgent) : Prop where
  numbered : s.arrived.map WEXIntent.id = List.range s.arrived.length
  order : s.executed ++ wex :: s.wexRequests = s.arrived
  outstanding : s.searches = []
  idle : s.spActive = none → s.wexRequests = []
  given : ∀ i ∈ s.finals, ∃ wex ∈ s.executed, wex.id = i
  once : s.finals.Nodup

theorem Ordered.new : Ordered new where
  numbered := rfl
  order := rfl
  outstanding := Or.inl rfl
  idle _ := rfl
  given := by simp [finals, WEXAgent.new]
  once := List.nodup_nil

/-- An intent has no final state before it is executed. -/
theorem Ready.fresh {wex : WEXIntent} {s : WEXAgent} (h : Ready wex s) :
    wex.id ∉ s.finals := by
  intro hfinal
  obtain ⟨earlier, hearlier, hid⟩ := h.given wex.id hfinal
  have hnodup : (s.arrived.map WEXIntent.id).Nodup := by
    rw [h.numbered]
    exact List.nodup_range
  rw [← h.order, List.map_append, List.map_cons, List.nodup_append] at hnodup
  have hmem : earlier.id ∈ s.executed.map WEXIntent.id :=
    List.mem_map_of_mem hearlier
  exact hnodup.2.2 _ hmem _ List.mem_cons_self hid

theorem Ready.executed {wex : WEXIntent} {s : WEXAgent}
    (h : Ready wex s) (service : Bool) :
    Ordered (executeRequest service wex s) := by
  have horder : s.executed ++ [wex] ++ s.wexRequests = s.arrived := by
    rw [← h.order]
    simp
  cases service with
  | true =>
      have hfinals : (executeRequest true wex s).finals = s.finals := by
        simp [executeRequest_true, finals, execution, finalOf]
      refine ⟨h.numbered, horder, Or.inr ⟨wex, ?_, rfl, ?_, ?_⟩, ?_, ?_, ?_⟩
      · exact List.mem_append_right _ (List.mem_singleton.mpr rfl)
      · simp [executeRequest_true, h.outstanding]
      · rw [hfinals]
        exact h.fresh
      · intro hnone
        cases hnone
      · intro i hi
        rw [hfinals] at hi
        obtain ⟨earlier, hearlier, hid⟩ := h.given i hi
        exact ⟨earlier, List.mem_append_left _ hearlier, hid⟩
      · rw [hfinals]
        exact h.once
  | false =>
      have hfinals : (executeRequest false wex s).finals =
          s.finals ++ [wex.id] := by
        simp [executeRequest_false, finals, execution, finalOf]
      refine ⟨h.numbered, horder, Or.inl h.outstanding, h.idle, ?_, ?_⟩
      · intro i hi
        rw [hfinals, List.mem_append, List.mem_singleton] at hi
        rcases hi with hi | rfl
        · obtain ⟨earlier, hearlier, hid⟩ := h.given i hi
          exact ⟨earlier, List.mem_append_left _ hearlier, hid⟩
        · refine ⟨wex, ?_, rfl⟩
          exact List.mem_append_right _ (List.mem_singleton.mpr rfl)
      · rw [hfinals, ← List.concat_eq_append]
        exact List.Nodup.concat h.fresh h.once

/-! ## Arrivals -/

/-- The state in which `OnWexIntent` is called. -/
def noted (s : WEXAgent) (wex : WEXIntent) : WEXAgent :=
  { s with arrived := s.arrived ++ [wex] }

theorem step_added {s t : WEXAgent} {thing : Option (String × String)}
    {service : Bool} (ht : step makeJSON s (.added thing service) = some t) :
    (s.arrival thing = none ∧ t = s) ∨
    (∃ wex, s.arrival thing = some wex ∧ s.spActive = none ∧
      t = executeRequest service wex (s.noted wex)) ∨
    (∃ wex active, s.arrival thing = some wex ∧ s.spActive = some active ∧
      t = { s.noted wex with wexRequests := s.wexRequests ++ [wex] }) := by
  rw [step, Option.some.injEq] at ht
  cases hwex : s.arrival thing with
  | none =>
      left
      refine ⟨rfl, ?_⟩
      rw [← ht, hwex]
      simp [onWexIntent]
  | some wex =>
      right
      rw [hwex] at ht
      cases hactive : s.spActive with
      | none =>
          left
          refine ⟨wex, rfl, rfl, ?_⟩
          simpa [onWexIntent, noted, hactive] using ht.symm
      | some active =>
          right
          refine ⟨wex, active, rfl, rfl, ?_⟩
          simpa [onWexIntent, noted, hactive] using ht.symm

theorem numbered_concat {s : WEXAgent} (h : Ordered s)
    {thing : Option (String × String)} {wex : WEXIntent}
    (hwex : s.arrival thing = some wex) :
    (s.arrived ++ [wex]).map WEXIntent.id =
      List.range (s.arrived ++ [wex]).length := by
  obtain ⟨p, -, rfl⟩ := Option.map_eq_some_iff.mp hwex
  simp [h.numbered, List.range_succ]

theorem Ordered.ready {s : WEXAgent} (h : Ordered s)
    {thing : Option (String × String)} {wex : WEXIntent}
    (hwex : s.arrival thing = some wex) (hactive : s.spActive = none) :
    Ready wex (s.noted wex) where
  numbered := numbered_concat h hwex
  order := by
    have horder := h.order
    simp only [h.idle hactive, List.append_nil] at horder
    simp [noted, h.idle hactive, horder]
  outstanding := by
    rcases h.outstanding with hnone | ⟨wex', -, hsome, -⟩
    · exact hnone
    · rw [hactive] at hsome
      cases hsome
  idle := h.idle
  given := h.given
  once := h.once

theorem Ordered.added {s t : WEXAgent} (h : Ordered s)
    {thing : Option (String × String)} {service : Bool}
    (ht : step makeJSON s (.added thing service) = some t) : Ordered t := by
  rcases step_added ht with
    ⟨-, rfl⟩ | ⟨wex, hwex, hactive, rfl⟩ | ⟨wex, active, hwex, hactive, rfl⟩
  · exact h
  · exact (h.ready hwex hactive).executed service
  · refine ⟨numbered_concat h hwex, ?_, h.outstanding, ?_, h.given, h.once⟩
    · simp [noted, ← h.order]
    · intro hnone
      simp [noted, hactive] at hnone

/-! ## Responses -/

/-- The state after the first half of `OnMessage`. -/
def answered (makeJSON : String → Option (List (String × Value)))
    (s : WEXAgent) (wex : WEXIntent) (callback : String) : WEXAgent :=
  { s with
    searches := []
    effects := s.effects ++ answer makeJSON wex callback }

/-- A response finds the active intent, the one it was searched for. -/
theorem Ordered.search {s : WEXAgent} (h : Ordered s) {n : ℕ} {q : Search}
    (hq : s.searches[n]? = some q) :
    n = 0 ∧ s.spActive = some q.intent ∧ s.searches = [searchOf q.intent] ∧
      q.intent ∈ s.executed ∧ q.intent.id ∉ s.finals := by
  rcases h.outstanding with hnone | ⟨wex, hwex, hactive, hone, hfresh⟩
  · simp [hnone] at hq
  · rw [hone, List.getElem?_singleton] at hq
    split at hq
    · rename_i hn
      cases hq
      exact ⟨hn, hactive, hone, hwex, hfresh⟩
    · cases hq

theorem Ordered.step_message {s : WEXAgent} (h : Ordered s) {n : ℕ}
    {q : Search} (hq : s.searches[n]? = some q) (callback : String)
    (service : Bool) :
    step makeJSON s (.message n callback service) =
      some (match s.wexRequests with
        | next :: rest => executeRequest service next
            { answered makeJSON s q.intent callback with wexRequests := rest }
        | [] => { answered makeJSON s q.intent callback with
            spActive := none }) := by
  obtain ⟨rfl, hactive, hone, -, -⟩ := h.search hq
  have hlt : 0 < s.searches.length := by simp [hone]
  have herase : s.searches.eraseIdx 0 = [] := by simp [hone]
  rw [step, if_pos hlt, herase]
  cases hrequests : s.wexRequests with
  | nil => simp [onMessage, hactive, hrequests, complete_eq, answered]
  | cons next rest =>
      simp [onMessage, hactive, hrequests, complete_eq, answered]

theorem step_message_search {s t : WEXAgent} {n : ℕ} {callback : String}
    {service : Bool}
    (ht : step makeJSON s (.message n callback service) = some t) :
    ∃ q, s.searches[n]? = some q := by
  rw [step] at ht
  split at ht
  · rename_i hn
    exact ⟨s.searches[n], List.getElem?_eq_getElem hn⟩
  · cases ht

theorem finals_answered (s : WEXAgent) (wex : WEXIntent) (callback : String) :
    (answered makeJSON s wex callback).finals = s.finals ++ [wex.id] := by
  simp only [finals, answered, List.filterMap_append, filterMap_answer]

theorem Ordered.given_answered {s : WEXAgent} (h : Ordered s) {wex : WEXIntent}
    (hwex : wex ∈ s.executed)
    (makeJSON : String → Option (List (String × Value))) (callback : String) :
    ∀ i ∈ (answered makeJSON s wex callback).finals,
      ∃ wex ∈ s.executed, wex.id = i := by
  intro i hi
  rw [finals_answered, List.mem_append, List.mem_singleton] at hi
  rcases hi with hi | rfl
  · exact h.given i hi
  · exact ⟨wex, hwex, rfl⟩

theorem Ordered.once_answered {s : WEXAgent} (h : Ordered s) {wex : WEXIntent}
    (hfresh : wex.id ∉ s.finals)
    (makeJSON : String → Option (List (String × Value))) (callback : String) :
    (answered makeJSON s wex callback).finals.Nodup := by
  rw [finals_answered, ← List.concat_eq_append]
  exact List.Nodup.concat hfresh h.once

theorem Ordered.message {s t : WEXAgent} (h : Ordered s) {n : ℕ}
    {callback : String} {service : Bool}
    (ht : step makeJSON s (.message n callback service) = some t) :
    Ordered t := by
  obtain ⟨q, hq⟩ := step_message_search ht
  obtain ⟨-, hactive, -, hwex, hfresh⟩ := h.search hq
  have hgiven := h.given_answered hwex makeJSON callback
  have honce := h.once_answered hfresh makeJSON callback
  rw [h.step_message hq, Option.some.injEq] at ht
  subst ht
  cases hrequests : s.wexRequests with
  | nil =>
      refine ⟨h.numbered, ?_, Or.inl rfl, ?_, hgiven, honce⟩
      · exact h.order
      · exact fun _ => hrequests
  | cons next rest =>
      apply Ready.executed
      refine ⟨h.numbered, ?_, rfl, ?_, hgiven, honce⟩
      · have horder := h.order
        rw [hrequests] at horder
        exact horder
      · intro hnone
        simp [answered, hactive] at hnone

theorem Ordered.next {s t : WEXAgent} (h : Ordered s) {e : Event}
    (ht : step makeJSON s e = some t) : Ordered t := by
  cases e with
  | added thing service => exact h.added ht
  | message n callback service => exact h.message ht

/-! ## Attribution and order -/

/-- At most one search is unanswered, and it is that of its intent; the
intents are executed in the order of their arrival, none is given two final
states, and every response of a search can be handled. -/
structure InOrder (makeJSON : String → Option (List (String × Value)))
    (s : WEXAgent) : Prop where
  atMostOne : s.searches.length ≤ 1
  own : ∀ q ∈ s.searches, q = searchOf q.intent
  order : s.executed ++ s.wexRequests = s.arrived
  once : s.finals.Nodup
  handled : ∀ n < s.searches.length, ∀ callback service,
    (step makeJSON s (.message n callback service)).isSome

/-- The changes a step makes: a response changes the intent of its search,
and then the first waiting intent is executed; an arriving intent is executed
if the agent is idle. -/
def Attributed (makeJSON : String → Option (List (String × Value)))
    (s : WEXAgent) : Event → Prop
  | .added thing service => ∀ t,
      step makeJSON s (.added thing service) = some t →
      t.effects = s.effects ++
        (if s.spActive = none then (s.arrival thing).toList else []).flatMap
          (execution service)
  | .message n callback service => ∀ t,
      step makeJSON s (.message n callback service) = some t →
      ∃ q, s.searches[n]? = some q ∧
        t.effects = s.effects ++ answer makeJSON q.intent callback ++
          s.wexRequests.head?.toList.flatMap (execution service)

theorem Ordered.inOrder {s : WEXAgent} (h : Ordered s) :
    InOrder makeJSON s := by
  refine ⟨?_, ?_, h.order, h.once, ?_⟩
  · rcases h.outstanding with hnone | ⟨wex, -, -, hone, -⟩
    · simp [hnone]
    · simp [hone]
  · intro q hq
    rcases h.outstanding with hnone | ⟨wex, -, -, hone, -⟩
    · simp [hnone] at hq
    · rw [hone, List.mem_singleton] at hq
      subst hq
      rfl
  · intro n hn callback service
    rw [h.step_message (List.getElem?_eq_getElem hn)]
    rfl

theorem Ordered.attributed_added {s : WEXAgent}
    (thing : Option (String × String)) (service : Bool) :
    Attributed makeJSON s (.added thing service) := by
  intro t ht
  rcases step_added ht with
    ⟨hwex, rfl⟩ | ⟨wex, hwex, hactive, rfl⟩ | ⟨wex, active, hwex, hactive, rfl⟩
  · simp [hwex]
  · rw [executeRequest_effects, hwex, if_pos hactive]
    simp [noted]
  · simp [noted, hactive]

theorem Ordered.attributed_message {s : WEXAgent} (h : Ordered s) (n : ℕ)
    (callback : String) (service : Bool) :
    Attributed makeJSON s (.message n callback service) := by
  intro t ht
  obtain ⟨q, hq⟩ := step_message_search ht
  refine ⟨q, hq, ?_⟩
  rw [h.step_message hq, Option.some.injEq] at ht
  subst ht
  cases s.wexRequests with
  | nil => simp [answered]
  | cons next rest => simp [executeRequest_effects, answered]

theorem Ordered.attributed {s : WEXAgent} (h : Ordered s) (e : Event) :
    Attributed makeJSON s e := by
  cases e with
  | added thing service => exact Ordered.attributed_added thing service
  | message n callback service =>
      exact h.attributed_message n callback service

/-- Whatever arrives and however it is answered, the agent works in order and
attributes every response to the intent it was searched for. -/
theorem inOrder_and_attributed
    (makeJSON : String → Option (List (String × Value))) (es : List Event) :
    Throughout (step makeJSON) (InOrder makeJSON) new es ∧
      EachStep (step makeJSON) (Attributed makeJSON) new es := by
  constructor
  · refine Throughout.mono (fun s => Ordered.inOrder) ?_
    exact throughout_of_eachStep (C := fun _ _ => True)
      (fun s e t h _ ht => h.next ht) Ordered.new (eachStep_true _ _)
  · exact eachStep_of_invariant (I := Ordered) (fun s e t h ht => h.next ht)
      (fun s e t h _ => h.attributed e) Ordered.new es

/-! ## Getting stuck -/

/-- The agent is busy iff it waits for a response; otherwise nothing waits in
its queue, and an arriving intent is executed at once. -/
structure Live (makeJSON : String → Option (List (String × Value)))
    (s : WEXAgent) : Prop where
  active_iff : s.spActive.isSome ↔ s.searches.length = 1
  drained : s.searches = [] → s.wexRequests = []
  atOnce : s.searches = [] → ∀ thing service wex,
    s.arrival thing = some wex →
    step makeJSON s (.added thing service) =
      some (executeRequest service wex (s.noted wex))

/-- The service is there when an intent is taken from the queue. -/
def Served (s : WEXAgent) : Event → Prop
  | .added _ _ => True
  | .message _ _ service => s.wexRequests ≠ [] → service = true

/-- The agent is idle, or waits for a response. -/
structure Working (s : WEXAgent) : Prop where
  ordered : Ordered s
  awaits : s.searches = [] → s.spActive = none

theorem Working.live {s : WEXAgent} (h : Working s) : Live makeJSON s := by
  refine ⟨?_, ?_, ?_⟩
  · rcases h.ordered.outstanding with hnone | ⟨wex, -, hactive, hone, -⟩
    · simp [hnone, h.awaits hnone]
    · simp [hactive, hone]
  · intro hnone
    exact h.ordered.idle (h.awaits hnone)
  · intro hnone thing service wex hwex
    simp [step, hwex, onWexIntent, h.awaits hnone, noted]

theorem executeRequest_awaits {service : Bool} {wex : WEXIntent}
    {s : WEXAgent} (hservice : service = false → s.spActive = none) :
    (executeRequest service wex s).searches = [] →
      (executeRequest service wex s).spActive = none := by
  cases service with
  | true => simp [executeRequest_true]
  | false =>
      intro _
      exact hservice rfl

theorem Working.next {s t : WEXAgent} (h : Working s) {e : Event}
    (hserved : Served s e) (ht : step makeJSON s e = some t) :
    Working t := by
  refine ⟨h.ordered.next ht, ?_⟩
  cases e with
  | added thing service =>
      rcases step_added ht with ⟨-, rfl⟩ | ⟨wex, -, hactive, rfl⟩ |
        ⟨wex, active, -, -, rfl⟩
      · exact h.awaits
      · exact executeRequest_awaits fun _ => hactive
      · exact h.awaits
  | message n callback service =>
      obtain ⟨q, hq⟩ := step_message_search ht
      rw [h.ordered.step_message hq, Option.some.injEq] at ht
      subst ht
      cases hrequests : s.wexRequests with
      | nil => exact fun _ => rfl
      | cons next rest =>
          apply executeRequest_awaits
          intro hservice
          have htrue : service = true := hserved (by simp [hrequests])
          rw [hservice] at htrue
          cases htrue

/-- Taking an intent from the queue without the service leaves the answered
intent active. -/
theorem Working.not_live {s t : WEXAgent} (h : Working s) {e : Event}
    (hserved : ¬Served s e) (ht : step makeJSON s e = some t) :
    ¬Live makeJSON t := by
  intro hlive
  cases e with
  | added thing service => exact hserved trivial
  | message n callback service =>
      simp only [Served, Classical.not_imp, Bool.not_eq_true] at hserved
      obtain ⟨hrequests, rfl⟩ := hserved
      obtain ⟨q, hq⟩ := step_message_search ht
      obtain ⟨-, hactive, -, -, -⟩ := h.ordered.search hq
      rw [h.ordered.step_message hq, Option.some.injEq] at ht
      subst ht
      cases hcases : s.wexRequests with
      | nil => exact hrequests hcases
      | cons next rest =>
          have hiff := hlive.active_iff
          rw [hcases] at hiff
          simp [executeRequest_false, answered, hactive] at hiff

theorem Working.throughout_iff {s : WEXAgent} (h : Working s)
    (es : List Event) :
    Throughout (step makeJSON) (Live makeJSON) s es ↔
      EachStep (step makeJSON) Served s es :=
  throughout_iff_eachStep (L := fun _ _ => True)
    (fun _ hworking => hworking.live)
    (fun _ _ _ hworking _ hserved ht => hworking.next hserved ht)
    (fun _ _ _ hworking _ hserved ht => hworking.not_live hserved ht)
    h (eachStep_true _ _)

theorem Working.new : Working new := ⟨Ordered.new, fun _ => rfl⟩

/-- The agent stays live throughout a run precisely when the service is there
each time an intent is taken from the queue. -/
theorem live_iff_served
    (makeJSON : String → Option (List (String × Value))) (es : List Event) :
    Throughout (step makeJSON) (Live makeJSON) new es ↔
      EachStep (step makeJSON) Served new es :=
  Working.new.throughout_iff es

/-- Of two intents the second is taken from the queue when the service has
gone. -/
theorem not_live_service_gone :
    ¬Throughout (step fun _ => none) (Live fun _ => none) new
      [.added (some ("what is a robot", "robots")) true,
        .added (some ("what is a plugin", "robots")) true,
        .message 0 "" false] := by
  intro h
  have h₀ := Working.new.throughout_iff _ |>.mp h
  have h₁ := (h₀ _ rfl).2
  have h₂ := (h₁ _ rfl).2
  exact absurd ((h₂ _ rfl).1 (List.cons_ne_nil _ _)) Bool.false_ne_true

end WEXAgent

end SelfPlugins.Wex
