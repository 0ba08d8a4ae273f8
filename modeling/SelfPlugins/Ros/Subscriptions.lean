import SelfPlugins.Library.Runs
import SelfPlugins.Ros.Platform

/-!
# The subscription store of the ROS platform

The purpose of `Subscribe` and `Unsubscribe` is stated first, as a relation
between multisets of subscriptions: a subscription adds one element, and an
unsubscription removes one element of the path whose handler belongs to the
object, or reports that there is none.  `Conforms` says that a sequence of
calls behaves this way.

The loop of `Unsubscribe` runs while the iterator is at the end of the map.
It therefore reads through the end when the path is absent and never looks at
an entry when the path is present (`unsubscribe_eq`).
-/

namespace SelfPlugins.Ros

open Runs

/-! ## The purpose of the store -/

inductive Call where
  | subscribe (path message : String) (callback : MessageHandler)
  | unsubscribe (path : String) (object : ObjectId)
deriving DecidableEq, Repr

/-- One call of the store: the subscriptions before, the call, its result, the
messages it sends, and the subscriptions after. -/
inductive StoreStep : Multiset Subscription → Call → Bool → List Message →
    Multiset Subscription → Prop where
  | subscribe (m : Multiset Subscription) (path message : String)
      (callback : MessageHandler) (id : UniqueId) :
      StoreStep m (.subscribe path message callback) true
        [.subscribe id message path "none" 0] (⟨callback, path, id⟩ ::ₘ m)
  | removed (m : Multiset Subscription) (path : String) (object : ObjectId)
      (sub : Subscription) (hmem : sub ∈ m) (hpath : sub.topicId = path)
      (hobject : sub.handler.isObject object = true) :
      StoreStep m (.unsubscribe path object) true
        [.unsubscribe sub.subId sub.topicId] (m.erase sub)
  | absent (m : Multiset Subscription) (path : String) (object : ObjectId)
      (hnone : ∀ sub ∈ m, sub.topicId = path →
        sub.handler.isObject object = false) :
      StoreStep m (.unsubscribe path object) false [] m

namespace RosPlatform

def call (s : RosPlatform) : Call → Option (Bool × RosPlatform)
  | .subscribe path message callback =>
      some (s.subscribe path message callback)
  | .unsubscribe path object => s.unsubscribe path object

/-- The calls are all defined, and each result, the messages it sends on the
web client and its effect on the map are a step of the store. -/
def Conforms (s : RosPlatform) : List Call → Prop
  | [] => True
  | c :: cs => ∃ reply t, s.call c = some (reply, t) ∧
      (∃ msgs, t.sent = s.sent ++ msgs.map (fun m => (s.webClient, m)) ∧
        StoreStep s.subscriptionMap.values c reply msgs
          t.subscriptionMap.values) ∧
      t.Conforms cs

/-! ## What the code does -/

/-- `Unsubscribe` is undefined for an absent path and has no effect for a
present one. -/
theorem unsubscribe_eq (s : RosPlatform) (path : String) (object : ObjectId) :
    s.unsubscribe path object =
      if s.subscriptionMap.find path = s.subscriptionMap.finish then none
      else some (false, s) := by
  rw [unsubscribe, findSubscription]
  by_cases hend : s.subscriptionMap.find path = s.subscriptionMap.finish
  · rw [dif_pos hend, if_pos hend, hend, MultiMap.deref_finish]
    rfl
  · rw [dif_neg hend, if_neg hend]
    rfl

@[simp] theorem subscribe_subscriptionMap (s : RosPlatform)
    (path message : String) (callback : MessageHandler) :
    (s.subscribe path message callback).2.subscriptionMap =
      s.subscriptionMap.insert path ⟨callback, path, s.uniqueIds⟩ := rfl

theorem conforms_subscribe_iff (s : RosPlatform) (path message : String)
    (callback : MessageHandler) (cs : List Call) :
    s.Conforms (.subscribe path message callback :: cs) ↔
      (s.subscribe path message callback).2.Conforms cs := by
  constructor
  · rintro ⟨reply, t, ht, -, hcs⟩
    cases ht
    exact hcs
  · intro hcs
    refine ⟨true, (s.subscribe path message callback).2, rfl,
      ⟨[.subscribe s.uniqueIds message path "none" 0], rfl, ?_⟩, hcs⟩
    rw [subscribe_subscriptionMap, MultiMap.values_insert]
    exact StoreStep.subscribe _ path message callback s.uniqueIds

theorem conforms_unsubscribe_iff (s : RosPlatform) (path : String)
    (object : ObjectId) (cs : List Call) :
    s.Conforms (.unsubscribe path object :: cs) ↔
      ((∃ e ∈ s.subscriptionMap.entries, e.1 = path) ∧
        ∀ sub ∈ s.subscriptionMap.values, sub.topicId = path →
          sub.handler.isObject object = false) ∧
      s.Conforms cs := by
  have hfind : s.subscriptionMap.find path = s.subscriptionMap.finish ↔
      ¬∃ e ∈ s.subscriptionMap.entries, e.1 = path := by
    rw [MultiMap.find_eq_finish_iff]
    push Not
    rfl
  constructor
  · rintro ⟨reply, t, ht, ⟨msgs, -, hstep⟩, hcs⟩
    rw [call, unsubscribe_eq] at ht
    split at ht
    · contradiction
    · rename_i hend
      cases ht
      cases hstep with
      | absent _ _ hnone =>
          exact ⟨⟨not_not.mp fun h => hend (hfind.mpr h), hnone⟩, hcs⟩
  · rintro ⟨⟨hpath, hnone⟩, hcs⟩
    refine ⟨false, s, ?_, ⟨[], by simp, ?_⟩, hcs⟩
    · rw [call, unsubscribe_eq, if_neg fun hend => hfind.mp hend hpath]
    · exact StoreStep.absent _ path object hnone

/-! ## Which calls are served -/

/-- A call is served as long as it has nothing to remove and does not miss
its path: each unsubscription comes after a subscription to its path, and
after none to its path with a handler of its object. -/
def Served (past : List Call) : Call → Prop
  | .subscribe _ _ _ => True
  | .unsubscribe path object =>
      (∃ message callback, Call.subscribe path message callback ∈ past) ∧
        ∀ message callback, Call.subscribe path message callback ∈ past →
          callback.isObject object = false

/-- The map holds the handlers of the past subscriptions, each under its own
path. -/
structure HoldsPast (past : List Call) (s : RosPlatform) : Prop where
  key : ∀ e ∈ s.subscriptionMap.entries, e.2.topicId = e.1
  mem : ∀ path callback,
    (∃ e ∈ s.subscriptionMap.entries,
        e.1 = path ∧ e.2.handler = callback) ↔
      ∃ message, Call.subscribe path message callback ∈ past

theorem HoldsPast.new (url : String) (o : SendOutcome) :
    HoldsPast [] (new url o) := by
  have hmap : (RosPlatform.new url o).subscriptionMap = MultiMap.empty := by
    rcases connectToRobot_cases o (blank url) with ⟨-, h⟩ | ⟨-, h, -⟩
    · exact congrArg subscriptionMap h
    · exact h.subscriptionMap
  constructor
  · simp [hmap, MultiMap.empty]
  · simp [hmap, MultiMap.empty]

theorem HoldsPast.subscribe {past : List Call} {s : RosPlatform}
    (h : HoldsPast past s) (path message : String)
    (callback : MessageHandler) :
    HoldsPast (past ++ [.subscribe path message callback])
      (s.subscribe path message callback).2 := by
  constructor
  · intro e he
    rw [subscribe_subscriptionMap, MultiMap.mem_entries_insert] at he
    rcases he with rfl | he
    · rfl
    · exact h.key e he
  · intro path' callback'
    simp only [subscribe_subscriptionMap, MultiMap.mem_entries_insert,
      List.mem_append, List.mem_singleton, Call.subscribe.injEq]
    constructor
    · rintro ⟨e, rfl | he, rfl, rfl⟩
      · exact ⟨message, Or.inr ⟨rfl, rfl, rfl⟩⟩
      · obtain ⟨message', hm⟩ := (h.mem _ _).mp ⟨e, he, rfl, rfl⟩
        exact ⟨message', Or.inl hm⟩
    · rintro ⟨message', hm | ⟨rfl, rfl, rfl⟩⟩
      · obtain ⟨e, he, hpath, hcallback⟩ := (h.mem _ _).mpr ⟨message', hm⟩
        exact ⟨e, Or.inr he, hpath, hcallback⟩
      · exact ⟨_, Or.inl rfl, rfl, rfl⟩

theorem HoldsPast.unsubscribe {past : List Call} {s : RosPlatform}
    (h : HoldsPast past s) (path : String) (object : ObjectId) :
    HoldsPast (past ++ [.unsubscribe path object]) s := by
  refine ⟨h.key, fun path' callback' => ?_⟩
  simpa using h.mem path' callback'

theorem HoldsPast.served_iff {past : List Call} {s : RosPlatform}
    (h : HoldsPast past s) (path : String) (object : ObjectId) :
    Served past (.unsubscribe path object) ↔
      (∃ e ∈ s.subscriptionMap.entries, e.1 = path) ∧
        ∀ sub ∈ s.subscriptionMap.values, sub.topicId = path →
          sub.handler.isObject object = false := by
  constructor
  · rintro ⟨⟨message, callback, hm⟩, hnone⟩
    obtain ⟨e, he, hpath, -⟩ := (h.mem _ _).mpr ⟨message, hm⟩
    refine ⟨⟨e, he, hpath⟩, ?_⟩
    intro sub hsub htopic
    obtain ⟨k, hk⟩ := MultiMap.mem_values.mp hsub
    have hkpath : k = path := (h.key _ hk).symm.trans htopic
    obtain ⟨message', hm'⟩ := (h.mem _ _).mp ⟨(k, sub), hk, hkpath, rfl⟩
    exact hnone message' sub.handler hm'
  · rintro ⟨⟨e, he, hpath⟩, hnone⟩
    constructor
    · obtain ⟨message, hm⟩ := (h.mem _ _).mp ⟨e, he, hpath, rfl⟩
      exact ⟨message, e.2.handler, hm⟩
    · intro message callback hm
      obtain ⟨e', he', hpath', rfl⟩ := (h.mem _ _).mpr ⟨message, hm⟩
      refine hnone e'.2 (MultiMap.mem_values.mpr ⟨e'.1, he'⟩) ?_
      exact (h.key e' he').trans hpath'

theorem conforms_iff_of_holdsPast {past : List Call} {s : RosPlatform}
    (h : HoldsPast past s) (calls : List Call) :
    s.Conforms calls ↔ EachInput Served past calls := by
  induction calls generalizing past s with
  | nil => exact Iff.rfl
  | cons c cs ih =>
      cases c with
      | subscribe path message callback =>
          rw [conforms_subscribe_iff, ih (h.subscribe path message callback)]
          exact ⟨fun hcs => ⟨trivial, hcs⟩, fun hcs => hcs.2⟩
      | unsubscribe path object =>
          rw [conforms_unsubscribe_iff, ih (h.unsubscribe path object),
            ← h.served_iff path object]
          exact Iff.rfl

/-- The calls on a new platform are those of a subscription store precisely
when no unsubscription has something to remove or misses its path. -/
theorem conforms_iff_served (url : String) (o : SendOutcome)
    (calls : List Call) :
    (new url o).Conforms calls ↔ EachInput Served [] calls :=
  conforms_iff_of_holdsPast (HoldsPast.new url o) calls

/-- The calls of one joint movement: its handler is not removed, and an
unsubscription without a subscription reads through the end of the map. -/
theorem not_conforms_goal_status :
    let s := new "ws://192.168.1.89:9090" ⟨[], true, .connecting⟩
    let path := "/goal_status"
    let sub := Call.subscribe path "actionlib_msgs/GoalStatusArray"
      ⟨1, "OnGoalStatus"⟩
    ¬s.Conforms [sub, .unsubscribe path 1] ∧
      ¬s.Conforms [.unsubscribe path 1] := by
  intro s path sub
  constructor
  · intro h
    rw [conforms_iff_of_holdsPast (HoldsPast.new _ _)] at h
    exact absurd (h.2.1.2 _ _ (List.mem_singleton.mpr rfl)) (by decide)
  · intro h
    rw [conforms_iff_of_holdsPast (HoldsPast.new _ _)] at h
    obtain ⟨message, callback, hm⟩ := h.1.1
    exact absurd hm (List.not_mem_nil)

/-! ## Dispatching frames -/

/-- A received message is handed to the handlers of precisely the stored
subscriptions of its topic, in the order of the map. -/
theorem dispatch_eq_filter (s : RosPlatform) (topic : String) :
    s.dispatch topic =
      (s.subscriptionMap.entries.filter fun e => e.1 = topic).map
        fun e => e.2.handler := by
  rw [dispatch, MultiMap.range_find]

end RosPlatform

end SelfPlugins.Ros
