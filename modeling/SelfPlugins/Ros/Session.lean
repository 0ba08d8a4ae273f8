import SelfPlugins.Ros.Subscriptions

/-!
# The rosbridge session of the ROS platform

A rosbridge server forgets advertisements and subscriptions when a socket is
closed, so each web client needs its own: `SessionKept` says that every
publication was preceded by an advertisement on the same client and that, once
the current client is connected, every stored subscription was sent on it.

The platform keeps `m_Advertisements` and `m_SubscriptionMap` when it replaces
the client and sends nothing of them on the new one.  `Session` adds to the
platform what was there when the current client was created; the property
holds throughout a run precisely when nothing of it is used afterwards
(`sessionKept_iff_careful`).
-/

namespace SelfPlugins.Ros

open Runs
open Json (Value)

namespace RosPlatform

/-- A publication follows an advertisement of its topic on the same client. -/
def Advertised (past : List (ClientId × Message)) :
    ClientId × Message → Prop
  | (k, .publish _ topic _) =>
      ∃ id type, (k, Message.advertise id type topic) ∈ past
  | _ => True

/-- The session of each client is complete as far as it has been used. -/
structure SessionKept (s : RosPlatform) : Prop where
  advertised : EachInput Advertised [] s.sent
  subscribed : s.getState s.webClient = .connected →
    ∀ sub ∈ s.subscriptionMap.values, ∃ type,
      (s.webClient, Message.subscribe sub.subId type sub.topicId "none" 0) ∈
        s.sent

end RosPlatform

open RosPlatform

/-- The platform with what it held when the current client was created: the
advertised topics, and the number of subscriptions made. -/
structure Session where
  platform : RosPlatform
  heldTopics : List String
  drawn : ℕ

namespace Session

/-- The next platform; a new client finds what the platform holds. -/
def next (p : Session) (t : RosPlatform) : Session :=
  if t.webClient = p.platform.webClient then { p with platform := t }
  else
    { platform := t
      heldTopics := p.platform.advertisements
      drawn := p.platform.uniqueIds }

def step (p : Session) (e : Event) : Option Session :=
  (p.platform.step e).map p.next

def new (url : String) (o : SendOutcome) : Session :=
  ⟨RosPlatform.new url o, [], 0⟩

theorem map_step (p : Session) (e : Event) :
    (p.step e).map platform = p.platform.step e := by
  rw [step, Option.map_map]
  have hnext : platform ∘ p.next = id := by
    funext t
    simp only [Function.comp_apply, next, id]
    split <;> rfl
  rw [hnext, Option.map_id, id]

/-- Nothing that was held when the current client was created is used on it:
no held topic is published, and the client does not get connected while a held
subscription is stored. -/
def Careful (p : Session) : Event → Prop
  | .timer o =>
      p.platform.active = false → o.after = .connected →
        p.platform.subscriptionMap.values = 0
  | .clientState k st =>
      k = p.platform.webClient → st = .connected →
        ∀ sub ∈ p.platform.subscriptionMap.values, p.drawn ≤ sub.subId
  | .publish topicId _ _ => topicId ∉ p.heldTopics
  | .subscribe _ _ _ => True
  | .unsubscribe _ _ => True

/-- What careful steps keep: the topics of the list are held or advertised on
the current client, but not both, and likewise for the subscriptions. -/
structure Kept (p : Session) : Prop where
  current : p.platform.webClient < p.platform.clients.length
  created : ∀ m ∈ p.platform.sent, m.1 < p.platform.clients.length
  held : ∀ t ∈ p.heldTopics, t ∈ p.platform.advertisements ∧
    ∀ id type,
      (p.platform.webClient, Message.advertise id type t) ∉ p.platform.sent
  fresh : ∀ t ∈ p.platform.advertisements, t ∉ p.heldTopics →
    ∃ id type,
      (p.platform.webClient, Message.advertise id type t) ∈ p.platform.sent
  advertised : EachInput Advertised [] p.platform.sent
  drawn : ∀ id type topic compression rate,
    (p.platform.webClient,
        Message.subscribe id type topic compression rate) ∈ p.platform.sent →
      p.drawn ≤ id
  older : p.drawn ≤ p.platform.uniqueIds
  subscribed : ∀ sub ∈ p.platform.subscriptionMap.values,
    p.drawn ≤ sub.subId → ∃ type,
      (p.platform.webClient,
        Message.subscribe sub.subId type sub.topicId "none" 0) ∈
        p.platform.sent
  bounded : ∀ sub ∈ p.platform.subscriptionMap.values,
    sub.subId < p.platform.uniqueIds
  connected : p.platform.getState p.platform.webClient = .connected →
    ∀ sub ∈ p.platform.subscriptionMap.values, p.drawn ≤ sub.subId

theorem Kept.sessionKept {p : Session} (h : p.Kept) :
    p.platform.SessionKept where
  advertised := h.advertised
  subscribed hstate sub hsub :=
    h.subscribed sub hsub (h.connected hstate sub hsub)

/-! ## Replacing the client -/

theorem step_timer_of_active {p : Session} (hactive : p.platform.active = true)
    (o : SendOutcome) : p.step (.timer o) = some p := by
  rcases connectToRobot_cases o p.platform with ⟨-, h⟩ | ⟨h, -⟩
  · simp [step, RosPlatform.step, h, next]
  · simp [hactive] at h

/-- A new client starts with an empty log and holds all there is. -/
theorem Kept.timer {p : Session} (h : p.Kept) {o : SendOutcome}
    (hcareful : p.Careful (.timer o)) {q : Session}
    (hq : p.step (.timer o) = some q) : q.Kept := by
  rcases connectToRobot_cases o p.platform with
    ⟨hactive, -⟩ | ⟨hactive, hsame, hclient, hlength, hstate⟩
  · rw [step_timer_of_active hactive] at hq
    cases hq
    exact h
  · have hne : (p.platform.connectToRobot o).webClient ≠
        p.platform.webClient := by
      rw [hclient]
      exact Nat.ne_of_gt h.current
    simp only [step, RosPlatform.step, Option.map_some, next, if_neg hne,
      Option.some.injEq] at hq
    subst hq
    have hnew : ∀ m, (p.platform.clients.length, m) ∉ p.platform.sent := by
      intro m hm
      exact Nat.lt_irrefl _ (h.created _ hm)
    refine ⟨?_, ?_, ?_, ?_, ?_, ?_, ?_, ?_, ?_, ?_⟩
    · simp only [hclient, hlength]
      exact Nat.lt_succ_self _
    · intro m hm
      simp only [hsame.sent, hlength] at hm ⊢
      exact Nat.lt_succ_of_lt (h.created m hm)
    · intro t ht
      simp only [hsame.advertisements, hsame.sent, hclient]
      exact ⟨ht, fun id type => hnew _⟩
    · intro t ht hheld
      simp only [hsame.advertisements] at ht
      exact absurd ht hheld
    · simp only [hsame.sent]
      exact h.advertised
    · intro id type topic compression rate hm
      simp only [hsame.sent, hclient] at hm
      exact absurd hm (hnew _)
    · simp only [hsame.uniqueIds]
      exact Nat.le_refl _
    · intro sub hsub hdrawn
      simp only [hsame.subscriptionMap] at hsub
      exact absurd (h.bounded sub hsub) (Nat.not_lt.mpr hdrawn)
    · intro sub hsub
      simp only [hsame.subscriptionMap, hsame.uniqueIds] at hsub ⊢
      exact h.bounded sub hsub
    · intro hconnected sub hsub
      simp only [hsame.subscriptionMap, hclient, hstate] at hsub hconnected
      rw [hcareful hactive hconnected] at hsub
      exact absurd hsub (Multiset.notMem_zero sub)

/-- A client that comes back connected finds none of the stored subscriptions
in its log. -/
theorem Kept.not_sessionKept_timer {p : Session} (h : p.Kept)
    {o : SendOutcome} (hcareless : ¬p.Careful (.timer o)) {q : Session}
    (hq : p.step (.timer o) = some q) : ¬q.platform.SessionKept := by
  intro hkept
  simp only [Careful, Classical.not_imp] at hcareless
  obtain ⟨hactive, hafter, hvalues⟩ := hcareless
  rcases connectToRobot_cases o p.platform with
    ⟨htrue, -⟩ | ⟨-, hsame, hclient, -, hstate⟩
  · simp [hactive] at htrue
  · obtain ⟨t, ht, rfl⟩ := Option.map_eq_some_iff.mp hq
    have hplatform : (p.next t).platform = p.platform.connectToRobot o := by
      cases ht
      rw [next]
      split <;> rfl
    obtain ⟨sub, hsub⟩ := Multiset.exists_mem_of_ne_zero hvalues
    have hsubscribed := hkept.subscribed
    rw [hplatform, hclient, hstate, hsame.subscriptionMap, hsame.sent]
      at hsubscribed
    obtain ⟨type, hm⟩ := hsubscribed hafter sub hsub
    exact Nat.lt_irrefl _ (h.created _ hm)

/-! ## Reported states -/

theorem step_clientState {p q : Session} {k : ClientId} {st : ClientState}
    (hq : p.step (.clientState k st) = some q) :
    k < p.platform.clients.length ∧
      q = { p with platform := p.platform.notify k st } := by
  simp only [step, RosPlatform.step] at hq
  split at hq
  · rename_i hk
    simp only [Option.map_some, next, (notify_spec k st p.platform).2.1,
      if_true, Option.some.injEq] at hq
    exact ⟨hk, hq.symm⟩
  · contradiction

theorem Kept.clientState {p : Session} (h : p.Kept) {k : ClientId}
    {st : ClientState} (hcareful : p.Careful (.clientState k st)) {q : Session}
    (hq : p.step (.clientState k st) = some q) : q.Kept := by
  obtain ⟨hk, rfl⟩ := step_clientState hq
  obtain ⟨hsame, hclient, hlength⟩ := notify_spec k st p.platform
  refine ⟨?_, ?_, ?_, ?_, ?_, ?_, ?_, ?_, ?_, ?_⟩
  · simpa only [hclient, hlength] using h.current
  · simpa only [hsame.sent, hlength] using h.created
  · simpa only [hsame.advertisements, hsame.sent, hclient] using h.held
  · simpa only [hsame.advertisements, hsame.sent, hclient] using h.fresh
  · simpa only [hsame.sent] using h.advertised
  · simpa only [hsame.sent, hclient] using h.drawn
  · simpa only [hsame.uniqueIds] using h.older
  · simpa only [hsame.subscriptionMap, hsame.sent, hclient] using h.subscribed
  · simpa only [hsame.subscriptionMap, hsame.uniqueIds] using h.bounded
  · intro hconnected sub hsub
    simp only [hsame.subscriptionMap] at hsub
    simp only [hclient, getState_notify hk] at hconnected
    split at hconnected
    · rename_i hcurrent
      exact hcareful hcurrent hconnected sub hsub
    · exact h.connected hconnected sub hsub

theorem Kept.not_sessionKept_clientState {p : Session} (h : p.Kept)
    {k : ClientId} {st : ClientState}
    (hcareless : ¬p.Careful (.clientState k st)) {q : Session}
    (hq : p.step (.clientState k st) = some q) : ¬q.platform.SessionKept := by
  intro hkept
  simp only [Careful, Classical.not_imp, not_forall] at hcareless
  obtain ⟨rfl, rfl, sub, hsub, hheld⟩ := hcareless
  obtain ⟨hk, rfl⟩ := step_clientState hq
  obtain ⟨hsame, hclient, -⟩ :=
    notify_spec p.platform.webClient .connected p.platform
  have hsubscribed := hkept.subscribed
  simp only [hclient, getState_notify hk, if_true, hsame.subscriptionMap,
    hsame.sent] at hsubscribed
  obtain ⟨type, hm⟩ := hsubscribed trivial sub hsub
  exact hheld (h.drawn _ _ _ _ _ hm)

/-! ## Calls -/

theorem step_publish {p q : Session} {topicId message : String} {data : Value}
    (hq : p.step (.publish topicId message data) = some q) :
    q = { p with platform := (p.platform.publish topicId message data).2 } := by
  have hclient : (p.platform.publish topicId message data).2.webClient =
      p.platform.webClient := (advertise_frame topicId message p.platform).1
  simp only [step, RosPlatform.step, Option.map_some, next, hclient, if_true,
    Option.some.injEq] at hq
  exact hq.symm

/-- Sending one message on the current client. -/
theorem Kept.sendText {p : Session} (h : p.Kept) {m : Message}
    (hpublish : Advertised p.platform.sent (p.platform.webClient, m))
    (hadvertise : ∀ id type topic, m = .advertise id type topic →
      topic ∉ p.heldTopics)
    (hsubscribe : ∀ id type topic compression rate,
      m = .subscribe id type topic compression rate → p.drawn ≤ id) :
    Kept { p with platform := p.platform.sendText m } where
  current := h.current
  created := by
    intro l hl
    rcases List.mem_append.mp hl with hl | hl
    · exact h.created l hl
    · rw [List.mem_singleton.mp hl]
      exact h.current
  held := by
    intro t ht
    refine ⟨(h.held t ht).1, fun id type hm => ?_⟩
    rcases List.mem_append.mp hm with hm | hm
    · exact (h.held t ht).2 id type hm
    · simp only [List.mem_singleton, Prod.mk.injEq] at hm
      exact hadvertise id type t hm.2.symm ht
  fresh := by
    intro t ht hheld
    obtain ⟨id, type, hm⟩ := h.fresh t ht hheld
    exact ⟨id, type, List.mem_append_left _ hm⟩
  advertised := (eachInput_concat _ _).mpr ⟨h.advertised, hpublish⟩
  drawn := by
    intro id type topic compression rate hm
    rcases List.mem_append.mp hm with hm | hm
    · exact h.drawn _ _ _ _ _ hm
    · simp only [List.mem_singleton, Prod.mk.injEq] at hm
      exact hsubscribe _ _ _ _ _ hm.2.symm
  older := h.older
  subscribed := by
    intro sub hsub hdrawn
    obtain ⟨type, hm⟩ := h.subscribed sub hsub hdrawn
    exact ⟨type, List.mem_append_left _ hm⟩
  bounded := h.bounded
  connected := h.connected

/-- Noting a topic that has been advertised on the current client. -/
theorem Kept.noteTopic {p : Session} (h : p.Kept) {topicId : String}
    (hsent : ∃ id type, (p.platform.webClient,
      Message.advertise id type topicId) ∈ p.platform.sent)
    (counter : ℕ) (idMap : List String) :
    Kept { p with platform := { p.platform with
      counter := counter
      idMap := idMap
      advertisements := p.platform.advertisements ++ [topicId] } } where
  current := h.current
  created := h.created
  held := fun t ht => ⟨List.mem_append_left _ (h.held t ht).1, (h.held t ht).2⟩
  fresh := by
    intro t ht hheld
    rcases List.mem_append.mp ht with ht | ht
    · exact h.fresh t ht hheld
    · rw [List.mem_singleton.mp ht]
      exact hsent
  advertised := h.advertised
  drawn := h.drawn
  older := h.older
  subscribed := h.subscribed
  bounded := h.bounded
  connected := h.connected

theorem Kept.advertise {p : Session} (h : p.Kept) {topicId : String}
    (hcareful : topicId ∉ p.heldTopics) (message : String) :
    Kept { p with platform := p.platform.advertise topicId message } ∧
      ∃ id type, (p.platform.webClient, Message.advertise id type topicId) ∈
        (p.platform.advertise topicId message).sent := by
  by_cases hmem : topicId ∈ p.platform.advertisements
  · rw [advertise_of_mem hmem]
    exact ⟨h, h.fresh topicId hmem hcareful⟩
  · obtain ⟨id, hsent⟩ := (advertise_of_not_mem hmem message).1
    refine ⟨?_, id, message, by simp [hsent]⟩
    rw [RosPlatform.advertise, if_neg hmem]
    refine (h.sendText (m := .advertise _ message topicId) trivial ?_ ?_).noteTopic
      ⟨_, message, List.mem_append_right _ (List.mem_singleton.mpr rfl)⟩ _ _
    · rintro id' type topic hm
      cases hm
      exact hcareful
    · intro _ _ _ _ _ hm
      cases hm

theorem Kept.publish {p : Session} (h : p.Kept) {topicId message : String}
    {data : Value} (hcareful : topicId ∉ p.heldTopics) {q : Session}
    (hq : p.step (.publish topicId message data) = some q) : q.Kept := by
  obtain rfl := step_publish hq
  obtain ⟨hkept, id, type, hm⟩ := h.advertise hcareful message
  have hclient := (advertise_frame topicId message p.platform).1
  rw [← hclient] at hm
  let counter := (p.platform.advertise topicId message).counter + 1
  have hsend := hkept.sendText
    (m := .publish ("publish: " ++ topicId ++ ": " ++ toString counter)
      topicId data) ⟨id, type, hm⟩
    (by intro _ _ _ hpublish; cases hpublish)
    (by intro _ _ _ _ _ hpublish; cases hpublish)
  exact ⟨hsend.current, hsend.created, hsend.held, hsend.fresh,
    hsend.advertised, hsend.drawn, hsend.older, hsend.subscribed,
    hsend.bounded, hsend.connected⟩

/-- Publishing a held topic sends no advertisement. -/
theorem Kept.not_sessionKept_publish {p : Session} (h : p.Kept)
    {topicId message : String} {data : Value} (hheld : topicId ∈ p.heldTopics)
    {q : Session}
    (hq : p.step (.publish topicId message data) = some q) :
    ¬q.platform.SessionKept := by
  intro hkept
  obtain rfl := step_publish hq
  obtain ⟨hmem, hnone⟩ := h.held topicId hheld
  obtain ⟨id, hsent⟩ := publish_sent topicId message data p.platform
  have hadvertised := hkept.advertised
  rw [hsent, advertise_of_mem hmem, eachInput_concat] at hadvertised
  obtain ⟨id', type, hm⟩ := hadvertised.2
  exact hnone id' type hm

theorem Kept.subscribe {p : Session} (h : p.Kept) {path message : String}
    {callback : MessageHandler} {q : Session}
    (hq : p.step (.subscribe path message callback) = some q) : q.Kept := by
  have hclient : (p.platform.subscribe path message callback).2.webClient =
      p.platform.webClient := rfl
  simp only [step, RosPlatform.step, Option.map_some, next, hclient, if_true,
    Option.some.injEq] at hq
  subst hq
  have hsend := h.sendText
    (m := .subscribe p.platform.uniqueIds message path "none" 0) trivial
    (by intro _ _ _ hm; cases hm)
    (by rintro _ _ _ _ _ hm; cases hm; exact h.older)
  refine ⟨hsend.current, hsend.created, hsend.held, hsend.fresh,
    hsend.advertised, hsend.drawn, Nat.le_succ_of_le hsend.older, ?_, ?_, ?_⟩
  · intro sub hsub hdrawn
    rw [subscribe_subscriptionMap, MultiMap.values_insert,
      Multiset.mem_cons] at hsub
    rcases hsub with rfl | hsub
    · exact ⟨message, List.mem_append_right _ (List.mem_singleton.mpr rfl)⟩
    · exact hsend.subscribed sub hsub hdrawn
  · intro sub hsub
    rw [subscribe_subscriptionMap, MultiMap.values_insert,
      Multiset.mem_cons] at hsub
    rcases hsub with rfl | hsub
    · exact Nat.lt_succ_self _
    · exact Nat.lt_succ_of_lt (hsend.bounded sub hsub)
  · intro hconnected sub hsub
    rw [subscribe_subscriptionMap, MultiMap.values_insert,
      Multiset.mem_cons] at hsub
    rcases hsub with rfl | hsub
    · exact h.older
    · exact hsend.connected hconnected sub hsub

theorem Kept.unsubscribe {p : Session} (h : p.Kept) {path : String}
    {object : ObjectId} {q : Session}
    (hq : p.step (.unsubscribe path object) = some q) : q.Kept := by
  simp only [step, RosPlatform.step, unsubscribe_eq] at hq
  split at hq
  · contradiction
  · simp only [Option.map_some, next, if_true, Option.some.injEq] at hq
    subst hq
    exact h

theorem Kept.new (url : String) (o : SendOutcome) : (new url o).Kept := by
  rcases connectToRobot_cases o (blank url) with ⟨h, -⟩ |
    ⟨-, hsame, hclient, hlength, -⟩
  · contradiction
  · have hsent : (RosPlatform.new url o).sent = [] := hsame.sent
    have htopics : (RosPlatform.new url o).advertisements = [] :=
      hsame.advertisements
    have hvalues : (RosPlatform.new url o).subscriptionMap.values = 0 :=
      congrArg MultiMap.values hsame.subscriptionMap
    refine ⟨?_, ?_, ?_, ?_, ?_, ?_, Nat.zero_le _, ?_, ?_, ?_⟩
    · change ((blank url).connectToRobot o).webClient <
        ((blank url).connectToRobot o).clients.length
      rw [hclient, hlength]
      exact Nat.lt_succ_self _
    all_goals simp [Session.new, hsent, htopics, hvalues, EachInput]

theorem Kept.step_of_careful {p : Session} (h : p.Kept) {e : Event}
    (hcareful : p.Careful e) {q : Session} (hq : p.step e = some q) :
    q.Kept := by
  cases e with
  | timer o => exact h.timer hcareful hq
  | clientState k st => exact h.clientState hcareful hq
  | publish topicId message data => exact h.publish hcareful hq
  | subscribe path message callback => exact h.subscribe hq
  | unsubscribe path object => exact h.unsubscribe hq

theorem Kept.not_sessionKept {p : Session} (h : p.Kept) {e : Event}
    (hcareless : ¬p.Careful e) {q : Session} (hq : p.step e = some q) :
    ¬q.platform.SessionKept := by
  cases e with
  | timer o => exact h.not_sessionKept_timer hcareless hq
  | clientState k st => exact h.not_sessionKept_clientState hcareless hq
  | publish topicId message data =>
      exact h.not_sessionKept_publish (not_not.mp hcareless) hq
  | subscribe path message callback => exact absurd trivial hcareless
  | unsubscribe path object => exact absurd trivial hcareless

theorem Kept.throughout_iff {p : Session} (h : p.Kept) (es : List Event) :
    Throughout RosPlatform.step SessionKept p.platform es ↔
      EachStep step Careful p es := by
  refine (throughout_proj platform map_step p es).trans ?_
  exact throughout_iff_eachStep (L := fun _ _ => True)
    (fun _ hkept => hkept.sessionKept)
    (fun _ _ _ hkept _ hcareful hq => hkept.step_of_careful hcareful hq)
    (fun _ _ _ hkept _ hcareless hq => hkept.not_sessionKept hcareless hq)
    h (eachStep_true _ _)

/-- The sessions of all clients are kept throughout a run precisely when
nothing that was held at the creation of a client is used on it. -/
theorem sessionKept_iff_careful (url : String) (o : SendOutcome)
    (es : List Event) :
    Throughout RosPlatform.step SessionKept (RosPlatform.new url o) es ↔
      EachStep step Careful (new url o) es :=
  (Kept.new url o).throughout_iff es

/-- After a reconnection the second publication of a topic is not advertised,
and the connected client knows nothing of the subscription. -/
theorem not_sessionKept_after_reconnect :
    let o : SendOutcome := ⟨[], true, .connecting⟩
    let s := RosPlatform.new "ws://192.168.1.89:9090" o
    let path := "/goal_status"
    let publish := Event.publish "/joint_refs" "r2_msgs/LabeledJointTrajectory"
      .null
    let lose := Event.clientState 0 .disconnected
    ¬Throughout RosPlatform.step SessionKept s
        [publish, lose, .timer o, publish] ∧
      ¬Throughout RosPlatform.step SessionKept s
        [.subscribe path "actionlib_msgs/GoalStatusArray" ⟨1, "OnGoalStatus"⟩,
          lose, .timer o, .clientState 1 .connected] := by
  intro o s path publish lose
  have hkept := Kept.new "ws://192.168.1.89:9090" o
  constructor
  · intro h
    have h₀ := (hkept.throughout_iff _).mp h
    have h₁ := (h₀ _ rfl).2
    have h₂ := (h₁ _ rfl).2
    have h₃ := (h₂ _ rfl).2
    exact (h₃ _ rfl).1 (List.mem_singleton.mpr rfl)
  · intro h
    have h₀ := (hkept.throughout_iff _).mp h
    have h₁ := (h₀ _ rfl).2
    have h₂ := (h₁ _ rfl).2
    have h₃ := (h₂ _ rfl).2
    have hdrawn := (h₃ _ rfl).1 rfl rfl _ (Multiset.mem_singleton_self _)
    exact absurd hdrawn (by decide)

end Session

end SelfPlugins.Ros
