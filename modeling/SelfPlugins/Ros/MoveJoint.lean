import SelfPlugins.Library.Serial
import SelfPlugins.Ros.Subscriptions
import SelfPlugins.Ros.Trajectory

/-!
# The joint moves of ROS

`RosMoveJointGesture` serves its requests one after the other.  A move
subscribes to the goal status, publishes a trajectory under a new goal and waits
until the status of that goal says that it has ended, or until a timer expires.
`OnGoalStatus` is called for the frames of the topic, `OnTimeout` by the main
thread, where a call may still be queued when the move it was for has ended.

`OnFrame` holds `m_SubscriptionLock` while it calls the handlers, so no move
begins or ends during a frame; but the thread may go on between the comparison
of a goal and the assignment of `m_GoalDone`.  The members are read and assigned
at once.

`moves_end` says what ends a move, and `frame_done_iff` what a frame does that
nothing comes between (`frame_alone`).  As `RosPlatform::Unsubscribe` removes
nothing, each move leaves a subscription behind: `statuses_pile_up`.
-/

namespace SelfPlugins.Ros

open Json (Value)
open Runs Serial

namespace RosMoveJointGesture

/-- What has set `m_GoalDone`: a status, with its goal and its value, or the
timer of a move. -/
inductive Cause
  | status (id : String) (result : Int32)
  | timeout (move : ℕ)
deriving DecidableEq

/-- A move that has left its loop; `before` is the goal that it found in
`m_GoalId`. -/
structure Ended where
  move : ℕ
  goal : String
  before : String
  cause : Option Cause

/-- A frame whose handlers are being called: its statuses, the calls of the
gesture that are still to come, the statuses that the present call has not
looked at, and the goal and the result it has found but not acted on. -/
structure Frame where
  statuses : List Value
  calls : ℕ
  rest : List Value := []
  found : Option (String × Int32) := none

/-- The members of the gesture and the platform it uses.  `timeouts` are the
queued calls of `OnTimeout`, by the move of their timer; `moves` is the number
of moves begun and `before` what `m_GoalId` was when the last one was; `cause`
is what has set `m_GoalDone` since it was last cleared.  As long as there is a
`frame`, it has the `m_SubscriptionLock`. -/
structure Arm where
  platform : RosPlatform
  m_GoalId : String := ""
  m_GoalDone : Bool := false
  m_spWaitTimer : Option ℕ := none
  timeouts : List ℕ := []
  moves : ℕ := 0
  before : String := ""
  cause : Option Cause := none
  ended : List Ended := []
  frame : Option Frame := none

/-- What `DoMoveThread` does next, after it has subscribed. -/
inductive Place
  | goalId
  | clear
  | publish
  | startTimer
  | wait
  | resetTimer
  | unsubscribe
deriving DecidableEq

/-- The text of a `UniqueID` and of a number, and the object that the gesture
is. -/
structure Setting where
  idText : UniqueId → String
  realText : ℚ → String
  this : ObjectId

/-- `DELEGATE(RosMoveJointGesture, OnGoalStatus, const Json::Value &, this)` -/
def Setting.handler (σ : Setting) : MessageHandler :=
  ⟨σ.this, "OnGoalStatus"⟩

/-- `m_GoalDone = true` -/
def raise (c : Cause) (a : Arm) : Arm :=
  { a with
    m_GoalDone := true
    cause := if a.m_GoalDone then a.cause else some c }

/-! ## The status of the goals -/

/-- What the loop of `OnGoalStatus` makes of one status: it throws, passes it
over, or finds the result of the goal. -/
def goalResult (realText : ℚ → String) (goal : String) (status : Value) :
    Option (Option Int32) := do
  if !(← status.isMember? "goal_id") then return none
  let id ← (← (← status.get? "goal_id").get? "id").asString? realText
  if id ≠ goal then return none
  return some (← (← status.get? "status").asInt?)

/-- The results that the loop finds before it ends or throws. -/
def goalResults (realText : ℚ → String) (goal : String) :
    List Value → List Int32
  | [] => []
  | status :: rest =>
      match goalResult realText goal status with
      | none => []
      | some none => goalResults realText goal rest
      | some (some result) => result :: goalResults realText goal rest

/-- The list of statuses in a frame; there is none where the frame has not the
members that are asked for, or where the questions throw. -/
def statusList (root : Value) : List Value :=
  match root.get? "msg" with
  | some msg => ((msg.get? "status_list").getD .null).elements
  | none => []

/-- `OnGoalStatus` -/
def onGoalStatus (σ : Setting) (root : Value) (a : Arm) : Arm :=
  (goalResults σ.realText a.m_GoalId (statusList root)).foldl
    (fun b result =>
      if 3 ≤ result then raise (.status b.m_GoalId result) b else b) a

/-- The topic of a frame, unless it has none. -/
def topicOf (realText : ℚ → String) (root : Value) : Option String := do
  if !(← root.isMember? "topic") then none
  (← root.get? "topic").asString? realText

/-- `RosPlatform::OnFrame`, as far as the gesture is concerned, if nothing comes
between: it is called for each of its subscriptions to the topic.  The handlers
behind `called` others are not reached, as one of them throws; where the gesture
itself throws, it would throw again. -/
def onFrame (σ : Setting) (root : Value) (called : ℕ) (a : Arm) : Arm :=
  match topicOf σ.realText root with
  | none => a
  | some topic =>
      (((a.platform.dispatch topic).take called).filter (· = σ.handler)).foldl
        (fun b _ => onGoalStatus σ root b) a

/-- `OnFrame` takes the lock and begins to call the handlers. -/
def beginFrame (σ : Setting) (root : Value) (called : ℕ) (a : Arm) :
    Option Frame :=
  (topicOf σ.realText root).map fun topic =>
    { statuses := statusList root
      calls := (((a.platform.dispatch topic).take called).filter
        (· = σ.handler)).length }

/-- The next thing that is done for a frame: the call of `OnGoalStatus` acts on
what it has found, or looks at the next status, which may throw; or the next
call is made, or the lock given back. -/
def onStatus (σ : Setting) (f : Frame) (a : Arm) : Arm :=
  match f.found, f.rest, f.calls with
  | some (id, result), _, _ =>
      { (if 3 ≤ result then raise (.status id result) a else a) with
        frame := some { f with found := none } }
  | none, status :: rest, _ =>
      match goalResult σ.realText a.m_GoalId status with
      | none => { a with frame := none }
      | some none => { a with frame := some { f with rest := rest } }
      | some (some result) =>
          { a with
            frame := some
              { f with rest := rest, found := some (a.m_GoalId, result) } }
  | none, [], calls + 1 =>
      { a with frame := some { f with calls := calls, rest := f.statuses } }
  | none, [], 0 => { a with frame := none }

/-! ## The moves -/

/-- The first call of `DoMoveThread`. -/
def subscribe (σ : Setting) (a : Arm) : Arm :=
  { a with
    platform := (a.platform.subscribe "/goal_status"
      "actionlib_msgs/GoalStatusArray" σ.handler).2
    moves := a.moves + 1
    before := a.m_GoalId }

/-- A step of `DoMoveThread`, unless it throws. -/
def next (σ : Setting) (joints : List Joint) (a : Arm) :
    Place → Outcome Place × Arm
  | .goalId =>
      (.goesOn .clear,
        { a with
          m_GoalId := σ.idText a.platform.uniqueIds
          platform :=
            { a.platform with uniqueIds := a.platform.uniqueIds + 1 } })
  | .clear => (.goesOn .publish, { a with m_GoalDone := false, cause := none })
  | .publish =>
      match trajectory a.m_GoalId joints with
      | none => (.throws, a)
      | some json =>
          (.goesOn .startTimer,
            { a with
              platform := (a.platform.publish "/joint_refs"
                "r2_msgs/LabeledJointTrajectory" json).2 })
  | .startTimer =>
      (.goesOn .wait, { a with m_spWaitTimer := some (a.moves - 1) })
  | .wait =>
      if a.m_GoalDone then
        (.goesOn .resetTimer,
          { a with
            ended := a.ended ++
              [⟨a.moves - 1, a.m_GoalId, a.before, a.cause⟩] })
      else (.goesOn .wait, a)
  | .resetTimer => (.goesOn .unsubscribe, { a with m_spWaitTimer := none })
  | .unsubscribe =>
      match a.platform.unsubscribe "/goal_status" σ.this with
      | none => (.throws, a)
      | some (_, platform) => (.finished, { a with platform := platform })

/-- What happens beside the moves: others use the platform, a frame comes in,
its handlers are called, the timer expires, and the main thread makes a queued
call of `OnTimeout`. -/
inductive Other
  | platform (e : RosPlatform.Event)
  | frame (root : Value) (called : ℕ)
  | status
  | expire
  | onTimeout (n : ℕ)

/-- The others do not use the handlers of the gesture. -/
def Foreign (this : ObjectId) : RosPlatform.Event → Bool
  | .subscribe _ _ callback => callback.object ≠ this
  | _ => true

/-- The calls that take the lock. -/
def Locks : RosPlatform.Event → Bool
  | .subscribe _ _ _ => true
  | .unsubscribe _ _ => true
  | _ => false

def other (σ : Setting) (a : Arm) : Other → Option Arm
  | .platform e =>
      if Foreign σ.this e && !(a.frame.isSome && Locks e) then
        (a.platform.step e).map fun p => { a with platform := p }
      else none
  | .frame root called =>
      if a.frame.isSome then none
      else some { a with frame := beginFrame σ root called a }
  | .status => a.frame.map fun f => onStatus σ f a
  | .expire =>
      a.m_spWaitTimer.map fun move =>
        { a with m_spWaitTimer := none, timeouts := a.timeouts ++ [move] }
  | .onTimeout n =>
      (a.timeouts[n]?).map fun move =>
        raise (.timeout move) { a with timeouts := a.timeouts.eraseIdx n }

/-- The work of the gesture.  The thread is at a place of `DoMoveThread`, and an
exception marks `ActiveRequest()`.  `Subscribe` and `Unsubscribe` wait for the
lock. -/
def work (σ : Setting) : Work (List Joint) (List Joint × Place) Arm Bool Other
    where
  mark := .front
  prepare _ a := a
  enter joints a := ((joints, .goalId), subscribe σ a)
  next fails k a :=
    if fails then (.throws, a)
    else
      match next σ k.1 a k.2 with
      | (.goesOn p, b) => (.goesOn (k.1, p), b)
      | (.finished, b) => (.finished, b)
      | (.throws, b) => (.throws, b)
  other e a := other σ a e
  blocked place a := a.frame.isSome &&
    match place with
    | none => true
    | some k => k.2 = .unsubscribe

/-! ## The subscriptions -/

/-- The subscriptions of a handler to a topic. -/
def subscriptions (path : String) (h : MessageHandler) (p : RosPlatform) : ℕ :=
  ((p.dispatch path).filter (· = h)).length

theorem subscriptions_eq (path : String) (h : MessageHandler)
    (p : RosPlatform) :
    subscriptions path h p = p.subscriptionMap.entries.countP fun e =>
      decide (e.1 = path) && decide (e.2.handler = h) := by
  rw [subscriptions, RosPlatform.dispatch_eq_filter, List.filter_map,
    List.length_map, List.filter_filter, List.countP_eq_length_filter]
  congr 1
  refine List.filter_congr fun e _ => ?_
  simp [Bool.and_comm]

theorem subscriptions_congr {p q : RosPlatform}
    (hsame : q.subscriptionMap = p.subscriptionMap) (path : String)
    (h : MessageHandler) : subscriptions path h q = subscriptions path h p := by
  rw [subscriptions_eq, subscriptions_eq, hsame]

theorem subscriptions_subscribe (path topic message : String)
    (h callback : MessageHandler) (p : RosPlatform) :
    subscriptions path h (p.subscribe topic message callback).2 =
      subscriptions path h p +
        if topic = path ∧ callback = h then 1 else 0 := by
  rw [subscriptions_eq, subscriptions_eq, RosPlatform.subscribe_subscriptionMap,
    MultiMap.insert, (MultiMap.insertUpper_perm _ _ _).countP_eq,
    List.countP_cons]
  simp

/-- Unsubscribing removes nothing. -/
theorem unsubscribe_some {path : String} {object : ObjectId}
    {p : RosPlatform} {r : Bool × RosPlatform}
    (hr : p.unsubscribe path object = some r) : r = (false, p) := by
  rw [RosPlatform.unsubscribe_eq] at hr
  split at hr
  · cases hr
  · exact (Option.some.inj hr).symm

/-- What others do with the platform changes the subscriptions of the gesture as
little as it takes back a message. -/
structure Unaffected (σ : Setting) (p q : RosPlatform) : Prop where
  subscriptions : ∀ path, subscriptions path σ.handler q =
    subscriptions path σ.handler p
  sent : ∀ m ∈ p.sent, m ∈ q.sent

theorem Unaffected.refl (σ : Setting) (p : RosPlatform) : Unaffected σ p p :=
  ⟨fun _ => rfl, fun _ hm => hm⟩

theorem unaffected_of_sameSession {σ : Setting} {p q : RosPlatform}
    (h : p.SameSession q) : Unaffected σ p q where
  subscriptions := fun path => subscriptions_congr h.subscriptionMap path _
  sent := fun _ hm => h.sent ▸ hm

theorem unaffected_publish (σ : Setting) (topic message : String)
    (data : Value) (p : RosPlatform) :
    Unaffected σ p (p.publish topic message data).2 where
  subscriptions := fun path =>
    subscriptions_congr (p.advertise_frame topic message).2.2.1 path _
  sent := by
    intro m hm
    obtain ⟨id, hsent⟩ := p.publish_sent topic message data
    rw [hsent]
    refine List.mem_append_left _ ?_
    by_cases hmem : topic ∈ p.advertisements
    · rwa [RosPlatform.advertise_of_mem hmem]
    · obtain ⟨⟨id', hadvertise⟩, -⟩ :=
        RosPlatform.advertise_of_not_mem hmem message
      rw [hadvertise]
      exact List.mem_append_left _ hm

theorem unaffected_step {σ : Setting} {p q : RosPlatform}
    {e : RosPlatform.Event} (hforeign : Foreign σ.this e = true)
    (hq : p.step e = some q) : Unaffected σ p q := by
  cases e with
  | timer o =>
      obtain rfl := Option.some.inj hq
      rcases p.connectToRobot_cases o with ⟨-, hsame⟩ | ⟨-, hsame, -⟩
      · rw [hsame]
        exact .refl σ p
      · exact unaffected_of_sameSession hsame
  | clientState k st =>
      obtain ⟨-, hq⟩ := Option.ite_none_right_eq_some.mp hq
      obtain rfl := Option.some.inj hq
      exact unaffected_of_sameSession (p.notify_spec k st).1
  | publish topic message data =>
      obtain rfl := Option.some.inj hq
      exact unaffected_publish σ topic message data p
  | subscribe path message callback =>
      obtain rfl := Option.some.inj hq
      refine ⟨fun topic => ?_, fun m hm => List.mem_append_left _ hm⟩
      have hother : callback ≠ σ.handler := by
        rintro rfl
        simp [Foreign, Setting.handler] at hforeign
      rw [subscriptions_subscribe, if_neg fun h => hother h.2]
      rfl
  | unsubscribe path object =>
      obtain ⟨r, hr, rfl⟩ := Option.map_eq_some_iff.mp hq
      rw [unsubscribe_some hr]
      exact .refl σ p

/-- `n` moves have been begun, each with a subscription that is still there. -/
structure Piled (σ : Setting) (n : ℕ) (a : Arm) : Prop where
  moves : a.moves = n
  subscriptions : ∀ path, subscriptions path σ.handler a.platform =
    if path = "/goal_status" then n else 0

theorem Piled.congr {σ : Setting} {n : ℕ} {a b : Arm} (h : Piled σ n a)
    (hmoves : b.moves = a.moves)
    (hplatform : Unaffected σ a.platform b.platform) : Piled σ n b :=
  ⟨hmoves.trans h.moves, fun path =>
    (hplatform.subscriptions path).trans (h.subscriptions path)⟩

theorem piled_subscribe {σ : Setting} {n : ℕ} {a : Arm} (h : Piled σ n a) :
    Piled σ (n + 1) (subscribe σ a) where
  moves := congrArg Nat.succ h.moves
  subscriptions := by
    intro path
    change subscriptions _ _ (a.platform.subscribe _ _ _).2 = _
    rw [subscriptions_subscribe, h.subscriptions]
    by_cases hpath : path = "/goal_status"
    · rw [if_pos hpath, if_pos hpath, if_pos ⟨hpath.symm, rfl⟩]
    · rw [if_neg hpath, if_neg hpath, if_neg fun hsub => hpath hsub.1.symm]

/-! ## What ends a move -/

/-- The move was ended by a status of its goal or of the one before, or by a
timer that had been started for it or for a move before it. -/
def Own (move : ℕ) (goal before : String) : Cause → Prop
  | .status id result => (id = goal ∨ id = before) ∧ 3 ≤ result
  | .timeout m => m ≤ move

/-- The joints have been published under the goal. -/
def Published (goal : String) (joints : List Joint) (p : RosPlatform) : Prop :=
  ∃ json client id, trajectory goal joints = some json ∧
    (client, .publish id "/joint_refs" json) ∈ p.sent

/-- The move of a request has ended as it should: the joints of the request had
been published under the goal. -/
def EndedWell (rs : List (List Joint)) (p : RosPlatform) (x : Ended) : Prop :=
  (∃ c, x.cause = some c ∧ Own x.move x.goal x.before c) ∧
    ∃ joints, rs[x.move]? = some joints ∧ Published x.goal joints p

theorem Published.mono {goal : String} {joints : List Joint}
    {p q : RosPlatform} (h : Published goal joints p)
    (hsent : ∀ m ∈ p.sent, m ∈ q.sent) : Published goal joints q := by
  obtain ⟨json, client, id, hjson, hmem⟩ := h
  exact ⟨json, client, id, hjson, hsent _ hmem⟩

theorem EndedWell.mono {rs : List (List Joint)} {p q : RosPlatform}
    {x : Ended} (h : EndedWell rs p x) (rs' : List (List Joint))
    (hsent : ∀ m ∈ p.sent, m ∈ q.sent) : EndedWell (rs ++ rs') q x := by
  obtain ⟨hcause, joints, hjoints, hpublished⟩ := h
  refine ⟨hcause, joints, ?_, hpublished.mono hsent⟩
  rw [List.getElem?_append_left (List.getElem?_eq_some_iff.mp hjoints).1]
  exact hjoints

/-- What a frame has found is of the goal, or of the one before. -/
def Found (a : Arm) : Prop :=
  ∀ f, a.frame = some f → ∀ x, f.found = some x →
    x.1 = a.m_GoalId ∨ x.1 = a.before

/-- What holds when `n` moves have been begun, for the requests `rs`. -/
structure Kept (σ : Setting) (rs : List (List Joint)) (n : ℕ) (a : Arm) :
    Prop extends Piled σ n a where
  found : Found a
  ended : ∀ x ∈ a.ended, EndedWell rs a.platform x
  timer : ∀ move, a.m_spWaitTimer = some move → move < n
  timeouts : ∀ move ∈ a.timeouts, move < n

/-- The move of the thread, which is at a place. -/
structure Moving (σ : Setting) (rs : List (List Joint)) (joints : List Joint)
    (p : Place) (a : Arm) : Prop extends
    Kept σ (rs ++ [joints]) (rs.length + 1) a where
  before : p = .goalId → a.m_GoalId = a.before
  flag : p = .publish ∨ p = .startTimer ∨ p = .wait → a.m_GoalDone = true →
    ∃ c, a.cause = some c ∧ Own rs.length a.m_GoalId a.before c
  published : p = .startTimer ∨ p = .wait →
    Published a.m_GoalId joints a.platform

/-- The assertions about the gesture. -/
def assertions (σ : Setting) :
    Assertions (List Joint) (List Joint × Place) Arm where
  idle rs a := Kept σ rs rs.length a
  pool rs _ a := Kept σ rs rs.length a
  inside rs r k a := k.1 = r ∧ Moving σ rs r k.2 a

section

variable {σ : Setting} {rs : List (List Joint)} {joints : List Joint} {n : ℕ}
  {a b : Arm} {p q : Place}

/-- Nothing has changed but what `Kept` does not speak of. -/
theorem Kept.congr (h : Kept σ rs n a) (hfound : Found b)
    (hmoves : b.moves = a.moves)
    (hplatform : Unaffected σ a.platform b.platform)
    (hended : b.ended = a.ended) (htimer : b.m_spWaitTimer = a.m_spWaitTimer)
    (htimeouts : b.timeouts = a.timeouts) : Kept σ rs n b where
  toPiled := h.toPiled.congr hmoves hplatform
  found := hfound
  ended := by
    intro x hx
    rw [hended] at hx
    have hx := (h.ended x hx).mono [] hplatform.sent
    rwa [List.append_nil] at hx
  timer := by rw [htimer]; exact h.timer
  timeouts := by rw [htimeouts]; exact h.timeouts

/-- A step of a frame: it finds a status of the goal at most, or it acts on
what it has found. -/
inductive Noticed (a : Arm) : Arm → Prop
  | looks (frame : Option Frame)
      (hfound : ∀ f, frame = some f → ∀ x, f.found = some x →
        x.1 = a.m_GoalId) : Noticed a { a with frame := frame }
  | acts (f : Frame) (id : String) (result : Int32) (hframe : a.frame = some f)
      (hfound : f.found = some (id, result)) (hle : 3 ≤ result)
      (hdone : a.m_GoalDone = false) :
      Noticed a
        { a with
          m_GoalDone := true
          cause := some (.status id result)
          frame := some { f with found := none } }

/-- A frame that has found nothing that could be acted on. -/
theorem noticed_none {f : Frame} (hfound : f.found = none) :
    Noticed a { a with frame := some f } := by
  refine .looks _ fun g hg x hx => ?_
  obtain rfl := Option.some.inj hg
  rw [hfound] at hx
  cases hx

theorem noticed_onStatus (σ : Setting) {f : Frame} (hframe : a.frame = some f) :
    Noticed a (onStatus σ f a) := by
  obtain ⟨statuses, calls, rest, found⟩ := f
  cases found with
  | some x =>
      obtain ⟨id, result⟩ := x
      simp only [onStatus]
      split
      · next hle =>
        cases hdone : a.m_GoalDone with
        | true =>
            have hsame : raise (.status id result) a = a := by
              rw [raise, hdone, if_pos rfl, ← hdone]
            rw [hsame]
            exact noticed_none rfl
        | false =>
            rw [raise, hdone, if_neg Bool.false_ne_true]
            exact .acts _ id result hframe rfl hle hdone
      · exact noticed_none rfl
  | none =>
      cases rest with
      | cons status rest =>
          simp only [onStatus]
          split
          · exact .looks none nofun
          · exact noticed_none rfl
          · refine .looks _ fun g hg x hx => ?_
            obtain rfl := Option.some.inj hg
            obtain rfl := Option.some.inj hx
            rfl
      | nil =>
          cases calls with
          | zero => exact .looks none nofun
          | succ calls => exact noticed_none rfl

theorem kept_noticed (h : Kept σ rs n a) (hb : Noticed a b) :
    Kept σ rs n b := by
  cases hb with
  | looks frame hfound =>
      exact h.congr (fun f hf x hx => Or.inl (hfound f hf x hx)) rfl
        (.refl σ _) rfl rfl rfl
  | acts f id result =>
      refine h.congr (fun g hg x hx => ?_) rfl (.refl σ _) rfl rfl rfl
      obtain rfl := Option.some.inj hg
      cases hx

/-- What happens beside the moves, but for what it does to `m_GoalDone`. -/
theorem kept_other (h : Kept σ rs n a) {e : Other}
    (hb : other σ a e = some b) : Kept σ rs n b := by
  cases e with
  | platform e =>
      obtain ⟨hcan, hb⟩ := Option.ite_none_right_eq_some.mp hb
      obtain ⟨q, hq, rfl⟩ := Option.map_eq_some_iff.mp hb
      have hforeign := ((Bool.and_eq_true _ _).mp hcan).1
      exact h.congr h.found rfl (unaffected_step hforeign hq) rfl rfl rfl
  | frame root called =>
      obtain ⟨-, hb⟩ := Option.ite_none_left_eq_some.mp hb
      obtain rfl := Option.some.inj hb
      refine h.congr (fun f hf x hx => ?_) rfl (.refl σ _) rfl rfl rfl
      obtain ⟨topic, -, rfl⟩ := Option.map_eq_some_iff.mp hf
      cases hx
  | status =>
      obtain ⟨f, hf, rfl⟩ := Option.map_eq_some_iff.mp hb
      exact kept_noticed h (noticed_onStatus σ hf)
  | expire =>
      obtain ⟨move, hmove, rfl⟩ := Option.map_eq_some_iff.mp hb
      refine ⟨h.toPiled.congr rfl (.refl σ _), h.found, h.ended, nofun,
        fun m hm => ?_⟩
      rcases List.mem_append.mp hm with hm | hm
      · exact h.timeouts m hm
      · exact List.mem_singleton.mp hm ▸ h.timer move hmove
  | onTimeout k =>
      obtain ⟨move, -, rfl⟩ := Option.map_eq_some_iff.mp hb
      exact ⟨h.toPiled.congr rfl (.refl σ _), h.found, h.ended, h.timer,
        fun m hm => h.timeouts m (List.mem_of_mem_eraseIdx hm)⟩

/-- A move is begun, while no frame has the lock. -/
theorem moving_subscribe (h : Kept σ rs rs.length a)
    (hframe : a.frame = none) (joints : List Joint) :
    Moving σ rs joints .goalId (subscribe σ a) where
  toPiled := piled_subscribe h.toPiled
  found := fun f hf => by
    rw [subscribe, hframe] at hf
    cases hf
  before := fun _ => rfl
  ended := fun x hx => (h.ended x hx).mono [joints]
    fun _ hm => List.mem_append_left _ hm
  timer := fun m hm => Nat.lt_succ_of_lt (h.timer m hm)
  timeouts := fun m hm => Nat.lt_succ_of_lt (h.timeouts m hm)
  flag := by simp
  published := by simp

/-- What a move publishes has been published. -/
theorem published_publish {goal : String} {json : Value}
    (hjson : trajectory goal joints = some json) (message : String)
    (p : RosPlatform) :
    Published goal joints (p.publish "/joint_refs" message json).2 := by
  obtain ⟨id, hsent⟩ := p.publish_sent "/joint_refs" message json
  refine ⟨json, p.webClient, id, hjson, ?_⟩
  rw [hsent]
  exact List.mem_append_right _ (List.mem_singleton_self _)

/-- Where the thread is after a step, and what holds there. -/
def After (σ : Setting) (rs : List (List Joint)) (joints : List Joint)
    (out : Outcome Place × Arm) : Prop :=
  match out.1 with
  | .goesOn q => Moving σ rs joints q out.2
  | _ => Kept σ (rs ++ [joints]) (rs.length + 1) out.2

theorem Moving.next (h : Moving σ rs joints p a) :
    After σ rs joints (next σ joints a p) := by
  have hkept := h.toKept
  cases p with
  | goalId =>
      -- What a frame has found so far is of the goal before.
      have hfound : Found { a with m_GoalId := σ.idText a.platform.uniqueIds } :=
        fun f hf x hx => Or.inr ((hkept.found f hf x hx).elim
          (fun hgoal => hgoal.trans (h.before rfl)) id)
      exact ⟨hkept.congr hfound rfl ⟨fun _ => rfl, fun _ hm => hm⟩ rfl rfl rfl,
        nofun, by simp, by simp⟩
  | clear =>
      exact ⟨hkept.congr hkept.found rfl (.refl σ _) rfl rfl rfl, nofun,
        fun _ => nofun, by simp⟩
  | publish =>
      unfold RosMoveJointGesture.next
      cases hjson : trajectory a.m_GoalId joints with
      | none => exact hkept
      | some json =>
          refine ⟨hkept.congr hkept.found rfl (unaffected_publish σ _ _ _ _) rfl
            rfl rfl, nofun, fun _ => h.flag (Or.inl rfl), fun _ => ?_⟩
          exact published_publish hjson _ _
  | startTimer =>
      refine ⟨⟨hkept.toPiled.congr rfl (.refl σ _), hkept.found, hkept.ended,
        ?_, hkept.timeouts⟩, nofun, fun _ => h.flag (Or.inr (Or.inl rfl)),
        fun _ => h.published (Or.inl rfl)⟩
      intro m hm
      obtain rfl := Option.some.inj hm
      have hmoves := h.moves
      omega
  | wait =>
      unfold RosMoveJointGesture.next
      cases hdone : a.m_GoalDone with
      | false => exact h
      | true =>
          refine ⟨⟨hkept.toPiled.congr rfl (.refl σ _), hkept.found, ?_,
            hkept.timer, hkept.timeouts⟩, nofun, by simp, by simp⟩
          intro x hx
          rcases List.mem_append.mp hx with hx | hx
          · exact hkept.ended x hx
          · obtain rfl := List.mem_singleton.mp hx
            have hmove : a.moves - 1 = rs.length := by
              have hmoves := h.moves
              omega
            refine ⟨?_, joints, ?_, h.published (Or.inr rfl)⟩
            · rw [hmove]
              exact h.flag (Or.inr (Or.inr rfl)) hdone
            · simp only [hmove]
              exact List.getElem?_concat_length
  | resetTimer =>
      exact ⟨⟨hkept.toPiled.congr rfl (.refl σ _), hkept.found, hkept.ended,
        nofun, hkept.timeouts⟩, nofun, by simp, by simp⟩
  | unsubscribe =>
      unfold RosMoveJointGesture.next
      cases hunsub : a.platform.unsubscribe "/goal_status" σ.this with
      | none => exact hkept
      | some r =>
          obtain rfl := unsubscribe_some hunsub
          exact hkept

/-- What happens beside a move keeps it on its way. -/
theorem Moving.other (h : Moving σ rs joints p a) {e : Other}
    (hb : other σ a e = some b) : Moving σ rs joints p b := by
  have hkept := kept_other h.toKept hb
  cases e with
  | platform e =>
      obtain ⟨hcan, hb⟩ := Option.ite_none_right_eq_some.mp hb
      obtain ⟨q, hq, rfl⟩ := Option.map_eq_some_iff.mp hb
      have hforeign := ((Bool.and_eq_true _ _).mp hcan).1
      exact ⟨hkept, h.before, h.flag, fun hp =>
        (h.published hp).mono (unaffected_step hforeign hq).sent⟩
  | frame root called =>
      obtain ⟨-, hb⟩ := Option.ite_none_left_eq_some.mp hb
      obtain rfl := Option.some.inj hb
      exact ⟨hkept, h.before, h.flag, h.published⟩
  | status =>
      obtain ⟨f, hf, rfl⟩ := Option.map_eq_some_iff.mp hb
      have hnoticed := noticed_onStatus σ hf
      generalize onStatus σ f a = c at hkept hnoticed
      cases hnoticed with
      | looks => exact ⟨hkept, h.before, h.flag, h.published⟩
      | acts g id result hframe hfound hle =>
          have hgoal := h.found g hframe _ hfound
          exact ⟨hkept, h.before, fun _ _ => ⟨_, rfl, hgoal, hle⟩, h.published⟩
  | expire =>
      obtain ⟨move, -, rfl⟩ := Option.map_eq_some_iff.mp hb
      exact ⟨hkept, h.before, h.flag, h.published⟩
  | onTimeout k =>
      obtain ⟨move, hmove, rfl⟩ := Option.map_eq_some_iff.mp hb
      refine ⟨hkept, h.before, fun hp _ => ?_, h.published⟩
      cases hdone : a.m_GoalDone with
      | true =>
          obtain ⟨c, hc, hown⟩ := h.flag hp hdone
          refine ⟨c, ?_, hown⟩
          simp only [raise, if_true]
          exact hc
      | false =>
          refine ⟨.timeout move, ?_, ?_⟩
          · simp [raise]
          · have hlt := h.timeouts move (List.mem_of_getElem? hmove)
            exact Nat.le_of_lt_succ hlt

/-- The same of a step of the work. -/
theorem Moving.next_work (h : Moving σ rs joints p a) (fails : Bool) :
    match (work σ).next fails (joints, p) a with
    | (.goesOn k, b) => k.1 = joints ∧ Moving σ rs joints k.2 b
    | (_, b) => Kept σ (rs ++ [joints]) (rs ++ [joints]).length b := by
  rw [List.length_append, List.length_singleton]
  have hnext := h.next
  simp only [work]
  cases fails with
  | true => exact h.toKept
  | false =>
      rw [if_neg Bool.false_ne_true]
      unfold After at hnext
      generalize RosMoveJointGesture.next σ joints a p = out at hnext
      obtain ⟨outcome, b⟩ := out
      cases outcome with
      | goesOn q => exact ⟨rfl, hnext⟩
      | finished => exact hnext
      | throws => exact hnext

theorem keeps (σ : Setting) : Keeps (work σ) (assertions σ) where
  prepare := fun h => h
  enter := fun {_ r a} h hblocked => by
    have hframe : a.frame = none := by
      simp only [work, Bool.and_true, Option.isSome_eq_false_iff,
        Option.isNone_iff_eq_none] at hblocked
      exact hblocked
    exact ⟨rfl, moving_subscribe h hframe r⟩
  goesOn := by
    rintro rs r fails ⟨joints, p⟩ k a b ⟨rfl, h⟩ hnext
    have hafter := h.next_work fails
    rwa [hnext] at hafter
  finished := by
    rintro rs r fails ⟨joints, p⟩ a b ⟨rfl, h⟩ hnext
    have hafter := h.next_work fails
    rwa [hnext] at hafter
  throws := by
    rintro rs r fails ⟨joints, p⟩ a b ⟨rfl, h⟩ hnext
    have hafter := h.next_work fails
    rwa [hnext] at hafter
  other_idle := fun h hb => kept_other h hb
  other_pool := fun h hb => kept_other h hb
  other_inside := fun h hb => ⟨h.1, h.2.other hb⟩

end

/-! ## All runs -/

/-- A gesture that has not been called, with a platform on which it has no
subscription. -/
structure Fresh (σ : Setting) (a : Arm) : Prop where
  moves : a.moves = 0
  subscriptions : ∀ path, subscriptions path σ.handler a.platform = 0
  ended : a.ended = []
  timer : a.m_spWaitTimer = none
  timeouts : a.timeouts = []
  frame : a.frame = none

theorem kept_fresh {σ : Setting} {a : Arm} (h : Fresh σ a) :
    Kept σ [] 0 a where
  moves := h.moves
  subscriptions := fun path => (h.subscriptions path).trans (ite_self 0).symm
  found := by rw [Found, h.frame]; exact nofun
  ended := by rw [h.ended]; exact nofun
  timer := by rw [h.timer]; exact nofun
  timeouts := by rw [h.timeouts]; exact nofun

theorem fresh_new (σ : Setting) (url : String) (o : SendOutcome) :
    Fresh σ { platform := RosPlatform.new url o } where
  moves := rfl
  subscriptions := by
    intro path
    rw [subscriptions_eq, List.countP_eq_zero]
    intro e he
    have hpast := (RosPlatform.HoldsPast.new url o).mem path σ.handler
    simp only [Bool.and_eq_true, decide_eq_true_eq]
    rintro ⟨hpath, hhandler⟩
    simpa using hpast.mp ⟨e, he, hpath, hhandler⟩
  ended := rfl
  timer := rfl
  timeouts := rfl
  frame := rfl

/-- What is known of a gesture in all of its runs. -/
structure Served (σ : Setting)
    (s : Server (List Joint) (List Joint × Place) Arm) : Prop where
  held : Held (assertions σ) s
  serving : Serving s
  ordered : Ordered (work σ) s

theorem served_throughout (σ : Setting) (url : String) (o : SendOutcome)
    (evs : List (Event (List Joint) Bool Other)) :
    Throughout (Server.step (work σ)) (Served σ)
      { world := { platform := RosPlatform.new url o } } evs := by
  refine throughout_of_eachStep (C := fun _ _ => True) ?_
    ⟨.resting rfl rfl rfl (kept_fresh (fresh_new σ url o)), serving_new _,
      ordered_new _⟩ (eachStep_true _ evs)
  rintro s ev t ⟨hheld, hserving, hordered⟩ - ht
  exact ⟨held_step (keeps σ) hheld ht, hserving.step ht,
    ordered_step hserving hordered ht⟩

/-- What is known of the gesture, in whatever stage its request is. -/
theorem Served.kept {σ : Setting}
    {s : Server (List Joint) (List Joint × Place) Arm} (h : Served σ s) :
    ∃ rs rest, s.executed = rs ++ rest ∧ Kept σ rs rs.length s.world ∧
      (s.requests = [] → rest = []) ∧
      ∀ t ∈ s.threads, t.place ≠ none → rs ≠ [] := by
  have hexecuted := h.ordered.requests
  rw [List.map_append] at hexecuted
  cases h.held with
  | resting hrequests hthreads _ hidle =>
      refine ⟨s.served, [], ?_, hidle, fun _ => rfl, ?_⟩
      · rw [← hexecuted, hrequests]
        rfl
      · rw [hthreads]
        exact nofun
  | busy e rest hrequests hstage =>
      have hsplit : s.executed =
          s.served ++ e.request :: rest.map Entry.request := by
        rw [← hexecuted, hrequests]
        rfl
      cases hstage with
      | pool hthreads _ hpool =>
          refine ⟨s.served, _, hsplit, hpool, ?_, ?_⟩
          · rw [hrequests]
            exact nofun
          · rw [hthreads]
            simp
      | inside k hthreads _ hinside =>
          refine ⟨s.served ++ [e.request], rest.map Entry.request, ?_, ?_, ?_,
            ?_⟩
          · rw [hsplit, List.append_assoc]
            rfl
          · rw [List.length_append]
            exact hinside.2.toKept
          · rw [hrequests]
            exact nofun
          · simp
      | ended hthreads _ hidle =>
          refine ⟨s.served ++ [e.request], rest.map Entry.request, ?_, hidle,
            ?_, ?_⟩
          · rw [hsplit, List.append_assoc]
            rfl
          · rw [hrequests]
            exact nofun
          · rw [hthreads]
            exact nofun

/-- Where the gesture has a subscription, `Unsubscribe` finds an entry and gives
up. -/
theorem unsubscribe_of_pos {path : String} {h : MessageHandler}
    {p : RosPlatform} (hpos : 0 < subscriptions path h p)
    (object : ObjectId) : p.unsubscribe path object = some (false, p) := by
  rw [RosPlatform.unsubscribe_eq, if_neg]
  rw [MultiMap.find_eq_finish_iff]
  intro hnone
  rw [subscriptions_eq, List.countP_pos_iff] at hpos
  obtain ⟨e, he, hmatch⟩ := hpos
  simp only [Bool.and_eq_true, decide_eq_true_eq] at hmatch
  exact hnone e he hmatch.1

/-- In every run, each move that has been begun has left a subscription to the
goal status: `Unsubscribe` says that there was none, and removes nothing. -/
theorem statuses_pile_up (σ : Setting) (url : String) (o : SendOutcome)
    (evs : List (Event (List Joint) Bool Other)) :
    Throughout (Server.step (work σ))
      (fun s =>
        subscriptions "/goal_status" σ.handler s.world.platform =
          s.world.moves ∧
        s.world.moves ≤ s.executed.length ∧
        (s.requests = [] → s.world.moves = s.executed.length) ∧
        ∀ t ∈ s.threads, t.place ≠ none →
          s.world.platform.unsubscribe "/goal_status" σ.this =
            some (false, s.world.platform))
      { world := { platform := RosPlatform.new url o } } evs := by
  refine (served_throughout σ url o evs).mono fun s h => ?_
  obtain ⟨rs, rest, hexecuted, hkept, hrest, hinside⟩ := h.kept
  have hsub := hkept.subscriptions "/goal_status"
  rw [if_pos rfl] at hsub
  refine ⟨hsub.trans hkept.moves.symm, ?_, fun hempty => ?_,
    fun t ht hplace => ?_⟩
  · rw [hkept.moves, hexecuted, List.length_append]
    exact Nat.le_add_right _ _
  · rw [hkept.moves, hexecuted, hrest hempty, List.append_nil]
  · refine unsubscribe_of_pos (h := σ.handler) ?_ σ.this
    rw [hsub]
    exact List.length_pos_iff.mpr (hinside t ht hplace)

/-- In every run, there is one move at a time, and the moves are those of the
requests in their order.  Each move that has ended had published the joints of
its request under its goal, and was ended by a status of this goal or of the one
it had found in `m_GoalId`, or by a timer: its own, or that of a move before it,
whose call had been queued. -/
theorem moves_end (σ : Setting) (url : String) (o : SendOutcome)
    (evs : List (Event (List Joint) Bool Other)) :
    Throughout (Server.step (work σ))
      (fun s => Serving s ∧ Ordered (work σ) s ∧
        ∀ x ∈ s.world.ended, EndedWell s.executed s.world.platform x)
      { world := { platform := RosPlatform.new url o } } evs := by
  refine (served_throughout σ url o evs).mono fun s h => ?_
  obtain ⟨rs, rest, hexecuted, hkept, -, -⟩ := h.kept
  refine ⟨h.serving, h.ordered, fun x hx => ?_⟩
  rw [hexecuted]
  exact (hkept.ended x hx).mono rest fun _ hm => hm

/-! ## What a frame does -/

theorem onGoalStatus_done (σ : Setting) (root : Value) (a : Arm) :
    (onGoalStatus σ root a).m_GoalDone = true ↔
      a.m_GoalDone = true ∨
        ∃ r ∈ goalResults σ.realText a.m_GoalId (statusList root), 3 ≤ r := by
  unfold onGoalStatus
  generalize goalResults σ.realText a.m_GoalId (statusList root) = results
  induction results generalizing a with
  | nil => simp
  | cons result results ih =>
      rw [List.foldl_cons, ih]
      by_cases hle : 3 ≤ result
      · simp [hle, raise]
      · simp [hle]

/-- The results change nothing but `m_GoalDone` and what has set it. -/
theorem results_eq (results : List Int32) (a : Arm) :
    ∃ done cause, results.foldl (fun b result =>
      if 3 ≤ result then raise (.status b.m_GoalId result) b else b) a =
        { a with m_GoalDone := done, cause := cause } := by
  induction results generalizing a with
  | nil => exact ⟨_, _, rfl⟩
  | cons result results ih =>
      rw [List.foldl_cons]
      split
      · exact ih _
      · exact ih a

theorem onGoalStatus_goalId (σ : Setting) (root : Value) (a : Arm) :
    (onGoalStatus σ root a).m_GoalId = a.m_GoalId := by
  obtain ⟨done, cause, heq⟩ :=
    results_eq (goalResults σ.realText a.m_GoalId (statusList root)) a
  rw [onGoalStatus, heq]

theorem onGoalStatus_of_done (σ : Setting) (root : Value) {a : Arm}
    (hdone : a.m_GoalDone = true) : onGoalStatus σ root a = a := by
  unfold onGoalStatus
  generalize goalResults σ.realText a.m_GoalId (statusList root) = results
  induction results with
  | nil => rfl
  | cons result results ih =>
      have hsame : raise (.status a.m_GoalId result) a = a := by
        rw [raise, hdone, if_pos rfl, ← hdone]
      rw [List.foldl_cons, hsame, ite_self, ih]

/-- A second call changes nothing. -/
theorem onGoalStatus_again (σ : Setting) (root : Value) (a : Arm) :
    onGoalStatus σ root (onGoalStatus σ root a) = onGoalStatus σ root a := by
  by_cases hresult :
      ∃ r ∈ goalResults σ.realText a.m_GoalId (statusList root), 3 ≤ r
  · exact onGoalStatus_of_done σ root
      ((onGoalStatus_done σ root a).mpr (Or.inr hresult))
  · have hsame : onGoalStatus σ root a = a := by
      unfold onGoalStatus
      generalize goalResults σ.realText a.m_GoalId (statusList root) = results
        at hresult
      induction results with
      | nil => rfl
      | cons result results ih =>
          rw [List.foldl_cons,
            if_neg fun hle => hresult ⟨_, List.mem_cons_self, hle⟩]
          exact ih fun ⟨r, hr, hle⟩ =>
            hresult ⟨r, List.mem_cons_of_mem _ hr, hle⟩
    rw [hsame, hsame]

theorem handlers_eq (σ : Setting) (root : Value)
    (handlers : List MessageHandler) (a : Arm) :
    handlers.foldl (fun b _ => onGoalStatus σ root b) a =
      if handlers.length = 0 then a else onGoalStatus σ root a := by
  induction handlers generalizing a with
  | nil => rfl
  | cons h handlers ih =>
      rw [List.foldl_cons, ih, onGoalStatus_again, ite_self]
      rfl

/-- One call of `OnGoalStatus` that nothing comes between: it finds all
results, and either looks at all statuses or throws. -/
theorem call_alone (σ : Setting) (statuses : List Value) (calls : ℕ)
    (rest : List Value) (a : Arm) :
    ∃ n frame, (frame = none ∨ frame = some ⟨statuses, calls, [], none⟩) ∧
      run (other σ) { a with frame := some ⟨statuses, calls, rest, none⟩ }
        (List.replicate n .status) =
      some { (goalResults σ.realText a.m_GoalId rest).foldl
        (fun b result =>
          if 3 ≤ result then raise (.status b.m_GoalId result) b else b) a with
        frame := frame } := by
  induction rest generalizing a with
  | nil => exact ⟨0, _, Or.inr rfl, rfl⟩
  | cons status rest ih =>
      cases hresult : goalResult σ.realText a.m_GoalId status with
      | none =>
          refine ⟨1, none, Or.inl rfl, ?_⟩
          simp only [List.replicate_one, run_cons, other, Option.map_some,
            onStatus, hresult, goalResults, Option.bind_some, List.foldl_nil]
          rfl
      | some found =>
          cases found with
          | none =>
              obtain ⟨n, frame, hframe, hrun⟩ := ih a
              refine ⟨n + 1, frame, hframe, ?_⟩
              simp only [List.replicate_succ, run_cons, other, Option.map_some,
                onStatus, hresult, goalResults, Option.bind_some]
              exact hrun
          | some result =>
              obtain ⟨n, frame, hframe, hrun⟩ := ih
                (if 3 ≤ result then raise (.status a.m_GoalId result) a else a)
              have hgoal : (if 3 ≤ result then
                  raise (.status a.m_GoalId result) a
                  else a).m_GoalId = a.m_GoalId := by
                split <;> rfl
              rw [hgoal] at hrun
              refine ⟨n + 2, frame, hframe, ?_⟩
              simp only [List.replicate_succ, run_cons, other, Option.map_some,
                onStatus, hresult, goalResults, Option.bind_some,
                List.foldl_cons]
              rw [← hrun]
              split <;> rfl

/-- The calls for a frame. -/
theorem calls_alone (σ : Setting) (root : Value) (calls : ℕ) (a : Arm) :
    ∃ n, run (other σ)
        { a with frame := some ⟨statusList root, calls, [], none⟩ }
        (List.replicate n .status) =
      some { (if calls = 0 then a else onGoalStatus σ root a) with
        frame := none } := by
  induction calls generalizing a with
  | zero => exact ⟨1, rfl⟩
  | succ calls ih =>
      obtain ⟨n, frame, hframe, hrun⟩ :=
        call_alone σ (statusList root) calls (statusList root) a
      have hcall : run (other σ)
          { a with frame := some ⟨statusList root, calls + 1, [], none⟩ }
          (List.replicate (n + 1) .status) =
            some { onGoalStatus σ root a with frame := frame } := hrun
      rw [if_neg (Nat.succ_ne_zero calls)]
      rcases hframe with rfl | rfl
      · exact ⟨n + 1, hcall⟩
      · obtain ⟨k, hrest⟩ := ih (onGoalStatus σ root a)
        refine ⟨n + 1 + k, ?_⟩
        rw [List.replicate_add, run_append, hcall, Option.bind_some, hrest,
          onGoalStatus_again, ite_self]

/-- A frame that nothing comes between does what `onFrame` says. -/
theorem frame_alone (σ : Setting) (root : Value) (called : ℕ) {a : Arm}
    (hframe : a.frame = none) :
    ∃ n, run (other σ) a (.frame root called :: List.replicate n .status) =
      some (onFrame σ root called a) := by
  have hbegin : other σ a (.frame root called) =
      some { a with frame := beginFrame σ root called a } := by
    rw [other, hframe]
    rfl
  simp only [run_cons, hbegin, Option.bind_some]
  unfold beginFrame onFrame
  cases topicOf σ.realText root with
  | none =>
      refine ⟨0, congrArg some ?_⟩
      rw [Option.map_none, ← hframe]
  | some topic =>
      obtain ⟨n, hrun⟩ := calls_alone σ root
        (((a.platform.dispatch topic).take called).filter
          (· = σ.handler)).length a
      refine ⟨n, hrun.trans (congrArg some ?_)⟩
      simp only [handlers_eq]
      split
      · rw [← hframe]
      · obtain ⟨done, cause, heq⟩ :=
          results_eq (goalResults σ.realText a.m_GoalId (statusList root)) a
        rw [onGoalStatus, heq, ← hframe]

/-- What the calls for a frame do, of which there may be any number. -/
theorem handlers_done (σ : Setting) (root : Value)
    (handlers : List MessageHandler) (a : Arm) :
    (handlers.foldl (fun b _ => onGoalStatus σ root b) a).m_GoalDone = true ↔
      a.m_GoalDone = true ∨ handlers ≠ [] ∧
        ∃ r ∈ goalResults σ.realText a.m_GoalId (statusList root), 3 ≤ r := by
  induction handlers generalizing a with
  | nil => simp
  | cons h handlers ih =>
      rw [List.foldl_cons, ih, onGoalStatus_done, onGoalStatus_goalId]
      simp only [ne_eq, List.cons_ne_nil, not_false_eq_true, true_and]
      rw [or_assoc, or_iff_left_of_imp And.right]

/-- In every run, a frame that reaches all handlers of its topic says that the
goal is done precisely where a move has been begun, the frame is of the goal
status and it has a result of three or more for the current goal. -/
theorem frame_done_iff (σ : Setting) (url : String) (o : SendOutcome)
    (evs : List (Event (List Joint) Bool Other)) :
    Throughout (Server.step (work σ))
      (fun s => ∀ root called,
        (s.world.platform.dispatch "/goal_status").length ≤ called →
        ((onFrame σ root called s.world).m_GoalDone = true ↔
          s.world.m_GoalDone = true ∨
            topicOf σ.realText root = some "/goal_status" ∧
            0 < s.world.moves ∧
            ∃ r ∈ goalResults σ.realText s.world.m_GoalId (statusList root),
              3 ≤ r))
      { world := { platform := RosPlatform.new url o } } evs := by
  refine (served_throughout σ url o evs).mono fun s h => ?_
  obtain ⟨rs, rest, -, hkept, -, -⟩ := h.kept
  intro root called hcalled
  unfold onFrame
  cases htopic : topicOf σ.realText root with
  | none => simp
  | some topic =>
      simp only [handlers_done, Option.some.injEq]
      have hsub := hkept.subscriptions topic
      rw [subscriptions] at hsub
      by_cases hgoal : topic = "/goal_status"
      · obtain rfl := hgoal
        rw [if_pos rfl, ← hkept.moves] at hsub
        rw [List.take_of_length_le hcalled, ← List.length_pos_iff, hsub]
        simp
      · rw [if_neg hgoal] at hsub
        have hnone := ((List.take_sublist called
          (s.world.platform.dispatch topic)).filter (· = σ.handler))
        rw [List.length_eq_zero_iff.mp hsub] at hnone
        rw [List.sublist_nil.mp hnone]
        simp [hgoal]

end RosMoveJointGesture

end SelfPlugins.Ros
