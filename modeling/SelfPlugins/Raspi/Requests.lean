import Mathlib.Data.List.Chain
import SelfPlugins.Library.Serial
import SelfPlugins.Raspi.MoveJoint

/-!
# The requests for the arm

`RaspiMoveJointGesture` queues its requests.  The thread of a request sets up
the pin, if no thread has done so, and calls `MoveArm`, which goes on from
where the thread before has left the arm.

A request is its angle, which the base class keeps in the member `m_fAngles`
while the request is in front, and one gesture of the class is at work: the
state of the arm is a static member, which a second one would change too.

`arm_followed` says that, however requests, threads and calls of
`MoveJointDone` are interleaved, the arm does what it does for one request
after the other (`Arm.step`): the pin is created once, before anything is
written to it, and no value written differs by more than 1 from the one before.
-/

namespace SelfPlugins.Raspi

open Runs Serial

namespace RaspiMoveJointGesture

/-! ## Translated functions -/

/-- The calls of the libraries for the pins, none of which throws. -/
inductive PinCall
  | wiringPiSetup
  | softPwmCreate (pin initial range : ℤ)
  | softPwmWrite (pin value : ℤ)
  | delay (ms : ℕ)
deriving DecidableEq

/-- The members that the threads change; `m_CurrentPWMArmState` is static. -/
structure Members where
  m_bWiredPi : Bool := false
  m_CurrentPWMArmState : ℤ := 0

/-- A round of a loop of `MoveArm`. -/
def round (m_PinNumber i : ℤ) : List PinCall :=
  [.softPwmWrite m_PinNumber i, .delay 10]

/-- A loop of `MoveArm` with the call that follows it. -/
def sweepCalls (m_PinNumber : ℤ) (s : Sweep) : ℤ × List PinCall :=
  (s.m_CurrentPWMArmState,
    s.writes.flatMap (round m_PinNumber) ++ [.wiringPiSetup])

/-- `MoveArm`: the new state of the arm, and the calls. -/
def moveArm (m_PinNumber target current : ℤ) :
    Option (ℤ × List PinCall) := do
  let up ← if target > current then
      (moveUpward target current).map (sweepCalls m_PinNumber)
    else some (current, [])
  let down ← if target < up.1 then
      (moveDownward target up.1).map (sweepCalls m_PinNumber)
    else some (up.1, [])
  return (down.1, up.2 ++ down.2)

/-- The calls of `MoveJointThread` before `MoveArm`, for the first request. -/
def create (m_PinNumber : ℤ) : List PinCall :=
  [.wiringPiSetup, .softPwmCreate m_PinNumber 0 pwmRange]

/-- `MoveJointThread`, for the first angle of a request.  `MoveArm` has an
outcome (`moveArm_spec`). -/
def moveJointThread (m_PinNumber : ℤ) (angle : ℚ) (m : Members) :
    List PinCall × Members :=
  let arm := (moveArm m_PinNumber (pwmValue angle)
    m.m_CurrentPWMArmState).getD (m.m_CurrentPWMArmState, [])
  ((if m.m_bWiredPi then [] else create m_PinNumber) ++ arm.2,
    ⟨true, arm.1⟩)

def script (m_PinNumber : ℤ) : Script ℚ Members PinCall where
  mark := .none
  prepare _ m := m
  script := moveJointThread m_PinNumber
  failure _ := .none

/-! ## The calls of a request -/

def PinCall.value? : PinCall → Option ℤ
  | .softPwmWrite _ value => some value
  | _ => none

/-- The values written. -/
def writes (cs : List PinCall) : List ℤ := cs.filterMap PinCall.value?

@[simp] theorem writes_nil : writes [] = [] := rfl

@[simp] theorem writes_append (cs ds : List PinCall) :
    writes (cs ++ ds) = writes cs ++ writes ds := List.filterMap_append

@[simp] theorem writes_create (pin : ℤ) : writes (create pin) = [] := rfl

theorem writes_rounds (pin : ℤ) (is : List ℤ) :
    writes (is.flatMap (round pin)) = is := by
  induction is with
  | nil => rfl
  | cons i is ih =>
      rw [List.flatMap_cons, writes_append, ih]
      rfl

/-- A call on the pin that has been created. -/
def PinCall.drives (pin : ℤ) : PinCall → Bool
  | .softPwmCreate _ _ _ => false
  | .softPwmWrite p _ => p == pin
  | _ => true

theorem drives_sweepCalls (pin : ℤ) (s : Sweep) :
    ∀ c ∈ (sweepCalls pin s).2, c.drives pin = true := by
  intro c hc
  rcases List.mem_append.mp hc with hc | hc
  · obtain ⟨i, -, hc⟩ := List.mem_flatMap.mp hc
    rcases List.mem_cons.mp hc with rfl | hc
    · exact beq_self_eq_true pin
    · rw [List.mem_singleton.mp hc]
      rfl
  · rw [List.mem_singleton.mp hc]
    rfl

theorem writes_sweepCalls (pin : ℤ) (s : Sweep) :
    writes (sweepCalls pin s).2 = s.writes := by
  rw [sweepCalls, writes_append, writes_rounds]
  exact List.append_nil _

/-- `MoveArm` writes the values of the arm it is followed by. -/
theorem moveArm_spec (pin target current : ℤ) :
    ∃ cs, moveArm pin target current = some (target, cs) ∧
      writes cs = sweep current target ∧
      ∀ c ∈ cs, c.drives pin = true := by
  rcases lt_trichotomy current target with h | rfl | h
  · obtain ⟨s, hs, hcurrent, hwrites⟩ := moveUpward_eq h
    refine ⟨(sweepCalls pin s).2, ?_, ?_, drives_sweepCalls pin s⟩
    · simp [moveArm, sweepCalls, h, hs, hcurrent]
    · rw [writes_sweepCalls, hwrites, sweep, if_pos h]
  · refine ⟨[], by simp [moveArm], by simp [sweep], fun c hc => ?_⟩
    exact absurd hc List.not_mem_nil
  · obtain ⟨s, hs, hcurrent, hwrites⟩ := moveDownward_eq h
    refine ⟨(sweepCalls pin s).2, ?_, ?_, drives_sweepCalls pin s⟩
    · simp [moveArm, sweepCalls, h, h.not_gt, hs, hcurrent]
    · rw [writes_sweepCalls, hwrites, sweep, if_neg h.not_gt, if_pos h]

/-! ## The arm -/

/-- Each value differs by 1 at most from the one before, and the first from
0. -/
def Steady (is : List ℤ) : Prop :=
  (0 :: is).IsChain fun x y => |y - x| ≤ 1

theorem steady_of_first {is js : List ℤ} (h : Steady js) (his : is <+: js) :
    Steady is := by
  obtain ⟨ks, rfl⟩ := his
  have hall : ((0 :: is) ++ ks).IsChain fun x y => |y - x| ≤ 1 := h
  exact hall.left_of_append

theorem isChain_sweep (a b : ℤ) :
    (sweep a b).IsChain (fun x y => |y - x| ≤ 1) ∧
      ∀ x ∈ (sweep a b).head?, x = a := by
  have hrun := isRun_sweep a b
  rw [IsRun] at hrun
  split at hrun
  · rw [hrun]
    refine ⟨.nil, fun x hx => ?_⟩
    cases hx
  · obtain ⟨hhead, -, hchain⟩ := hrun
    refine ⟨hchain.imp fun _ _ h => h.le, fun x hx => ?_⟩
    rw [hhead] at hx
    exact (Option.mem_some_iff.mp hx).symm

/-- A sweep from the value written last. -/
theorem steady_sweep {is : List ℤ} (h : Steady is) (target : ℤ) :
    Steady (is ++ sweep (is.getLast?.getD 0) target) := by
  obtain ⟨hchain, hhead⟩ := isChain_sweep (is.getLast?.getD 0) target
  have hjoin : ∀ x ∈ (0 :: is).getLast?,
      ∀ y ∈ (sweep (is.getLast?.getD 0) target).head?, |y - x| ≤ 1 := by
    intro x hx y hy
    rw [List.getLast?_cons, Option.mem_some_iff] at hx
    rw [hhead y hy, hx, sub_self, abs_zero]
    exact zero_le_one
  have hall : (0 :: is).IsChain fun x y => |y - x| ≤ 1 := h
  exact hall.append hchain hjoin

theorem last_sweep (is : List ℤ) (target : ℤ) :
    (is ++ sweep (is.getLast?.getD 0) target).getLast?.getD 0 = target := by
  have hlast := getLast?_sweep (is.getLast?.getD 0) target
  rw [List.getLast?_append]
  cases hsweep : (sweep (is.getLast?.getD 0) target).getLast? with
  | none =>
      rw [hsweep] at hlast
      rw [Option.none_or]
      exact hlast
  | some w =>
      rw [hsweep] at hlast
      exact hlast

/-- The arm, and the members and calls that have brought it where it is. -/
structure Follows (pin : ℤ) (arm : Arm) (m : Members) (cs : List PinCall) :
    Prop where
  current : m.m_CurrentPWMArmState = arm.m_CurrentPWMArmState
  moves : writes cs = arm.moves.flatMap Prod.snd
  steady : Steady (writes cs)
  last : (writes cs).getLast?.getD 0 = arm.m_CurrentPWMArmState
  created : if m.m_bWiredPi then
      ∃ rest, cs = create pin ++ rest ∧ ∀ c ∈ rest, c.drives pin = true
    else cs = []

theorem follows_new (pin : ℤ) : Follows pin {} {} [] where
  current := rfl
  moves := rfl
  steady := .singleton 0
  last := rfl
  created := rfl

/-- A request moves the arm as `Arm.step` does. -/
theorem Follows.step {pin : ℤ} {arm : Arm} {m : Members}
    {cs : List PinCall} (h : Follows pin arm m cs) (angle : ℚ) :
    ∃ arm', arm.step angle = some arm' ∧
      Follows pin arm' (moveJointThread pin angle m).2
        (cs ++ (moveJointThread pin angle m).1) := by
  obtain ⟨moved, hmoved, hwrites, hdrives⟩ :=
    moveArm_spec pin (pwmValue angle) m.m_CurrentPWMArmState
  have hthread : moveJointThread pin angle m =
      ((if m.m_bWiredPi then [] else create pin) ++ moved,
        ⟨true, pwmValue angle⟩) := by
    simp [moveJointThread, hmoved]
  have hcalls : writes (cs ++ (moveJointThread pin angle m).1) =
      writes cs ++ sweep arm.m_CurrentPWMArmState (pwmValue angle) := by
    rw [hthread, writes_append, writes_append, hwrites, h.current]
    split <;> simp
  refine ⟨_, by rw [Arm.step, moveArm_eq, Option.map_some], ?_⟩
  rw [hthread] at hcalls ⊢
  refine ⟨rfl, ?_, ?_, ?_, ?_⟩
  · rw [hcalls, h.moves, List.flatMap_append, List.flatMap_singleton]
  · rw [hcalls, ← h.last]
    exact steady_sweep h.steady _
  · rw [hcalls, ← h.last]
    exact last_sweep _ _
  · have hcreated := h.created
    rw [if_pos rfl]
    split at hcreated
    · next hwired =>
      obtain ⟨rest, hcs, hrest⟩ := hcreated
      refine ⟨rest ++ moved, ?_, List.forall_mem_append.mpr ⟨hrest, hdrives⟩⟩
      rw [hcs, if_pos hwired, List.nil_append, List.append_assoc]
    · next hwired =>
      refine ⟨moved, ?_, hdrives⟩
      rw [hcreated, if_neg hwired, List.nil_append]

theorem served_follows {pin : ℤ} {rs : List ℚ} {m : Members}
    {calls : List (PinCall × Bool)}
    (h : Served (script pin) {} rs m calls) :
    ∃ arm, run Arm.step {} rs = some arm ∧
      Follows pin arm m (calls.map Prod.fst) := by
  induction h with
  | nil => exact ⟨{}, rfl, follows_new pin⟩
  | @snoc rs m calls block angle _ hblock ih =>
      obtain ⟨arm, hrun, hfollows⟩ := ih
      obtain ⟨arm', hstep, hfollows'⟩ := hfollows.step angle
      refine ⟨arm', ?_, ?_⟩
      · rw [run_append, hrun, Option.bind_some, run_cons, hstep]
        rfl
      · have hblock' : block.map Prod.fst = (moveJointThread pin angle m).1 :=
          hblock.calls fun _ => nofun
        rw [List.map_append, hblock']
        exact hfollows'

/-! ## Runs -/

/-- The calls are those of an arm that serves the requests one by one, to the
end when no request is left.  The pin is created first, the other calls are on
it, and the values written are steady. -/
structure Followed (pin : ℤ)
    (s : Server ℚ (List PinCall) (Logged Members PinCall)) : Prop where
  sofar : ∃ arm, run Arm.step {} s.executed = some arm ∧
    writes (s.world.calls.map Prod.fst) <+: arm.moves.flatMap Prod.snd
  rest : s.requests = [] → ∃ arm, run Arm.step {} s.executed = some arm ∧
    s.world.members.m_CurrentPWMArmState = arm.m_CurrentPWMArmState ∧
    writes (s.world.calls.map Prod.fst) = arm.moves.flatMap Prod.snd
  created : ∃ rest, s.world.calls.map Prod.fst <+: create pin ++ rest ∧
    ∀ c ∈ rest, c.drives pin = true
  steady : Steady (writes (s.world.calls.map Prod.fst))

/-- The first calls of a sequential program. -/
theorem followed_of_first {pin : ℤ}
    {s : Server ℚ (List PinCall) (Logged Members PinCall)} {m : Members}
    {calls : List (PinCall × Bool)}
    (h : Served (script pin) {} s.executed m calls)
    (hfirst : s.world.calls <+: calls)
    (hrest : s.requests = [] → Served (script pin) {} s.executed
      s.world.members s.world.calls) : Followed pin s := by
  obtain ⟨arm, hrun, hfollows⟩ := served_follows h
  have hcalls := hfirst.map Prod.fst
  have hwrites : writes (s.world.calls.map Prod.fst) <+:
      writes (calls.map Prod.fst) := hcalls.filterMap _
  refine ⟨⟨arm, hrun, hfollows.moves ▸ hwrites⟩, fun hnil => ?_, ?_,
    steady_of_first hfollows.steady hwrites⟩
  · obtain ⟨arm', hrun', hfollows'⟩ := served_follows (hrest hnil)
    exact ⟨arm', hrun', hfollows'.current, hfollows'.moves⟩
  · have hcreated := hfollows.created
    split at hcreated
    · obtain ⟨rest, hcs, hdrives⟩ := hcreated
      exact ⟨rest, hcs ▸ hcalls, hdrives⟩
    · rw [hcreated] at hcalls
      refine ⟨[], hcalls.trans List.nil_prefix, fun c hc => ?_⟩
      exact absurd hc List.not_mem_nil

/-- However requests, threads and calls of `MoveJointDone` are interleaved. -/
theorem arm_followed (m_PinNumber : ℤ) (evs : List (Event ℚ Bool Empty)) :
    Throughout (Server.step (script m_PinNumber).work)
      (Followed m_PinNumber) { world := { members := {} } } evs := by
  refine ((script m_PinNumber).throughout {} evs).mono fun s hs => ?_
  obtain ⟨m, calls, hserved, hfirst⟩ := hs.1.sequential hs.2
  exact followed_of_first hserved hfirst (hs.1.served hs.2)

end RaspiMoveJointGesture

end SelfPlugins.Raspi
