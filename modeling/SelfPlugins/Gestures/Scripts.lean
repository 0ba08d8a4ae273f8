import Mathlib.Algebra.Order.Ring.Rat
import SelfPlugins.Library.Serial

/-!
# Gestures that work through their requests

`NaoMoveJointGesture`, `NaoPostureGesture`, `NaoSystemGesture`,
`RaspiAnimateGesture` and `ABBMoveJointGesture` have no `Abort` that touches
their queue.  `Execute` starts a thread for the first request, the thread makes
a list of calls and queues a call of the gesture's `Done` whether or not one of
them has thrown, and `Done` pops the request and starts the thread of the next.
So each is a `Serial.Script`; the gestures differ in their calls and in what
they do about an exception.

`serial_gestures` says that they complete their requests one after the other
and which of them they report as failed.
-/

namespace SelfPlugins.Gestures

open Runs Serial

/-! ## The gestures of the NAO -/

/-- The calls of the services of the robot and of `NaoPlatform`;
`actionValue` waits for what `goToPosture` has started, `wait` for the motion of
a joint. -/
inductive NaoCall
  | service (name : String)
  | call (method : String)
  | setState (state : String)
  | disableExtraMovement
  | setFallManagerEnabled (enabled : Bool)
  | goToPosture (id : String) (speed : ℚ)
  | setPostureId (id : String)
  | actionValue
  | setStiffnesses (joint : String) (stiffness : ℚ)
  | angleInterpolation (joint : String) (angle speed : ℚ) (absolute : Bool)
  | wait (joint : String)
deriving DecidableEq

/-- `async` never throws, and nobody asks for the error of a future that is only
waited for.  Of `goToPosture` it is `action.value()` that throws. -/
def NaoCall.failure : NaoCall → Failure
  | .goToPosture _ _ => .none
  | .setPostureId _ => .none
  | .wait _ => .none
  | .setFallManagerEnabled _ => .ignored
  | .setStiffnesses _ _ => .ignored
  | .angleInterpolation _ _ _ _ => .ignored
  | _ => .thrown

/-- A joint, with its entries in `m_JointNames`, `m_fAngles` and `m_fSpeeds`. -/
structure Joint where
  name : String
  angle : ℚ
  speed : ℚ
deriving DecidableEq

/-- The members that the base class keeps for a request. -/
structure Move where
  joints : List Joint
  m_fStiffness : ℚ
  m_bAbsolute : Bool

namespace NaoMoveJointGesture

/-- The loop that starts the motions. -/
def begin (m : Move) (j : Joint) : List NaoCall :=
  [.setStiffnesses j.name m.m_fStiffness,
    .angleInterpolation j.name j.angle j.speed m.m_bAbsolute]

/-- `DoMoveThread` -/
def doMoveThread (m : Move) : List NaoCall :=
  [.disableExtraMovement, .service "ALMotion"] ++ m.joints.flatMap (begin m) ++
    m.joints.map (fun j => .wait j.name) ++
    m.joints.map (fun j => .setStiffnesses j.name 0)

/-- An exception marks `ActiveRequest()`. -/
def script : Script Move Unit NaoCall where
  mark := .front
  prepare _ m := m
  script m _ := (doMoveThread m, ())
  failure := NaoCall.failure

end NaoMoveJointGesture

namespace NaoPostureGesture

/-- The configuration of the gesture. -/
structure Config where
  m_PostureId : String
  m_fSpeed : ℚ
  m_bDisableFallManager : Bool

/-- `DoAnimateThread`; `SetPosture` is taken together with it. -/
def doAnimateThread (cfg : Config) : List NaoCall :=
  .service "ALMotion" ::
    if cfg.m_PostureId = "wakeUp" then
      [.call "wakeUp", .setPostureId "Stand"]
    else if cfg.m_PostureId = "rest" then
      [.call "rest", .setPostureId "Crouch"]
    else
      (if cfg.m_PostureId = "LyingBack" then
        [.service "ALAutonomousLife", .setState "disabled"]
      else []) ++
      [.setFallManagerEnabled !cfg.m_bDisableFallManager,
        .service "ALMotion", .call "stiffnessInterpolation",
        .service "ALRobotPosture", .goToPosture cfg.m_PostureId cfg.m_fSpeed,
        .setPostureId cfg.m_PostureId, .actionValue]

/-- An exception marks the request of the thread. -/
def script (cfg : Config) : Script Unit Unit NaoCall where
  mark := .own
  prepare _ m := m
  script _ _ := (doAnimateThread cfg, ())
  failure := NaoCall.failure

end NaoPostureGesture

namespace NaoSystemGesture

/-- `DoSystemThread` -/
def doSystemThread (m_SystemId : String) : List NaoCall :=
  [.service "ALSystem", .call m_SystemId]

/-- An exception is logged, and the request not marked. -/
def script (m_SystemId : String) : Script Unit Unit NaoCall where
  mark := .none
  prepare _ m := m
  script _ _ := (doSystemThread m_SystemId, ())
  failure := NaoCall.failure

end NaoSystemGesture

/-! ## The animation of the Raspberry Pi -/

namespace RaspiAnimateGesture

/-- The calls of the library for the pins, none of which throws. -/
inductive PinCall
  | wiringPiSetup
  | pinMode (pin : ℤ)
  | digitalWrite (pin : ℤ) (high : Bool)
  | delay (ms : ℕ)
deriving DecidableEq

/-- A round of the loop of `DoAnimateThread`. -/
def blink (m_PinNumber : ℤ) : List PinCall :=
  [.digitalWrite m_PinNumber true, .delay 200, .digitalWrite m_PinNumber false,
    .delay 200]

/-- `DoAnimateThread`, with the new `m_bWiredPi`. -/
def doAnimateThread (m_PinNumber : ℤ) (m_bWiredPi : Bool) :
    List PinCall × Bool :=
  ((if m_bWiredPi then [] else [.wiringPiSetup, .pinMode m_PinNumber]) ++
    (List.replicate 5 (blink m_PinNumber)).flatten, true)

def script (m_PinNumber : ℤ) : Script Unit Bool PinCall where
  mark := .none
  prepare _ m := m
  script _ m_bWiredPi := doAnimateThread m_PinNumber m_bWiredPi
  failure _ := .none

end RaspiAnimateGesture

/-! ## The joints of ABB -/

namespace ABBMoveJointGesture

/-- The message of `ABBPlatform::Send`. -/
structure Message where
  arm : String
  module : ℚ
deriving DecidableEq

/-- `DoMoveThread`, for the joint names and angles of a request. -/
def doMoveThread (joints : List (String × ℚ)) : List Message :=
  joints.map fun j => ⟨j.1, j.2⟩

/-- An exception marks `ActiveRequest()`. -/
def script : Script (List (String × ℚ)) Unit Message where
  mark := .front
  prepare _ m := m
  script joints _ := (doMoveThread joints, ())
  failure _ := .thrown

end ABBMoveJointGesture

/-! ## All of them -/

/-- A gesture that has not been called. -/
abbrev new {ρ μ γ : Type} (m : μ) : Server ρ (List γ) (Logged μ γ) :=
  { world := { members := m } }

/-- One request is worked on at a time, the requests are completed in the order
of the calls of `Execute`, and a completed request has `m_bError` set iff its
thread has thrown and the gesture marks it. -/
structure Orderly {ρ μ γ : Type} (marks : Bool)
    (s : Server ρ (List γ) (Logged μ γ)) : Prop where
  one : s.threads.length + s.dones.length ≤ 1
  working : s.requests ≠ [] → s.threads.length + s.dones.length = 1
  order : s.completed.map Entry.number = List.range s.completed.length
  requests : s.served ++ s.requests.map Entry.request = s.executed
  errors : ∀ e ∈ s.completed,
    e.error = true ↔ marks = true ∧ e.number ∈ s.thrown

section

variable {ρ μ γ : Type} {S : Script ρ μ γ} {s : Server ρ (List γ) (Logged μ γ)}

theorem orderly_of_ordered (hserving : Serving s) (h : Ordered S.work s) :
    Orderly (S.mark ≠ .none) s where
  one := by
    cases hserving with
    | resting _ hthreads hdones => simp [hthreads, hdones]
    | busy e rest _ hstage =>
        cases hstage with
        | pool hthreads hdones => simp [hthreads, hdones]
        | inside k hthreads hdones => simp [hthreads, hdones]
        | ended hthreads hdones => simp [hthreads, hdones]
  working := by
    intro hrequests
    cases hserving with
    | resting hnil => exact absurd hnil hrequests
    | busy e rest _ hstage =>
        cases hstage with
        | pool hthreads hdones => simp [hthreads, hdones]
        | inside k hthreads hdones => simp [hthreads, hdones]
        | ended hthreads hdones => simp [hthreads, hdones]
  order := by
    have hlen := congrArg List.length h.numbers
    rw [List.length_map, List.length_append, List.length_range] at hlen
    have htake := congrArg (List.take s.completed.length) h.numbers
    rw [List.map_append, List.take_left' (List.length_map _),
      List.take_range] at htake
    rw [htake, Nat.min_eq_left (by omega)]
  requests := by
    rw [Server.served, ← List.map_append]
    exact h.requests
  errors := by
    intro e he
    rw [h.errors e (List.mem_append_left _ he)]
    simp [Script.work]

theorem orderly_throughout (S : Script ρ μ γ) (m : μ)
    (evs : List (Event ρ Bool Empty)) :
    Throughout (Server.step S.work) (Orderly (S.mark ≠ .none)) (new m) evs :=
  (ordered_throughout S.work _ evs).mono fun _ hs =>
    orderly_of_ordered hs.1 hs.2

end

/-- The gestures that mark a request whose thread throws, and those that report
success in any case. -/
theorem serial_gestures (cfg : NaoPostureGesture.Config) (m_SystemId : String)
    (m_PinNumber : ℤ) (wired : Bool) :
    (∀ evs, Throughout (Server.step NaoMoveJointGesture.script.work)
      (Orderly true) (new ()) evs) ∧
    (∀ evs, Throughout (Server.step (NaoPostureGesture.script cfg).work)
      (Orderly true) (new ()) evs) ∧
    (∀ evs, Throughout (Server.step ABBMoveJointGesture.script.work)
      (Orderly true) (new ()) evs) ∧
    (∀ evs, Throughout (Server.step (NaoSystemGesture.script m_SystemId).work)
      (Orderly false) (new ()) evs) ∧
    (∀ evs, Throughout
      (Server.step (RaspiAnimateGesture.script m_PinNumber).work)
      (Orderly false) (new wired) evs) :=
  ⟨orderly_throughout _ (), orderly_throughout _ (), orderly_throughout _ (),
    orderly_throughout _ (), orderly_throughout _ wired⟩

/-! ## The end of the requests -/

/-- A gesture takes `n` steps at most for each request, and can take one as long
as it has a request. -/
def Drains {ρ μ γ : Type} (S : Script ρ μ γ) (m : μ) (n : ℕ) : Prop :=
  ∀ evs s, run (Server.step S.work) (new m) evs = some s →
    evs.countP Event.isWork ≤ n * evs.countP Event.isExecute ∧
      (s.requests ≠ [] → ∀ fails,
        (Server.step S.work s (.thread 0 fails)).isSome = true ∨
          (Server.step S.work s (.done 0)).isSome = true)

theorem drains_of_length {ρ μ γ : Type} {S : Script ρ μ γ} (m : μ) (n : ℕ)
    (hn : ∀ r m, (S.script r m).1.length ≤ n) : Drains S m (n + 3) := by
  intro evs s hrun
  refine ⟨drains (S.bounded n hn) hrun, fun hrequests fails => ?_⟩
  have hserving : Serving s := by
    refine invariant_of_reaches (fun _ _ _ hs ht => hs.step ht)
      (serving_new _) ⟨evs, hrun⟩
  exact hserving.progress hrequests (fun _ => rfl) fails

theorem length_posture (cfg : NaoPostureGesture.Config) :
    (NaoPostureGesture.doAnimateThread cfg).length ≤ 10 := by
  unfold NaoPostureGesture.doAnimateThread
  split
  · decide
  · split
    · simp
    · split <;> simp

theorem length_animate (pin : ℤ) (wired : Bool) :
    (RaspiAnimateGesture.doAnimateThread pin wired).1.length ≤ 22 := by
  cases wired <;> simp [RaspiAnimateGesture.doAnimateThread,
    RaspiAnimateGesture.blink]

/-- The gestures whose calls do not depend on the request. -/
theorem gestures_drain (cfg : NaoPostureGesture.Config) (m_SystemId : String)
    (m_PinNumber : ℤ) (wired : Bool) :
    Drains (NaoPostureGesture.script cfg) () 13 ∧
      Drains (NaoSystemGesture.script m_SystemId) () 5 ∧
      Drains (RaspiAnimateGesture.script m_PinNumber) wired 25 :=
  ⟨drains_of_length _ 10 fun _ _ => length_posture cfg,
    drains_of_length _ 2 fun _ _ => Nat.le_refl 2,
    drains_of_length _ 22 fun _ wired => length_animate m_PinNumber wired⟩

end SelfPlugins.Gestures
