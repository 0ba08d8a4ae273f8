import Mathlib.Algebra.Order.Ring.Abs
import Mathlib.Data.List.Range
import Mathlib.Data.Rat.Floor
import Mathlib.Tactic.Linarith
import SelfPlugins.Library.Loops
import SelfPlugins.Library.Runs

/-!
# The arm of the Raspberry Pi

`RaspiMoveJointGesture` drives the arm by values written to a pin.  A request
gives an angle, `PWMValue` makes a target of it, and `MoveArm` goes through the
values from the last target to the new one, upward or downward.  The angle is
taken modulo a full turn and scaled to 100, but the pin was created with a
range of 50.

The writes of a request are always a run from target to target;
`drives_iff` says when they are also within the range of the pin.
-/

namespace SelfPlugins.Raspi

open Runs

/-! ## Translated functions -/

/-- `(int)`, for any number. -/
def truncate (q : ℚ) : ℤ := q.num.tdiv q.den

def pwmValue (angle : ℚ) : ℤ :=
  truncate ((((truncate angle).natAbs % 360 : ℕ) : ℚ) / 360 * 100)

/-- The range given to `softPwmCreate`. -/
def pwmRange : ℤ := 50

/-- The variables of a loop of `MoveArm`, and what has been written. -/
structure Sweep where
  i : ℤ
  m_CurrentPWMArmState : ℤ
  writes : List ℤ

/-- A round of a loop, which goes on while `more` and changes `i` by `d`. -/
def Sweep.round (more : ℤ → Bool) (d target : ℤ) (s : Sweep) : Option Sweep :=
  if more s.i then some ⟨s.i + d, target, s.writes ++ [s.i]⟩ else none

/-- The number of tests of the loop condition. -/
def tests (target current : ℤ) : ℕ := (target - current).natAbs + 2

/-- The first loop. -/
def moveUpward (target current : ℤ) : Option Sweep :=
  loop (Sweep.round (· ≤ target) 1 target) (tests target current)
    ⟨current, current, []⟩

/-- The second loop. -/
def moveDownward (target current : ℤ) : Option Sweep :=
  loop (Sweep.round (target ≤ ·) (-1) target) (tests target current)
    ⟨current, current, []⟩

/-- `MoveArm`: the new state of the arm, and the writes. -/
def moveArm (target current : ℤ) : Option (ℤ × List ℤ) := do
  let s ← if target > current then moveUpward target current
    else some ⟨current, current, []⟩
  let t ← if target < s.m_CurrentPWMArmState then
      moveDownward target s.m_CurrentPWMArmState
    else some ⟨s.m_CurrentPWMArmState, s.m_CurrentPWMArmState, []⟩
  return (t.m_CurrentPWMArmState, s.writes ++ t.writes)

/-- The state of the arm, and the requests with what was written for each. -/
structure Arm where
  m_CurrentPWMArmState : ℤ := 0
  moves : List (ℚ × List ℤ) := []

/-- A request. -/
def Arm.step (s : Arm) (angle : ℚ) : Option Arm :=
  (moveArm (pwmValue angle) s.m_CurrentPWMArmState).map
    fun (current, writes) => ⟨current, s.moves ++ [(angle, writes)]⟩

/-! ## Loops -/

/-- The values from `a` on, by steps of `d`. -/
def values (a d : ℤ) (n : ℕ) : List ℤ :=
  (List.range n).map fun k : ℕ => a + d * (k : ℤ)

theorem values_succ (a d : ℤ) (n : ℕ) :
    values a d (n + 1) = values a d n ++ [a + d * n] := by
  rw [values, List.range_succ, List.map_append]
  rfl

theorem length_values (a d : ℤ) (n : ℕ) : (values a d n).length = n := by
  rw [values, List.length_map, List.length_range]

/-- A loop that goes on for the first `n + 1` values writes them. -/
theorem loop_round {more : ℤ → Bool} (d target a : ℤ) (n : ℕ)
    (hmore : ∀ k : ℕ, more (a + d * k) = true ↔ k ≤ n) {fuel : ℕ}
    (hfuel : n + 1 < fuel) :
    ∃ s, loop (Sweep.round more d target) fuel ⟨a, a, []⟩ = some s ∧
      s.m_CurrentPWMArmState = target ∧ s.writes = values a d (n + 1) := by
  -- After `k` rounds the first `k` values have been written.
  let inv (s : Sweep) : Prop := ∃ k ≤ n + 1, s.i = a + d * (k : ℤ) ∧
    s.writes = values a d k ∧ (0 < k → s.m_CurrentPWMArmState = target)
  have hround : ∀ s t, inv s → Sweep.round more d target s = some t →
      inv t ∧ n + 1 - t.writes.length < n + 1 - s.writes.length := by
    rintro s t ⟨k, -, hi, hwrites, -⟩ hst
    obtain ⟨hgo, hst⟩ := Option.ite_none_right_eq_some.mp hst
    obtain rfl := Option.some.inj hst
    rw [hi, hmore] at hgo
    refine ⟨⟨k + 1, by omega, ?_, ?_, fun _ => rfl⟩, ?_⟩
    · rw [hi]
      push_cast
      ring
    · rw [values_succ, hwrites, hi]
    · simp only [hwrites, List.length_append, length_values,
        List.length_singleton]
      omega
  have hstart : inv ⟨a, a, []⟩ :=
    ⟨0, Nat.zero_le _, by simp, rfl, fun h => absurd h (Nat.lt_irrefl 0)⟩
  obtain ⟨s, hs, ⟨k, hk, hi, hwrites, hcurrent⟩, hend⟩ :=
    loop_spec (fun s => n + 1 - s.writes.length) hround hstart
      (by simpa using hfuel)
  have hstop : ¬k ≤ n := by
    rw [← hmore, ← hi]
    intro hgo
    rw [Sweep.round, if_pos hgo] at hend
    cases hend
  obtain rfl : k = n + 1 := by omega
  exact ⟨s, hs, hcurrent (Nat.succ_pos n), hwrites⟩

theorem moveUpward_eq {target current : ℤ} (h : current < target) :
    ∃ s, moveUpward target current = some s ∧
      s.m_CurrentPWMArmState = target ∧
      s.writes = values current 1 ((target - current).natAbs + 1) :=
  loop_round 1 target current (target - current).natAbs
    (fun k => by rw [decide_eq_true_iff]; omega) (Nat.lt_succ_self _)

theorem moveDownward_eq {target current : ℤ} (h : target < current) :
    ∃ s, moveDownward target current = some s ∧
      s.m_CurrentPWMArmState = target ∧
      s.writes = values current (-1) ((target - current).natAbs + 1) :=
  loop_round (-1) target current (target - current).natAbs
    (fun k => by rw [decide_eq_true_iff]; omega) (Nat.lt_succ_self _)

/-- The values from one target to another, both included. -/
def sweep (a b : ℤ) : List ℤ :=
  if a < b then values a 1 ((b - a).natAbs + 1)
  else if b < a then values a (-1) ((b - a).natAbs + 1)
  else []

/-- `MoveArm` goes from the last target to the new one. -/
theorem moveArm_eq (target current : ℤ) :
    moveArm target current = some (target, sweep current target) := by
  rcases lt_trichotomy current target with h | rfl | h
  · obtain ⟨s, hs, hcurrent, hwrites⟩ := moveUpward_eq h
    simp [moveArm, sweep, h, hs, hcurrent, hwrites]
  · simp [moveArm, sweep]
  · obtain ⟨s, hs, hcurrent, hwrites⟩ := moveDownward_eq h
    simp [moveArm, sweep, h, h.not_gt, hs, hcurrent, hwrites]

/-! ## Requests -/

/-- What is to be written for a request: nothing, if the target is the one
before, else a run from one to the other by steps of 1. -/
def IsRun (a b : ℤ) (writes : List ℤ) : Prop :=
  if a = b then writes = []
  else writes.head? = some a ∧ writes.getLast? = some b ∧
    writes.IsChain fun x y => |y - x| = 1

/-- Each request is a run from the target before it. -/
def Smooth : ℤ → List (ℚ × List ℤ) → Prop
  | _, [] => True
  | target, (angle, writes) :: moves =>
      IsRun target (pwmValue angle) writes ∧ Smooth (pwmValue angle) moves

/-- The arm has been driven as it should be. -/
structure Arm.Driven (s : Arm) : Prop where
  smooth : Smooth 0 s.moves
  current : s.m_CurrentPWMArmState =
    (s.moves.flatMap Prod.snd).getLast?.getD 0
  inRange : ∀ m ∈ s.moves, ∀ w ∈ m.2, 0 ≤ w ∧ w ≤ pwmRange

/-- The moves for the requests that follow a target. -/
def movesFrom : ℤ → List ℚ → List (ℚ × List ℤ)
  | _, [] => []
  | target, angle :: angles =>
      (angle, sweep target (pwmValue angle)) ::
        movesFrom (pwmValue angle) angles

/-- The target after the requests. -/
def lastTarget : ℤ → List ℚ → ℤ
  | target, [] => target
  | _, angle :: angles => lastTarget (pwmValue angle) angles

theorem run_step (s : Arm) (angles : List ℚ) :
    run Arm.step s angles =
      some ⟨lastTarget s.m_CurrentPWMArmState angles,
        s.moves ++ movesFrom s.m_CurrentPWMArmState angles⟩ := by
  induction angles generalizing s with
  | nil => simp [lastTarget, movesFrom]
  | cons angle angles ih =>
      rw [run_cons, Arm.step, moveArm_eq, Option.map_some, Option.bind_some,
        ih, lastTarget, movesFrom, List.append_assoc]
      rfl

/-- Going on from the first value by steps of 1, `sweep` ends at the last. -/
theorem isRun_sweep (a b : ℤ) : IsRun a b (sweep a b) := by
  have hvalues : ∀ d : ℤ, |d| = 1 → a + d * (b - a).natAbs = b →
      (values a d ((b - a).natAbs + 1)).head? = some a ∧
      (values a d ((b - a).natAbs + 1)).getLast? = some b ∧
      (values a d ((b - a).natAbs + 1)).IsChain fun x y => |y - x| = 1 := by
    intro d hd hlast
    refine ⟨by simp [values, List.range_succ_eq_map], ?_, ?_⟩
    · rw [values_succ, List.getLast?_concat, hlast]
    · rw [values, List.isChain_map, List.isChain_range_succ]
      intro k _
      rw [← hd]
      congr 1
      push_cast
      ring
  rw [IsRun, sweep]
  rcases lt_trichotomy a b with h | rfl | h
  · rw [if_neg h.ne, if_pos h]
    exact hvalues 1 rfl (by omega)
  · simp
  · rw [if_neg h.ne', if_neg h.not_gt, if_pos h]
    exact hvalues (-1) rfl (by omega)

theorem smooth_movesFrom (target : ℤ) (angles : List ℚ) :
    Smooth target (movesFrom target angles) := by
  induction angles generalizing target with
  | nil => trivial
  | cons angle angles ih => exact ⟨isRun_sweep _ _, ih _⟩

theorem getLast?_sweep (a b : ℤ) : (sweep a b).getLast?.getD a = b := by
  have hrun := isRun_sweep a b
  rw [IsRun] at hrun
  split at hrun
  · next h => rw [hrun, h]; rfl
  · rw [hrun.2.1]; rfl

/-- The last value written is the last target. -/
theorem lastTarget_eq (target : ℤ) (angles : List ℚ) :
    lastTarget target angles =
      ((movesFrom target angles).flatMap Prod.snd).getLast?.getD target := by
  induction angles generalizing target with
  | nil => rfl
  | cons angle angles ih =>
      rw [lastTarget, ih, movesFrom, List.flatMap_cons, List.getLast?_append]
      cases ((movesFrom (pwmValue angle) angles).flatMap Prod.snd).getLast? with
      | none => exact (getLast?_sweep _ _).symm
      | some w => rfl

/-! ## The range -/

theorem truncate_of_nonneg {q : ℚ} (hq : 0 ≤ q) : truncate q = ⌊q⌋ := by
  rw [truncate, Int.tdiv_eq_ediv_of_nonneg (Rat.num_nonneg.mpr hq),
    Rat.floor_def']

theorem scaled_nonneg (m : ℕ) : 0 ≤ (m : ℚ) / 360 * 100 :=
  mul_nonneg (div_nonneg m.cast_nonneg (by norm_num)) (by norm_num)

theorem pwmValue_nonneg (angle : ℚ) : 0 ≤ pwmValue angle := by
  rw [pwmValue, truncate_of_nonneg (scaled_nonneg _)]
  exact Int.floor_nonneg.mpr (scaled_nonneg _)

/-- 183 degrees are scaled to 50, and 184 to 51. -/
theorem pwmValue_le_iff (angle : ℚ) :
    pwmValue angle ≤ pwmRange ↔ (truncate angle).natAbs % 360 ≤ 183 := by
  generalize hm : (truncate angle).natAbs % 360 = m
  have hlt : pwmValue angle < 51 ↔ (m : ℚ) / 360 * 100 < 51 := by
    rw [pwmValue, hm, truncate_of_nonneg (scaled_nonneg _), Int.floor_lt]
    norm_num
  rw [pwmRange, ← Int.lt_add_one_iff]
  norm_num only
  rw [hlt]
  constructor
  · intro h
    have hcast : (m : ℚ) < 184 := by linarith
    have hnat : m < 184 := by exact_mod_cast hcast
    omega
  · intro h
    have hcast : (m : ℚ) ≤ 183 := by exact_mod_cast h
    linarith

theorem mem_sweep {a b w : ℤ} (h : w ∈ sweep a b) :
    min a b ≤ w ∧ w ≤ max a b := by
  rw [sweep] at h
  split at h
  · obtain ⟨k, hk, rfl⟩ := List.mem_map.mp h
    rw [List.mem_range] at hk
    omega
  · split at h
    · obtain ⟨k, hk, rfl⟩ := List.mem_map.mp h
      rw [List.mem_range] at hk
      omega
    · cases h

/-- The writes of a request that follows a target in the range are in the range
precisely if the new target is. -/
theorem sweep_inRange_iff {a b : ℤ} (ha : 0 ≤ a ∧ a ≤ pwmRange)
    (hb : 0 ≤ b) :
    (∀ w ∈ sweep a b, 0 ≤ w ∧ w ≤ pwmRange) ↔ b ≤ pwmRange := by
  constructor
  · intro h
    have hlast := getLast?_sweep a b
    cases hsweep : (sweep a b).getLast? with
    | none =>
        rw [hsweep, Option.getD_none] at hlast
        exact hlast ▸ ha.2
    | some w =>
        rw [hsweep, Option.getD_some] at hlast
        exact hlast ▸ (h w (List.mem_of_getLast? hsweep)).2
  · intro h w hw
    obtain ⟨hmin, hmax⟩ := mem_sweep hw
    exact ⟨(le_min ha.1 hb).trans hmin, hmax.trans (max_le ha.2 h)⟩

theorem movesFrom_inRange_iff {target : ℤ}
    (htarget : 0 ≤ target ∧ target ≤ pwmRange) (angles : List ℚ) :
    (∀ m ∈ movesFrom target angles, ∀ w ∈ m.2, 0 ≤ w ∧ w ≤ pwmRange) ↔
      ∀ angle ∈ angles, (truncate angle).natAbs % 360 ≤ 183 := by
  induction angles generalizing target with
  | nil => simp [movesFrom]
  | cons angle angles ih =>
      have hnonneg := pwmValue_nonneg angle
      rw [movesFrom, List.forall_mem_cons, List.forall_mem_cons,
        sweep_inRange_iff htarget hnonneg, ← pwmValue_le_iff]
      exact and_congr_right fun hle => ih ⟨hnonneg, hle⟩

/-- For every sequence of requests the arm is driven, as it should be precisely
if no angle comes to more than 183 degrees. -/
theorem drives_iff (angles : List ℚ) :
    (∃ s, run Arm.step {} angles = some s ∧ s.Driven) ↔
      ∀ angle ∈ angles, (truncate angle).natAbs % 360 ≤ 183 := by
  have hstart : 0 ≤ (0 : ℤ) ∧ (0 : ℤ) ≤ pwmRange := by decide
  rw [← movesFrom_inRange_iff hstart]
  constructor
  · rintro ⟨s, hs, hdriven⟩
    obtain rfl := Option.some.inj ((run_step {} angles).symm.trans hs)
    exact hdriven.inRange
  · intro h
    exact ⟨_, run_step {} angles, smooth_movesFrom 0 angles,
      lastTarget_eq 0 angles, h⟩

/-- Three quarters of a turn are scaled to 75. -/
theorem not_always_drives :
    ¬∃ s, run Arm.step {} [270] = some s ∧ s.Driven := by
  rintro ⟨s, hs, hdriven⟩
  obtain rfl := Option.some.inj ((run_step {} [270]).symm.trans hs)
  have hall := (movesFrom_inRange_iff (by decide) [270]).mp hdriven.inRange
  exact absurd (hall 270 List.mem_cons_self) (by decide)

end SelfPlugins.Raspi
