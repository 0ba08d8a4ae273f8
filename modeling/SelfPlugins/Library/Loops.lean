import Mathlib.Data.Nat.Notation

/-!
# Loops

A loop is given by one round of its body: `round s = none` says that the loop
condition fails in the state `s`.  `loop` runs it for at most `fuel` rounds
and fails if that is not enough.  `loop_spec` is the rule for loops: an
invariant kept by every round and a measure that every round decreases give
termination and the invariant at the end.
-/

namespace SelfPlugins

variable {σ : Type*}

/-- The state in which the loop ends, if it ends within `fuel` tests of its
condition. -/
def loop (round : σ → Option σ) : ℕ → σ → Option σ
  | 0, _ => none
  | fuel + 1, s =>
      match round s with
      | none => some s
      | some t => loop round fuel t

theorem loop_spec {round : σ → Option σ} {inv : σ → Prop} (measure : σ → ℕ)
    (hround : ∀ s t, inv s → round s = some t →
      inv t ∧ measure t < measure s)
    {s : σ} (hs : inv s) {fuel : ℕ} (hfuel : measure s < fuel) :
    ∃ t, loop round fuel s = some t ∧ inv t ∧ round t = none := by
  induction fuel generalizing s with
  | zero => exact absurd hfuel (Nat.not_lt_zero _)
  | succ fuel ih =>
      cases hnext : round s with
      | none => exact ⟨s, by rw [loop, hnext], hs, hnext⟩
      | some t =>
          obtain ⟨ht, hless⟩ := hround s t hs hnext
          obtain ⟨u, hu, hend⟩ := ih ht
            (Nat.lt_of_lt_of_le hless (Nat.le_of_lt_succ hfuel))
          exact ⟨u, by rw [loop, hnext]; exact hu, hend⟩

end SelfPlugins
