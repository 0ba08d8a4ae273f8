import Mathlib.Algebra.BigOperators.Group.List.Basic
import Mathlib.Algebra.GroupWithZero.Nat
import SelfPlugins.Library.Runs

/-!
# Counting along runs

Each input of a run costs something and gains something, and a potential of
the states pays for what is gained before it has been paid.  The rule of this
module is the one of amortised analysis: what each step keeps of the balance is
kept by a run.  `countdown_of_eachStep` is its companion for potentials that run
down to zero and stay there.  The steps may be restricted by a condition on
them, as in `Runs.EachStep`.
-/

namespace SelfPlugins.Runs

variable {σ ε : Type*} {step : σ → ε → Option σ}

/-- The sum of the weights of the inputs. -/
def total (w : ε → ℕ) (es : List ε) : ℕ := (es.map w).sum

@[simp] theorem total_nil (w : ε → ℕ) : total w [] = 0 := rfl

@[simp] theorem total_cons (w : ε → ℕ) (e : ε) (es : List ε) :
    total w (e :: es) = w e + total w es := List.sum_cons

theorem total_add (v w : ε → ℕ) (es : List ε) :
    total (fun e => v e + w e) es = total v es + total w es := by
  induction es with
  | nil => simp
  | cons e es ih =>
      rw [total_cons, total_cons, total_cons, ih]
      omega

theorem total_mul (c : ℕ) (w : ε → ℕ) (es : List ε) :
    total (fun e => c * w e) es = c * total w es := by
  induction es with
  | nil => rfl
  | cons e es ih => rw [total_cons, total_cons, ih, Nat.mul_add]

/-- Inputs that weigh one are counted. -/
theorem total_toNat (p : ε → Bool) (es : List ε) :
    total (fun e => (p e).toNat) es = es.countP p := by
  induction es with
  | nil => rfl
  | cons e es ih =>
      rw [total_cons, List.countP_cons, ih, Nat.add_comm]
      cases p e <;> rfl

@[simp] theorem total_zero (es : List ε) : total (fun _ => 0) es = 0 := by
  induction es with
  | nil => rfl
  | cons e es ih => rw [total_cons, ih]

/-- The rule for runs of good steps, with the potential `f`, the gain `g` and
the cost `c`. -/
theorem amortised_of_eachStep {I : σ → Prop} {C : σ → ε → Prop}
    {f : σ → ℕ} {g c : ε → ℕ}
    (hkeep : ∀ s e t, I s → C s e → step s e = some t → I t)
    (hstep : ∀ s e t, I s → C s e → step s e = some t →
      f t + g e ≤ f s + c e)
    {s t : σ} {es : List ε} (h0 : I s) (hC : EachStep step C s es)
    (hrun : run step s es = some t) :
    f t + total g es ≤ f s + total c es := by
  induction es generalizing s with
  | nil =>
      rw [run_nil, Option.some.injEq] at hrun
      rw [hrun]
      exact Nat.le_refl _
  | cons e es ih =>
      rw [run_cons] at hrun
      obtain ⟨u, hu, hut⟩ := Option.bind_eq_some_iff.mp hrun
      obtain ⟨he, hes⟩ := hC u hu
      have hhead := hstep s e u h0 he hu
      have htail := ih (hkeep s e u h0 he hu) hes hut
      rw [total_cons, total_cons]
      omega

/-- A potential that each step brings down by its gain, as far as it can. -/
theorem countdown_of_eachStep {I : σ → Prop} {C : σ → ε → Prop}
    {f : σ → ℕ} {g : ε → ℕ}
    (hkeep : ∀ s e t, I s → C s e → step s e = some t → I t)
    (hstep : ∀ s e t, I s → C s e → step s e = some t →
      f t ≤ f s - g e)
    {s t : σ} {es : List ε} (h0 : I s) (hC : EachStep step C s es)
    (hrun : run step s es = some t) :
    f t ≤ f s - total g es := by
  induction es generalizing s with
  | nil =>
      rw [run_nil, Option.some.injEq] at hrun
      rw [hrun]
      exact Nat.le_refl _
  | cons e es ih =>
      rw [run_cons] at hrun
      obtain ⟨u, hu, hut⟩ := Option.bind_eq_some_iff.mp hrun
      obtain ⟨he, hes⟩ := hC u hu
      have hhead := hstep s e u h0 he hu
      have htail := ih (hkeep s e u h0 he hu) hes hut
      rw [total_cons]
      omega

/-- The rule for all runs. -/
theorem amortised {I : σ → Prop} {f : σ → ℕ} {g c : ε → ℕ}
    (hkeep : ∀ s e t, I s → step s e = some t → I t)
    (hstep : ∀ s e t, I s → step s e = some t →
      f t + g e ≤ f s + c e)
    {s t : σ} {es : List ε} (h0 : I s) (hrun : run step s es = some t) :
    f t + total g es ≤ f s + total c es :=
  amortised_of_eachStep (fun s e t hs _ => hkeep s e t hs)
    (fun s e t hs _ => hstep s e t hs) h0 (eachStep_true s es) hrun

/-- A condition on the inputs alone is one on the steps. -/
theorem eachStep_of_forall_mem {L : ε → Prop} {s : σ} {es : List ε}
    (h : ∀ e ∈ es, L e) : EachStep step (fun _ e => L e) s es := by
  induction es generalizing s with
  | nil => trivial
  | cons e es ih =>
      exact fun t _ => ⟨h e List.mem_cons_self,
        ih fun f hf => h f (List.mem_cons_of_mem e hf)⟩

theorem eachStep_and {C D : σ → ε → Prop} {s : σ} {es : List ε}
    (hC : EachStep step C s es) (hD : EachStep step D s es) :
    EachStep step (fun s e => C s e ∧ D s e) s es := by
  induction es generalizing s with
  | nil => trivial
  | cons e es ih =>
      intro t ht
      obtain ⟨hc, hcs⟩ := hC t ht
      obtain ⟨hd, hds⟩ := hD t ht
      exact ⟨⟨hc, hd⟩, ih hcs hds⟩

end SelfPlugins.Runs
