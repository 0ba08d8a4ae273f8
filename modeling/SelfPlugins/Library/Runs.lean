import Mathlib.Logic.Basic
import Mathlib.Tactic.ByContra

/-!
# Runs of event-driven machines

A machine is a partial step function: `step s e = none` says that the input
`e` is not possible in the state `s`.  This module contains the notions every
development over such machines needs: finite runs, reachable states,
properties of all states of a run (`Throughout`), conditions on all steps of a
run (`EachStep`), and the rules that derive the former from the latter.

`throughout_iff_eachStep` is the rule for exact conditions: an invariant that
is kept by good steps, together with the observation that a bad step leads to
a state violating the property, shows that a property holds throughout a run
precisely when all steps of the run are good.
-/

namespace SelfPlugins.Runs

variable {σ ε : Type*}

/-- The state reached by feeding a list of inputs to the machine. -/
def run (step : σ → ε → Option σ) : σ → List ε → Option σ
  | s, [] => some s
  | s, e :: es => (step s e).bind fun t => run step t es

/-- `P` holds of every state the inputs lead through, both ends included. -/
def Throughout (step : σ → ε → Option σ) (P : σ → Prop) :
    σ → List ε → Prop
  | s, [] => P s
  | s, e :: es => P s ∧ ∀ t, step s e = some t → Throughout step P t es

/-- `C` holds of every step taken along the inputs. -/
def EachStep (step : σ → ε → Option σ) (C : σ → ε → Prop) :
    σ → List ε → Prop
  | _, [] => True
  | s, e :: es => ∀ t, step s e = some t → C s e ∧ EachStep step C t es

/-- `Q` holds of every input of a list, together with the inputs before it:
those in `past` and those of the list itself. -/
def EachInput (Q : List ε → ε → Prop) (past : List ε) : List ε → Prop
  | [] => True
  | e :: es => Q past e ∧ EachInput Q (past ++ [e]) es

/-- `t` can be reached from `s`. -/
def Reaches (step : σ → ε → Option σ) (s t : σ) : Prop :=
  ∃ es, run step s es = some t

variable {step : σ → ε → Option σ}

@[simp] theorem run_nil (s : σ) : run step s [] = some s := rfl

theorem run_cons (s : σ) (e : ε) (es : List ε) :
    run step s (e :: es) = (step s e).bind fun t => run step t es := rfl

theorem run_append (s : σ) (es fs : List ε) :
    run step s (es ++ fs) = (run step s es).bind fun t => run step t fs := by
  induction es generalizing s with
  | nil => rfl
  | cons e es ih =>
      rw [List.cons_append, run_cons, run_cons, Option.bind_assoc]
      exact Option.bind_congr fun t _ => ih t

/-! ## Properties of all states -/

theorem Throughout.head {P : σ → Prop} {s : σ} {es : List ε}
    (h : Throughout step P s es) : P s := by
  cases es with
  | nil => exact h
  | cons e es => exact h.1

theorem Throughout.mono {P Q : σ → Prop} (hPQ : ∀ s, P s → Q s) {s : σ}
    {es : List ε} (h : Throughout step P s es) : Throughout step Q s es := by
  induction es generalizing s with
  | nil => exact hPQ s h
  | cons e es ih => exact ⟨hPQ s h.1, fun t ht => ih (h.2 t ht)⟩

/-- A property of all states holds of the state reached by a part of the
inputs. -/
theorem Throughout.of_run {P : σ → Prop} {s t : σ} {es fs : List ε}
    (h : Throughout step P s (es ++ fs)) (hrun : run step s es = some t) :
    Throughout step P t fs := by
  induction es generalizing s with
  | nil =>
      rw [run_nil, Option.some.injEq] at hrun
      exact hrun ▸ h
  | cons e es ih =>
      rw [run_cons] at hrun
      obtain ⟨u, hu, hut⟩ := Option.bind_eq_some_iff.mp hrun
      exact ih (h.2 u hu) hut

/-- A property holds throughout a run iff it holds of the state reached by
each initial part of the run. -/
theorem throughout_iff_run {P : σ → Prop} {s : σ} {es : List ε} :
    Throughout step P s es ↔
      ∀ fs, fs <+: es → ∀ t, run step s fs = some t → P t := by
  induction es generalizing s with
  | nil =>
      constructor
      · intro h fs hfs t ht
        rw [List.prefix_nil.mp hfs, run_nil, Option.some.injEq] at ht
        exact ht ▸ h
      · intro h
        exact h [] (List.prefix_refl _) s rfl
  | cons e es ih =>
      constructor
      · intro h fs hfs t ht
        cases fs with
        | nil =>
            rw [run_nil, Option.some.injEq] at ht
            exact ht ▸ h.1
        | cons f fs =>
            obtain ⟨rfl, hrest⟩ := List.cons_prefix_cons.mp hfs
            rw [run_cons] at ht
            obtain ⟨u, hu, hut⟩ := Option.bind_eq_some_iff.mp ht
            exact ih.mp (h.2 u hu) fs hrest t hut
      · intro h
        refine ⟨h [] (List.nil_prefix) s rfl, fun u hu => ih.mpr ?_⟩
        intro fs hfs t ht
        refine h (e :: fs) (List.cons_prefix_cons.mpr ⟨rfl, hfs⟩) t ?_
        rw [run_cons, hu]
        exact ht

/-- The last state of a run, seen through `obs`, has what holds throughout. -/
theorem Throughout.last {α : Type*} {P : σ → Prop} {obs : σ → α} {s : σ}
    {es : List ε} {a : α} (h : Throughout step P s es)
    (hrun : (run step s es).map obs = some a) : ∃ t, P t ∧ obs t = a := by
  obtain ⟨t, ht, hobs⟩ := Option.map_eq_some_iff.mp hrun
  exact ⟨t, throughout_iff_run.mp h es (List.prefix_refl es) t ht, hobs⟩

/-! ## Conditions on all steps -/

/-- The invariant rule, for the state a run of good steps ends in. -/
theorem invariant_of_eachStep {I : σ → Prop} {C : σ → ε → Prop}
    (hstep : ∀ s e t, I s → C s e → step s e = some t → I t)
    {s t : σ} {es : List ε} (h0 : I s) (hC : EachStep step C s es)
    (hrun : run step s es = some t) : I t := by
  induction es generalizing s with
  | nil =>
      rw [run_nil, Option.some.injEq] at hrun
      exact hrun ▸ h0
  | cons e es ih =>
      rw [run_cons] at hrun
      obtain ⟨u, hu, hut⟩ := Option.bind_eq_some_iff.mp hrun
      exact ih (hstep s e u h0 (hC u hu).1 hu) (hC u hu).2 hut

/-- The invariant rule: what every step keeps holds of every reachable
state. -/
theorem invariant_of_reaches {I : σ → Prop}
    (hstep : ∀ s e t, I s → step s e = some t → I t)
    {s t : σ} (h0 : I s) (hst : Reaches step s t) : I t := by
  obtain ⟨es, hes⟩ := hst
  refine invariant_of_eachStep (C := fun _ _ => True)
    (fun s e t hI _ => hstep s e t hI) h0 ?_ hes
  induction es generalizing s with
  | nil => trivial
  | cons e es ih =>
      intro u hu
      rw [run_cons, hu] at hes
      exact ⟨trivial, ih (hstep s e u h0 hu) hes⟩

/-- What every step keeps holds throughout a run of good steps. -/
theorem throughout_of_eachStep {I : σ → Prop} {C : σ → ε → Prop}
    (hstep : ∀ s e t, I s → C s e → step s e = some t → I t)
    {s : σ} {es : List ε} (h0 : I s) (hC : EachStep step C s es) :
    Throughout step I s es := by
  induction es generalizing s with
  | nil => exact h0
  | cons e es ih =>
      exact ⟨h0, fun t ht =>
        ih (hstep s e t h0 (hC t ht).1 ht) (hC t ht).2⟩

/-- A condition that holds of every step from a state in the invariant holds
of each step of a run. -/
theorem eachStep_of_invariant {I : σ → Prop} {C : σ → ε → Prop}
    (hstep : ∀ s e t, I s → step s e = some t → I t)
    (hC : ∀ s e t, I s → step s e = some t → C s e)
    {s : σ} (h0 : I s) (es : List ε) : EachStep step C s es := by
  induction es generalizing s with
  | nil => trivial
  | cons e es ih =>
      intro t ht
      exact ⟨hC s e t h0 ht, ih (hstep s e t h0 ht)⟩

/-- What follows from the invariant and the condition of a step holds of each
step of a run of good steps. -/
theorem eachStep_of_eachStep {I : σ → Prop} {C D : σ → ε → Prop}
    (hstep : ∀ s e t, I s → C s e → step s e = some t → I t)
    (hD : ∀ s e t, I s → C s e → step s e = some t → D s e)
    {s : σ} {es : List ε} (h0 : I s) (hC : EachStep step C s es) :
    EachStep step D s es := by
  induction es generalizing s with
  | nil => trivial
  | cons e es ih =>
      intro t ht
      obtain ⟨he, hes⟩ := hC t ht
      exact ⟨hD s e t h0 he ht, ih (hstep s e t h0 he ht) hes⟩

/-- Two conditions that agree on every step from a state in the invariant hold
of the same runs.  `L` is a law the inputs obey. -/
theorem eachStep_congr {I : σ → Prop} {L : ε → Prop} {C D : σ → ε → Prop}
    (hstep : ∀ s e t, I s → L e → step s e = some t → I t)
    (hCD : ∀ s e t, I s → L e → step s e = some t → (C s e ↔ D s e))
    {s : σ} {es : List ε} (h0 : I s) (hL : ∀ e ∈ es, L e) :
    EachStep step C s es ↔ EachStep step D s es := by
  induction es generalizing s with
  | nil => exact Iff.rfl
  | cons e es ih =>
      have he : L e := hL e List.mem_cons_self
      refine forall_congr' fun t => forall_congr' fun ht => ?_
      rw [hCD s e t h0 he ht, ih (hstep s e t h0 he ht)
        fun f hf => hL f (List.mem_cons_of_mem e hf)]

/-- The rule for exact conditions.  `L` is a law every step obeys, `C` the
condition under which a step keeps the invariant `I`; a step outside `C`
leads to a state without `P`. -/
theorem throughout_iff_eachStep {I P : σ → Prop} {L C : σ → ε → Prop}
    (hP : ∀ s, I s → P s)
    (hgood : ∀ s e t, I s → L s e → C s e → step s e = some t → I t)
    (hbad : ∀ s e t, I s → L s e → ¬C s e → step s e = some t → ¬P t)
    {s : σ} {es : List ε} (h0 : I s) (hL : EachStep step L s es) :
    Throughout step P s es ↔ EachStep step C s es := by
  induction es generalizing s with
  | nil => exact ⟨fun _ => trivial, fun _ => hP s h0⟩
  | cons e es ih =>
      constructor
      · intro h t ht
        have hC : C s e := by
          by_contra hnot
          exact hbad s e t h0 (hL t ht).1 hnot ht (h.2 t ht).head
        have hI : I t := hgood s e t h0 (hL t ht).1 hC ht
        exact ⟨hC, (ih hI (hL t ht).2).mp (h.2 t ht)⟩
      · intro h
        refine ⟨hP s h0, fun t ht => ?_⟩
        have hI : I t := hgood s e t h0 (hL t ht).1 (h t ht).1 ht
        exact (ih hI (hL t ht).2).mpr (h t ht).2

/-- A run of good steps stays in `I`; the first bad step leads from `I` to
`J`, which every step keeps. -/
theorem eachStep_dichotomy {I J : σ → Prop} {C : σ → ε → Prop}
    (hgood : ∀ s e t, I s → C s e → step s e = some t → I t)
    (hbad : ∀ s e t, I s → ¬C s e → step s e = some t → J t)
    (hkeep : ∀ s e t, J s → step s e = some t → J t)
    {s t : σ} {es : List ε} (h0 : I s) (hrun : run step s es = some t) :
    (EachStep step C s es ∧ I t) ∨ (¬EachStep step C s es ∧ J t) := by
  induction es generalizing s with
  | nil =>
      rw [run_nil, Option.some.injEq] at hrun
      exact Or.inl ⟨trivial, hrun ▸ h0⟩
  | cons e es ih =>
      rw [run_cons] at hrun
      obtain ⟨u, hu, hut⟩ := Option.bind_eq_some_iff.mp hrun
      by_cases hC : C s e
      · rcases ih (hgood s e u h0 hC hu) hut with ⟨hes, ht⟩ | ⟨hes, ht⟩
        · refine Or.inl ⟨fun v hv => ?_, ht⟩
          obtain rfl : u = v := Option.some.inj (hu.symm.trans hv)
          exact ⟨hC, hes⟩
        · exact Or.inr ⟨fun h => hes (h u hu).2, ht⟩
      · refine Or.inr ⟨fun h => hC (h u hu).1, ?_⟩
        exact invariant_of_reaches hkeep (hbad s e u h0 hC hu) ⟨es, hut⟩

/-- A condition on all steps is one on the steps that follow a part of the
run. -/
theorem EachStep.after {C : σ → ε → Prop} {s t : σ} {es fs : List ε}
    (h : EachStep step C s (es ++ fs)) (hrun : run step s es = some t) :
    EachStep step C t fs := by
  induction es generalizing s with
  | nil =>
      rw [run_nil, Option.some.injEq] at hrun
      exact hrun ▸ h
  | cons e es ih =>
      rw [run_cons] at hrun
      obtain ⟨u, hu, hut⟩ := Option.bind_eq_some_iff.mp hrun
      exact ih (h u hu).2 hut

/-- A condition on the steps can be tested by making the run. -/
instance EachStep.decidable {C : σ → ε → Prop} [∀ s e, Decidable (C s e)] :
    ∀ (s : σ) (es : List ε), Decidable (EachStep step C s es)
  | _, [] => isTrue trivial
  | s, e :: es =>
      match hstep : step s e with
      | none => isTrue fun _ ht => nomatch hstep.symm.trans ht
      | some u =>
          have : Decidable (EachStep step C u es) := EachStep.decidable u es
          decidable_of_iff (C s e ∧ EachStep step C u es)
            ⟨fun h _ ht => Option.some.inj (hstep.symm.trans ht) ▸ h,
              fun h => h u hstep⟩

/-- The law of `throughout_iff_eachStep` may be absent. -/
theorem eachStep_true (s : σ) (es : List ε) :
    EachStep step (fun _ _ => True) s es := by
  induction es generalizing s with
  | nil => trivial
  | cons e es ih => exact fun t _ => ⟨trivial, ih t⟩

/-! ## Auxiliary variables -/

/-- A machine extended by auxiliary variables goes through the same states:
`proj` forgets the variables. -/
theorem throughout_proj {τ : Type*} {step' : τ → ε → Option τ} (proj : τ → σ)
    (hproj : ∀ p e, (step' p e).map proj = step (proj p) e) {P : σ → Prop}
    (p : τ) (es : List ε) :
    Throughout step P (proj p) es ↔
      Throughout step' (fun q => P (proj q)) p es := by
  induction es generalizing p with
  | nil => exact Iff.rfl
  | cons e es ih =>
      refine and_congr_right fun _ => ?_
      rw [← hproj]
      constructor
      · intro h q hq
        exact (ih q).mp (h (proj q) (by rw [hq]; rfl))
      · intro h t ht
        obtain ⟨q, hq, rfl⟩ := Option.map_eq_some_iff.mp ht
        exact (ih q).mpr (h q hq)

/-! ## Inputs and their past -/

theorem eachInput_append {Q : List ε → ε → Prop} (past es fs : List ε) :
    EachInput Q past (es ++ fs) ↔
      EachInput Q past es ∧ EachInput Q (past ++ es) fs := by
  induction es generalizing past with
  | nil => simp [EachInput]
  | cons e es ih => simp [EachInput, ih, and_assoc]

theorem eachInput_of_forall {Q : List ε → ε → Prop} {es : List ε}
    (h : ∀ past, ∀ e ∈ es, Q past e) (past : List ε) :
    EachInput Q past es := by
  induction es generalizing past with
  | nil => trivial
  | cons e es ih =>
      exact ⟨h past e List.mem_cons_self,
        ih (fun past e he => h past e (List.mem_cons_of_mem _ he)) _⟩

theorem eachInput_concat {Q : List ε → ε → Prop} (es : List ε) (e : ε) :
    EachInput Q [] (es ++ [e]) ↔ EachInput Q [] es ∧ Q es e := by
  simp [eachInput_append, EachInput]

end SelfPlugins.Runs
