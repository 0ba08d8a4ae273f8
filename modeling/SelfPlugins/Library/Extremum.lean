import Mathlib.Order.Defs.LinearOrder
import Mathlib.Order.RelClasses

/-!
# Running extrema with a mark

A loop keeps the least value it has seen in a variable, and a special value,
the mark, stands for "none yet".  The variable may also hold no number at all,
which compares with nothing.  Started from the mark the loop computes the least
value; `running_isLeast_iff` says what other starting values do no harm.

The order is a relation, so that the results hold for least and for greatest
values.
-/

namespace SelfPlugins

variable {F : Type*} (r : F → F → Prop) [DecidableRel r] [DecidableEq F]

/-- One round: `t` replaces the value if it comes before it, or if the value is
the mark. -/
def running (mark : F) (value : Option F) (t : F) : Option F :=
  if value.any (fun v => r t v) || value = some mark then some t else value

/-- A value of the list that no value of it comes before. -/
def IsFirst (l : List F) (m : F) : Prop := m ∈ l ∧ ∀ t ∈ l, ¬r t m

variable {r}

theorem running_mark (mark t : F) : running r mark (some mark) t = some t := by
  simp [running]

theorem foldl_running_none (mark : F) (l : List F) :
    l.foldl (running r mark) none = none := by
  induction l with
  | nil => rfl
  | cons t l ih =>
      rw [List.foldl_cons, running]
      simpa using ih

/-- From a value that is not the mark the loop computes the first of the value
and the list. -/
theorem foldl_running [IsStrictTotalOrder F r] {mark : F} {l : List F}
    (hl : ∀ t ∈ l, t ≠ mark) {v : F} (hv : v ≠ mark) :
    ∃ m, l.foldl (running r mark) (some v) = some m ∧
      IsFirst r (v :: l) m := by
  induction l generalizing v with
  | nil => exact ⟨v, rfl, List.mem_cons_self, by simp [irrefl]⟩
  | cons t l ih =>
      have ht : t ≠ mark := hl t List.mem_cons_self
      have hl' : ∀ u ∈ l, u ≠ mark := fun u hu =>
        hl u (List.mem_cons_of_mem t hu)
      by_cases htv : r t v
      · have hstep : running r mark (some v) t = some t := by
          simp [running, htv]
        rw [List.foldl_cons, hstep]
        obtain ⟨m, hm, hmem, hfirst⟩ := ih hl' ht
        refine ⟨m, hm, List.mem_cons_of_mem v hmem, fun u hu hum => ?_⟩
        rcases List.mem_cons.mp hu with rfl | hu
        · exact hfirst t List.mem_cons_self (trans_of r htv hum)
        · exact hfirst u hu hum
      · have hstep : running r mark (some v) t = some v := by
          simp [running, htv, hv]
        rw [List.foldl_cons, hstep]
        obtain ⟨m, hm, hmem, hfirst⟩ := ih hl' hv
        refine ⟨m, hm, ?_, fun u hu hum => ?_⟩
        · rcases List.mem_cons.mp hmem with rfl | hmem
          · exact List.mem_cons_self
          · exact List.mem_cons_of_mem v (List.mem_cons_of_mem t hmem)
        · rcases List.mem_cons.mp hu with rfl | hu
          · exact hfirst u List.mem_cons_self hum
          · rcases List.mem_cons.mp hu with rfl | hu
            · rcases trichotomous_of r u v with h | rfl | h
              · exact htv h
              · exact hfirst u List.mem_cons_self hum
              · exact hfirst v List.mem_cons_self (trans_of r h hum)
            · exact hfirst u (List.mem_cons_of_mem v hu) hum

/-- The loop computes the first value of a list iff it is started from the mark
or from a value that does not come before all of the list. -/
theorem running_isFirst_iff [IsStrictTotalOrder F r] {mark : F} {l : List F}
    (hl : ∀ t ∈ l, t ≠ mark) (hne : l ≠ []) (start : Option F) :
    (∃ m, l.foldl (running r mark) start = some m ∧ IsFirst r l m) ↔
      start = some mark ∨ ∃ v, start = some v ∧ ∃ t ∈ l, ¬r v t := by
  cases start with
  | none =>
      rw [foldl_running_none]
      simp
  | some v =>
      by_cases hv : v = mark
      · subst hv
        refine iff_of_true ?_ (Or.inl rfl)
        cases l with
        | nil => exact absurd rfl hne
        | cons t l =>
            rw [List.foldl_cons, running_mark]
            exact foldl_running (fun u hu => hl u (List.mem_cons_of_mem t hu))
              (hl t List.mem_cons_self)
      · obtain ⟨m, hm, hmem, hfirst⟩ := foldl_running (r := r) hl hv
        rw [hm]
        constructor
        · rintro ⟨m', hm', hmem', -⟩
          obtain rfl : m = m' := Option.some.inj hm'
          exact Or.inr ⟨v, rfl, m, hmem', hfirst v List.mem_cons_self⟩
        · rintro (hmark | ⟨v', hv', t, ht, hvt⟩)
          · exact absurd (Option.some.inj hmark) hv
          · obtain rfl : v = v' := Option.some.inj hv'
            refine ⟨m, rfl, ?_, fun u hu =>
              hfirst u (List.mem_cons_of_mem v hu)⟩
            rcases List.mem_cons.mp hmem with rfl | hmem
            · rcases trichotomous_of r m t with h | rfl | h
              · exact absurd h hvt
              · exact ht
              · exact absurd h (hfirst t (List.mem_cons_of_mem m ht))
            · exact hmem

end SelfPlugins
