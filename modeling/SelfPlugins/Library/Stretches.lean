import Mathlib.Data.List.Basic
import Mathlib.Data.List.Induction

/-!
# Stretches of a history

For a predicate `p` on the entries of a history, a stretch is a maximal run of
consecutive entries that satisfy it.  `Current` and `Ended` speak of the first
entry of a stretch: of the one the history ends with, and of those that an
entry without `p` has ended.  The theorems say how both change when the
history is extended by an entry.
-/

namespace SelfPlugins.Stretches

variable {α : Type*}

/-- The history ends with a stretch whose first entry is `x`. -/
def Current (p : α → Prop) (h : List α) (x : α) : Prop :=
  ∃ before after, h = before ++ x :: after ∧ p x ∧ (∀ y ∈ after, p y) ∧
    ∀ y ∈ before.getLast?, ¬p y

/-- `x` is the first entry of a stretch that has ended. -/
def Ended (p : α → Prop) (h : List α) (x : α) : Prop :=
  ∃ before y after, h = before ++ y :: after ∧ Current p before x ∧ ¬p y

variable {p : α → Prop} {h : List α} {x y : α}

@[simp] theorem not_current_nil : ¬Current p [] x := by
  rintro ⟨before, after, hh, -⟩
  exact List.append_ne_nil_of_right_ne_nil before (List.cons_ne_nil x after)
    hh.symm

@[simp] theorem not_ended_nil : ¬Ended p [] x := by
  rintro ⟨before, y, after, hh, -⟩
  exact List.append_ne_nil_of_right_ne_nil before (List.cons_ne_nil y after)
    hh.symm

/-- The entries of the stretch a history ends with satisfy `p`. -/
theorem Current.getLast? (hc : Current p h x) : ∀ y ∈ h.getLast?, p y := by
  obtain ⟨before, after, rfl, hx, hafter, -⟩ := hc
  intro y hy
  rw [List.getLast?_append_cons] at hy
  rcases List.mem_cons.mp (List.mem_of_getLast? hy) with rfl | hmem
  · exact hx
  · exact hafter y hmem

theorem Current.not_fresh (hc : Current p h x) :
    ¬∀ y ∈ h.getLast?, ¬p y := by
  intro hnone
  cases hlast : h.getLast? with
  | none =>
      rw [List.getLast?_eq_none_iff.mp hlast] at hc
      exact not_current_nil hc
  | some z => exact hnone z hlast (hc.getLast? z hlast)

/-- An entry without `p` ends the stretch. -/
theorem not_current_append (hy : ¬p y) : ¬Current p (h ++ [y]) x :=
  fun hc => hy (hc.getLast? y List.getLast?_concat)

/-- An entry with `p` continues the stretch, or starts one. -/
theorem current_append (hy : p y) :
    Current p (h ++ [y]) x ↔
      Current p h x ∨ (x = y ∧ ∀ z ∈ h.getLast?, ¬p z) := by
  constructor
  · rintro ⟨before, after, hh, hx, hafter, hbefore⟩
    rcases List.eq_nil_or_concat after with rfl | ⟨after, z, rfl⟩
    · obtain ⟨rfl, hxy⟩ := List.append_inj' hh rfl
      exact Or.inr ⟨(List.singleton_inj.mp hxy).symm, hbefore⟩
    · rw [List.concat_eq_append, ← List.cons_append,
        ← List.append_assoc] at hh
      obtain ⟨rfl, -⟩ := List.append_inj' hh rfl
      refine Or.inl ⟨before, after, rfl, hx, fun w hw => ?_, hbefore⟩
      exact hafter w (by rw [List.concat_eq_append]; exact
        List.mem_append_left _ hw)
  · rintro (⟨before, after, rfl, hx, hafter, hbefore⟩ | ⟨rfl, hlast⟩)
    · refine ⟨before, after ++ [y], by simp, hx, fun w hw => ?_, hbefore⟩
      rcases List.mem_append.mp hw with hw | hw
      · exact hafter w hw
      · rwa [List.mem_singleton.mp hw]
    · exact ⟨h, [], rfl, hy, nofun, hlast⟩

/-- A history whose last entry satisfies `p` ends with a stretch. -/
theorem exists_current (hy : y ∈ h.getLast?) (hp : p y) :
    ∃ x, Current p h x := by
  induction h using List.reverseRecOn generalizing y with
  | nil => cases hy
  | append_singleton h z ih =>
      rw [List.getLast?_concat, Option.mem_some_iff] at hy
      subst hy
      by_cases hlast : ∀ w ∈ h.getLast?, ¬p w
      · exact ⟨z, (current_append hp).mpr (Or.inr ⟨rfl, hlast⟩)⟩
      · push Not at hlast
        obtain ⟨w, hw, hpw⟩ := hlast
        obtain ⟨x, hx⟩ := ih hw hpw
        exact ⟨x, (current_append hp).mpr (Or.inl hx)⟩

/-- A history ends with one stretch at most. -/
theorem Current.unique {x' : α} (hx : Current p h x) (hx' : Current p h x') :
    x = x' := by
  induction h using List.reverseRecOn with
  | nil => exact absurd hx not_current_nil
  | append_singleton h y ih =>
      have hy : p y := hx.getLast? y List.getLast?_concat
      rcases (current_append hy).mp hx with hold | ⟨rfl, hnone⟩
      · rcases (current_append hy).mp hx' with hold' | ⟨-, hnone⟩
        · exact ih hold hold'
        · exact absurd hnone hold.not_fresh
      · rcases (current_append hy).mp hx' with hold' | ⟨rfl, -⟩
        · exact absurd hnone hold'.not_fresh
        · rfl

/-- The stretches that have ended are those that had ended before, and the one
the last entry ended. -/
theorem ended_append :
    Ended p (h ++ [y]) x ↔ Ended p h x ∨ (¬p y ∧ Current p h x) := by
  constructor
  · rintro ⟨before, z, after, hh, hcurrent, hz⟩
    rcases List.eq_nil_or_concat after with rfl | ⟨after, w, rfl⟩
    · obtain ⟨rfl, hzy⟩ := List.append_inj' hh rfl
      rw [← List.singleton_inj.mp hzy] at hz
      exact Or.inr ⟨hz, hcurrent⟩
    · rw [List.concat_eq_append, ← List.cons_append,
        ← List.append_assoc] at hh
      obtain ⟨rfl, -⟩ := List.append_inj' hh rfl
      exact Or.inl ⟨before, z, after, rfl, hcurrent, hz⟩
  · rintro (⟨before, z, after, rfl, hcurrent, hz⟩ | ⟨hy, hcurrent⟩)
    · exact ⟨before, z, after ++ [y], by simp, hcurrent, hz⟩
    · exact ⟨h, y, [], rfl, hcurrent, hy⟩

end SelfPlugins.Stretches
