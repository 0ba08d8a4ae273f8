import Mathlib.Data.List.Induction
import Mathlib.Order.Lattice

/-!
# The first of the greatest elements

A loop over a list that remembers an element whenever it is admitted and its
key exceeds all keys remembered before ends with the first of the greatest
admitted elements (`runningMax_spec`).  There is at most one such element, and
removing others from the list does not change it (`IsFirstMax.unique`,
`IsFirstMax.filter`).
-/

namespace SelfPlugins

variable {α β : Type*} [LinearOrder β]

/-- `x` is the first of the elements satisfying `p` whose key is greatest. -/
def IsFirstMax (p : α → Bool) (key : α → β) (l : List α) (x : α) : Prop :=
  ∃ pre post, l = pre ++ x :: post ∧ p x = true ∧
    (∀ y ∈ pre, p y = true → key y < key x) ∧
    ∀ y ∈ post, p y = true → key y ≤ key x

/-- The loop: the greatest key so far, starting from a bound, and its
element. -/
def runningMax (p : α → Bool) (key : α → β) (bound : β) (l : List α) :
    β × Option α :=
  l.foldl (fun best x =>
    if p x && best.1 < key x then (key x, some x) else best) (bound, none)

variable {p : α → Bool} {key : α → β} {l : List α} {x y : α}

namespace IsFirstMax

theorem mem (h : IsFirstMax p key l x) : x ∈ l := by
  obtain ⟨pre, post, rfl, -⟩ := h
  simp

theorem admitted (h : IsFirstMax p key l x) : p x = true := by
  obtain ⟨pre, post, -, hx, -⟩ := h
  exact hx

theorem le (h : IsFirstMax p key l x) (hy : y ∈ l) (hp : p y = true) :
    key y ≤ key x := by
  obtain ⟨pre, post, rfl, -, hpre, hpost⟩ := h
  rcases List.mem_append.mp hy with hy | hy
  · exact (hpre y hy hp).le
  · rcases List.mem_cons.mp hy with rfl | hy
    · exact le_refl _
    · exact hpost y hy hp

/-- No element is first twice. -/
theorem unique (hx : IsFirstMax p key l x) (hy : IsFirstMax p key l y) :
    x = y := by
  have hkey : key x = key y :=
    le_antisymm (hy.le hx.mem hx.admitted) (hx.le hy.mem hy.admitted)
  obtain ⟨pre, post, rfl, hpx, hpre, -⟩ := hx
  obtain ⟨pre', post', heq, hpy, hpre', -⟩ := hy
  rcases List.append_eq_append_iff.mp heq with ⟨mid, rfl, hmid⟩ | ⟨mid, rfl, hmid⟩
  · cases mid with
    | nil => exact (List.cons.inj hmid).1
    | cons z mid =>
        obtain rfl : x = z := (List.cons.inj hmid).1
        have hless := hpre' x (by simp) hpx
        exact absurd hkey hless.ne
  · cases mid with
    | nil => exact (List.cons.inj hmid).1.symm
    | cons z mid =>
        obtain rfl : y = z := (List.cons.inj hmid).1
        have hless := hpre y (by simp) hpy
        exact absurd hkey.symm hless.ne

/-- Removing other elements changes nothing. -/
theorem filter (h : IsFirstMax p key l x) {q : α → Bool} (hq : q x = true) :
    IsFirstMax p key (l.filter q) x := by
  obtain ⟨pre, post, rfl, hx, hpre, hpost⟩ := h
  refine ⟨pre.filter q, post.filter q, by simp [hq], hx, ?_, ?_⟩
  · exact fun y hy => hpre y ((List.mem_filter.mp hy).1)
  · exact fun y hy => hpost y ((List.mem_filter.mp hy).1)

/-- A further element that is no better. -/
theorem concat (h : IsFirstMax p key l x) (hy : p y = true → key y ≤ key x) :
    IsFirstMax p key (l ++ [y]) x := by
  obtain ⟨pre, post, rfl, hx, hpre, hpost⟩ := h
  refine ⟨pre, post ++ [y], by simp, hx, hpre, fun z hz => ?_⟩
  rcases List.mem_append.mp hz with hz | hz
  · exact hpost z hz
  · rw [List.mem_singleton.mp hz]
    exact hy

end IsFirstMax

theorem runningMax_concat (p : α → Bool) (key : α → β) (bound : β)
    (l : List α) (x : α) :
    runningMax p key bound (l ++ [x]) =
      if p x && (runningMax p key bound l).1 < key x then (key x, some x)
      else runningMax p key bound l := by
  rw [runningMax, List.foldl_append]
  rfl

/-- The loop finds the first of the greatest elements if one exceeds the
bound. -/
theorem runningMax_spec (p : α → Bool) (key : α → β) (bound : β)
    (l : List α) :
    (runningMax p key bound l = (bound, none) ∧
      ∀ x ∈ l, p x = true → key x ≤ bound) ∨
    ∃ x, runningMax p key bound l = (key x, some x) ∧ bound < key x ∧
      IsFirstMax p key l x := by
  induction l using List.reverseRecOn with
  | nil => exact Or.inl ⟨rfl, by simp⟩
  | append_singleton l y ih =>
      rw [runningMax_concat]
      rcases ih with ⟨heq, hall⟩ | ⟨x, heq, hbound, hx⟩
      · rw [heq]
        by_cases hy : p y = true ∧ bound < key y
        · refine Or.inr ⟨y, by simp [hy], hy.2, l, [], by simp, hy.1, ?_,
            by simp⟩
          exact fun z hz hp => (hall z hz hp).trans_lt hy.2
        · refine Or.inl ⟨by simpa using hy, fun z hz hp => ?_⟩
          rcases List.mem_append.mp hz with hz | hz
          · exact hall z hz hp
          · rw [List.mem_singleton.mp hz] at hp ⊢
            exact not_lt.mp fun hlt => hy ⟨hp, hlt⟩
      · rw [heq]
        refine Or.inr ?_
        by_cases hy : p y = true ∧ key x < key y
        · refine ⟨y, by simp [hy], hbound.trans hy.2, l, [], by simp, hy.1, ?_,
            by simp⟩
          exact fun z hz hp => (hx.le hz hp).trans_lt hy.2
        · refine ⟨x, if_neg (by simpa using hy), hbound, hx.concat ?_⟩
          exact fun hp => not_lt.mp fun hlt => hy ⟨hp, hlt⟩

end SelfPlugins
