import Mathlib.Data.List.Basic
import Mathlib.Data.List.Perm.Basic

/-!
# Removing elements by swapping with the end

Deleting from an array without moving its tail: the last element is copied
over the deleted one and the array shrinks by one.  A loop that deletes every
element satisfying a test this way examines the same index again after a
deletion.  It ends after one round per element, loses the order of the
elements, and leaves precisely those that fail the test
(`swapRemoveLoop_perm`).
-/

namespace SelfPlugins

variable {α : Type*}

/-- Delete the element at `i`: copy the last element over it unless it is the
last one, then drop the last one. -/
def swapRemove (l : List α) (i : ℕ) : List α :=
  match l.getLast? with
  | none => []
  | some last => (if i < l.length - 1 then l.set i last else l).dropLast

theorem length_swapRemove (l : List α) (i : ℕ) :
    (swapRemove l i).length = l.length - 1 := by
  unfold swapRemove
  cases hlast : l.getLast? with
  | none => simp [List.getLast?_eq_none_iff.mp hlast]
  | some last =>
      simp only
      split <;> simp

/-- Delete every element satisfying `p`, starting at index `i`. -/
def swapRemoveLoop (p : α → Bool) (l : List α) (i : ℕ) : List α :=
  if h : i < l.length then
    if p l[i] then swapRemoveLoop p (swapRemove l i) i
    else swapRemoveLoop p l (i + 1)
  else l
termination_by l.length - i
decreasing_by
  · rw [length_swapRemove]
    omega
  · omega

/-- Seen from the index, a deletion moves the last element to the front. -/
theorem swapRemove_concat (pre mid : List α) (x last : α) :
    swapRemove (pre ++ x :: (mid ++ [last])) pre.length =
      pre ++ last :: mid := by
  have hlast : (pre ++ x :: (mid ++ [last])).getLast? = some last := by
    rw [← List.cons_append, ← List.append_assoc, List.getLast?_concat]
  have hlt : pre.length < (pre ++ x :: (mid ++ [last])).length - 1 := by
    simp
  rw [swapRemove, hlast]
  simp only [if_pos hlt]
  rw [List.set_append_right _ _ (Nat.le_refl _), Nat.sub_self,
    List.set_cons_zero, ← List.cons_append, ← List.append_assoc,
    List.dropLast_concat]

/-- Deleting the last element just drops it. -/
theorem swapRemove_last (pre : List α) (x : α) :
    swapRemove (pre ++ [x]) pre.length = pre := by
  simp [swapRemove]

/-- A deletion keeps what precedes the index, and the elements after it up to
their order. -/
theorem swapRemove_append (pre suf : List α) (x : α) :
    ∃ suf', swapRemove (pre ++ x :: suf) pre.length = pre ++ suf' ∧
      suf'.Perm suf := by
  rcases List.eq_nil_or_concat suf with rfl | ⟨mid, last, rfl⟩
  · exact ⟨[], by rw [swapRemove_last, List.append_nil], List.Perm.refl _⟩
  · rw [List.concat_eq_append]
    exact ⟨last :: mid, swapRemove_concat pre mid x last,
      (List.perm_append_singleton last mid).symm⟩

/-- The loop keeps what precedes the index and, of the rest, precisely the
elements that fail the test. -/
theorem swapRemoveLoop_perm_append (p : α → Bool) (pre suf : List α) :
    (swapRemoveLoop p (pre ++ suf) pre.length).Perm
      (pre ++ suf.filter fun x => !p x) := by
  induction hn : suf.length generalizing pre suf with
  | zero =>
      obtain rfl := List.eq_nil_of_length_eq_zero hn
      rw [swapRemoveLoop, dif_neg (by simp)]
      simp
  | succ n ih =>
      obtain ⟨x, suf, rfl⟩ := List.exists_cons_of_length_eq_add_one hn
      have hlen : suf.length = n := by simpa using hn
      have hlt : pre.length < (pre ++ x :: suf).length := by simp
      have hx : (pre ++ x :: suf)[pre.length] = x := by simp
      rw [swapRemoveLoop, dif_pos hlt, hx]
      by_cases hp : p x
      · rw [if_pos hp]
        obtain ⟨suf', hswap, hperm⟩ := swapRemove_append pre suf x
        rw [hswap]
        refine (ih pre suf' (hperm.length_eq.trans hlen)).trans ?_
        refine List.Perm.append_left pre ?_
        simpa [hp] using hperm.filter fun y => !p y
      · rw [if_neg hp]
        have hstep := ih (pre ++ [x]) suf hlen
        rw [List.append_assoc, List.singleton_append, List.length_append,
          List.length_singleton] at hstep
        simpa [hp] using hstep

/-- The whole loop deletes precisely the elements satisfying the test. -/
theorem swapRemoveLoop_perm (p : α → Bool) (l : List α) :
    (swapRemoveLoop p l 0).Perm (l.filter fun x => !p x) :=
  swapRemoveLoop_perm_append p [] l

end SelfPlugins
