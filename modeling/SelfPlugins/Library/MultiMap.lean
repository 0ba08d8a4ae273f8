import Mathlib.Data.Multiset.AddSub
import Mathlib.Data.List.Sort
import Mathlib.Order.Defs.LinearOrder

/-!
# Ordered multimaps

An ordered multimap keeps its entries sorted by key, with equal keys in the
order of their insertion.  Iterators are positions; the position after the
last entry is `finish`, and `deref` gives nothing there.  `find` is the first
position holding the key, or `finish`.

The order is what makes a scan from `find` that stops at the first different
key complete: `range_find` says that it meets exactly the entries of the key,
in order.
-/

namespace SelfPlugins

/-- An ordered multimap from `κ` to `ν`. -/
structure MultiMap (κ ν : Type*) [LinearOrder κ] where
  entries : List (κ × ν)
  sorted : entries.Pairwise fun a b => a.1 ≤ b.1

namespace MultiMap

variable {κ ν : Type*} [LinearOrder κ]

/-- The multimap without entries. -/
def empty : MultiMap κ ν := ⟨[], List.Pairwise.nil⟩

/-- Put an entry behind all entries whose key is not larger. -/
def insertUpper (k : κ) (v : ν) : List (κ × ν) → List (κ × ν)
  | [] => [(k, v)]
  | e :: es =>
      if k < e.1 then (k, v) :: e :: es else e :: insertUpper k v es

theorem insertUpper_perm (k : κ) (v : ν) (es : List (κ × ν)) :
    (insertUpper k v es).Perm ((k, v) :: es) := by
  induction es with
  | nil => exact List.Perm.refl _
  | cons e es ih =>
      rw [insertUpper]
      split
      · exact List.Perm.refl _
      · exact (ih.cons e).trans (List.Perm.swap (k, v) e es)

theorem insertUpper_sorted (k : κ) (v : ν) {es : List (κ × ν)}
    (hes : es.Pairwise fun a b => a.1 ≤ b.1) :
    (insertUpper k v es).Pairwise fun a b => a.1 ≤ b.1 := by
  induction es with
  | nil => exact List.pairwise_singleton _ _
  | cons e es ih =>
      obtain ⟨hhead, htail⟩ := List.pairwise_cons.mp hes
      rw [insertUpper]
      split
      · rename_i hlt
        refine List.pairwise_cons.mpr ⟨?_, hes⟩
        intro b hb
        rcases List.mem_cons.mp hb with rfl | hb
        · exact le_of_lt hlt
        · exact le_trans (le_of_lt hlt) (hhead b hb)
      · rename_i hge
        refine List.pairwise_cons.mpr ⟨?_, ih htail⟩
        intro b hb
        rcases List.mem_cons.mp ((insertUpper_perm k v es).mem_iff.mp hb) with
          rfl | hb
        · exact le_of_not_gt hge
        · exact hhead b hb

/-- Insertion, at the upper end of the entries of the key. -/
def insert (m : MultiMap κ ν) (k : κ) (v : ν) : MultiMap κ ν :=
  ⟨insertUpper k v m.entries, insertUpper_sorted k v m.sorted⟩

/-- The position after the last entry. -/
def finish (m : MultiMap κ ν) : ℕ := m.entries.length

/-- The first position of the key, or `finish`. -/
def find (m : MultiMap κ ν) (k : κ) : ℕ :=
  m.entries.findIdx fun e => e.1 = k

/-- The entry at a position; there is none at `finish`. -/
def deref (m : MultiMap κ ν) (i : ℕ) : Option (κ × ν) := m.entries[i]?

/-- Remove the entry at a position. -/
def erase (m : MultiMap κ ν) (i : ℕ) : MultiMap κ ν :=
  ⟨m.entries.eraseIdx i, m.sorted.sublist (List.eraseIdx_sublist _ _)⟩

/-- The entries as a multiset of values. -/
def values (m : MultiMap κ ν) : Multiset ν := ↑(m.entries.map Prod.snd)

/-- The entries met by a scan from `find` up to the first other key. -/
def range (m : MultiMap κ ν) (k : κ) : List (κ × ν) :=
  (m.entries.drop (m.find k)).takeWhile fun e => e.1 = k

@[simp] theorem values_insert (m : MultiMap κ ν) (k : κ) (v : ν) :
    (m.insert k v).values = v ::ₘ m.values := by
  refine Multiset.coe_eq_coe.mpr ?_
  exact (insertUpper_perm k v m.entries).map Prod.snd

theorem mem_entries_insert {m : MultiMap κ ν} {k : κ} {v : ν} {e : κ × ν} :
    e ∈ (m.insert k v).entries ↔ e = (k, v) ∨ e ∈ m.entries := by
  rw [insert, (insertUpper_perm k v m.entries).mem_iff, List.mem_cons]

theorem mem_values {m : MultiMap κ ν} {v : ν} :
    v ∈ m.values ↔ ∃ k, (k, v) ∈ m.entries := by
  simp [values]

@[simp] theorem deref_finish (m : MultiMap κ ν) :
    m.deref m.finish = none := by
  simp [deref, finish]

/-- `find` is past the end precisely when the key is absent. -/
theorem find_eq_finish_iff {m : MultiMap κ ν} {k : κ} :
    m.find k = m.finish ↔ ∀ e ∈ m.entries, e.1 ≠ k := by
  rw [find, finish, List.findIdx_eq_length]
  simp

/-- A scan from `find` meets exactly the entries of the key, in order. -/
theorem range_find (m : MultiMap κ ν) (k : κ) :
    m.range k = m.entries.filter fun e => e.1 = k := by
  obtain ⟨es, hes⟩ := m
  simp only [range, find]
  induction es with
  | nil => rfl
  | cons e es ih =>
      obtain ⟨hhead, htail⟩ := List.pairwise_cons.mp hes
      by_cases hk : e.1 = k
      · have hrest : es.takeWhile (fun e => decide (e.1 = k)) =
            es.filter fun e => decide (e.1 = k) := by
          rw [← ih htail]
          cases es with
          | nil => rfl
          | cons f es =>
              by_cases hf : f.1 = k
              · simp [List.findIdx_cons, hf]
              · have habove : ∀ b ∈ f :: es, b.1 ≠ k := by
                  intro b hb hbk
                  have hfb : f.1 ≤ b.1 := by
                    rcases List.mem_cons.mp hb with rfl | hb
                    · exact le_refl _
                    · exact (List.pairwise_cons.mp htail).1 b hb
                  have hkf : k ≤ f.1 := hk ▸ hhead f (List.mem_cons_self ..)
                  exact hf (le_antisymm (hbk ▸ hfb) hkf)
                have hidx : (f :: es).findIdx (fun e => decide (e.1 = k)) =
                    (f :: es).length := by
                  rw [List.findIdx_eq_length]
                  simpa using habove
                rw [hidx, List.drop_length]
                simp [hf]
        simp [List.findIdx_cons, hk, hrest]
      · simpa [List.findIdx_cons, hk] using ih htail

end MultiMap

end SelfPlugins
