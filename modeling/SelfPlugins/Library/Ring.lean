import Mathlib.Data.Nat.ModEq

/-!
# Ring buffers

A stream is written to a ring of `size` cells, each element at its own offset
modulo the size.  `Writes` says what writing a part of the stream does to the
cells, whatever the implementation; `Stored` says that the last `size` elements
of the stream are in their cells, which `Stored.append` shows to be kept.
`covered_iff` tells which of the last elements a write of the next ones
replaces.
-/

namespace SelfPlugins.Ring

variable {α : Type*}

/-- Writing `xs` from the cell `start` on, round the ring. -/
structure Writes (size start : ℕ) (xs : List α) (cells cells' : ℕ → Option α) :
    Prop where
  written : ∀ j < xs.length, cells' ((start + j) % size) = xs[j]?
  unchanged : ∀ i < size, (∀ j < xs.length, (start + j) % size ≠ i) →
    cells' i = cells i

/-- The last elements of the stream are in their cells. -/
def Stored (size : ℕ) (stream : List α) (cells : ℕ → Option α) : Prop :=
  ∀ o < stream.length, stream.length ≤ o + size →
    cells (o % size) = stream[o]?

theorem stored_nil (size : ℕ) (cells : ℕ → Option α) :
    Stored size [] cells :=
  fun _ ho => absurd ho (Nat.not_lt_zero _)

/-- Of the last `size` elements before `total`, those are in the cells of the
next `n` elements that are too far back. -/
theorem covered_iff {size total n o : ℕ} (hn : n ≤ size) (ho : o < total)
    (hlast : total ≤ o + size) :
    (∃ j < n, (total + j) % size = o % size) ↔ o + size < total + n := by
  constructor
  · rintro ⟨j, hj, hmod⟩
    have hle : o ≤ total + j := Nat.le_trans ho.le (Nat.le_add_right _ _)
    have hdvd : size ∣ total + j - o := (Nat.modEq_iff_dvd' hle).mp hmod.symm
    have heq := Nat.eq_of_dvd_of_lt_two_mul (by omega) hdvd (by omega)
    omega
  · intro hlt
    refine ⟨o + size - total, by omega, ?_⟩
    rw [show total + (o + size - total) = o + size by omega,
      Nat.add_mod_right]

/-- Writing the next elements of the stream behind the last ones. -/
theorem Stored.append {size : ℕ} {stream xs : List α}
    {cells cells' : ℕ → Option α} (h : Stored size stream cells)
    (hxs : xs.length ≤ size)
    (hwrites : Writes size (stream.length % size) xs cells cells') :
    Stored size (stream ++ xs) cells' := by
  intro o ho hlast
  rw [List.length_append] at ho hlast
  rcases Nat.lt_or_ge o stream.length with hold | hnew
  · have hcovered : ∀ j < xs.length,
        (stream.length % size + j) % size ≠ o % size := by
      intro j hj hmod
      rw [Nat.mod_add_mod] at hmod
      have hlt := (covered_iff hxs hold (by omega)).mp ⟨j, hj, hmod⟩
      omega
    have hsize : 0 < size := by omega
    rw [hwrites.unchanged _ (Nat.mod_lt _ hsize) hcovered,
      h o hold (by omega), List.getElem?_append_left hold]
  · have hwritten := hwrites.written (o - stream.length) (by omega)
    rw [Nat.mod_add_mod, Nat.add_sub_cancel' hnew] at hwritten
    rw [hwritten, List.getElem?_append_right hnew]

end SelfPlugins.Ring
