import Mathlib.Algebra.Order.Group.Int
import Mathlib.Data.List.Nodup
import Mathlib.Data.List.Range
import Mathlib.Tactic.Linarith

/-!
# Integers of 32 bits

When the results of `Int32` operations are those of the integers, what a
negative number is as an unsigned one, and the values of a loop counter.
-/

namespace SelfPlugins.MachineInt

variable {a b n x : Int32}

/-- The numbers `Int32` can hold. -/
def InRange (i : ℤ) : Prop := -2147483648 ≤ i ∧ i < 2147483648

theorem inRange_toInt (a : Int32) : InRange a.toInt := by
  have hle := a.le_toInt
  have hlt := a.toInt_lt
  constructor
  · omega
  · omega

theorem bmod_of_inRange {i : ℤ} (h : InRange i) : i.bmod (2 ^ 32) = i := by
  obtain ⟨hle, hlt⟩ := h
  exact Int.bmod_eq_of_le_mul_two (by omega) (by omega)

theorem toInt_mul (h : InRange (a.toInt * b.toInt)) :
    (a * b).toInt = a.toInt * b.toInt := by
  rw [Int32.toInt_mul, bmod_of_inRange h]

theorem toInt_add (h : InRange (a.toInt + b.toInt)) :
    (a + b).toInt = a.toInt + b.toInt := by
  rw [Int32.toInt_add, bmod_of_inRange h]

theorem toInt_div (hb : 0 < b.toInt) :
    (a / b).toInt = a.toInt.tdiv b.toInt := by
  refine Int32.toInt_div_of_ne_right a b fun h => ?_
  rw [h] at hb
  exact absurd hb (by decide)

/-- The quotient of natural numbers. -/
theorem toInt_div_of_nonneg (ha : 0 ≤ a.toInt) (hb : 0 < b.toInt) :
    (a / b).toInt = a.toInt / b.toInt := by
  rw [toInt_div hb, Int.tdiv_eq_ediv_of_nonneg ha]

/-- The quotient of a negative number that is not less than the divisor in
size. -/
theorem toInt_div_neg (hb : 0 < b.toInt) (hab : b.toInt ≤ -a.toInt) :
    (a / b).toInt = -(-a.toInt / b.toInt) ∧ (a / b).toInt < 0 := by
  have hdiv : (a / b).toInt = -(-a.toInt / b.toInt) := by
    rw [toInt_div hb, ← Int.neg_neg a.toInt, Int.neg_tdiv,
      Int.tdiv_eq_ediv_of_nonneg (by omega), Int.neg_neg]
  have hone : 1 ≤ -a.toInt / b.toInt :=
    (Int.le_ediv_iff_mul_le hb).mpr (by omega)
  exact ⟨hdiv, by omega⟩

/-! ## Unsigned numbers -/

theorem toNat_toUInt32 (ha : 0 ≤ a.toInt) :
    (a.toUInt32.toNat : ℤ) = a.toInt := by
  have hcond := BitVec.toInt_eq_toNat_cond a.toBitVec
  change a.toInt = _ at hcond
  change ((a.toBitVec.toNat : ℕ) : ℤ) = _
  split at hcond
  · omega
  · have hlt := a.toBitVec.isLt
    omega

theorem le_toNat_toUInt32 (ha : a.toInt < 0) :
    2147483648 ≤ a.toUInt32.toNat := by
  have hcond := BitVec.toInt_eq_toNat_cond a.toBitVec
  change a.toInt = _ at hcond
  change 2147483648 ≤ a.toBitVec.toNat
  split at hcond
  · omega
  · omega

/-! ## Counters -/

/-- The values of the counter in `for (int i = 0; i < n; ++i)`. -/
def upTo (n : Int32) : List Int32 :=
  (List.range n.toInt.toNat).map Int32.ofNat

theorem mem_upTo : x ∈ upTo n ↔ 0 ≤ x.toInt ∧ x.toInt < n.toInt := by
  have hn := (inRange_toInt n).2
  rw [upTo, List.mem_map]
  constructor
  · rintro ⟨i, hi, rfl⟩
    rw [List.mem_range] at hi
    rw [Int32.toInt_ofNat_of_lt (by omega)]
    omega
  · rintro ⟨hle, hlt⟩
    refine ⟨x.toInt.toNat, List.mem_range.mpr (by omega), ?_⟩
    rw [← Int32.toInt_inj, Int32.toInt_ofNat_of_lt (by omega),
      Int.toNat_of_nonneg hle]

theorem nodup_upTo (n : Int32) : (upTo n).Nodup := by
  have hn := (inRange_toInt n).2
  refine List.nodup_range.map_on ?_
  intro i hi j hj h
  rw [List.mem_range] at hi hj
  have htoInt := congrArg Int32.toInt h
  rw [Int32.toInt_ofNat_of_lt (by omega), Int32.toInt_ofNat_of_lt (by omega)]
    at htoInt
  exact Int.ofNat.inj htoInt

theorem length_upTo (n : Int32) : (upTo n).length = n.toInt.toNat := by
  rw [upTo, List.length_map, List.length_range]

end SelfPlugins.MachineInt
