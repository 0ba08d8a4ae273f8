import Mathlib.Data.List.Perm.Subperm
import Mathlib.Data.List.ProdSigma
import SelfPlugins.Camera.Kinect
import SelfPlugins.Framework.Serializable
import SelfPlugins.Library.MachineInt

/-!
# Resampling the images of the Kinect

`OnCaptureData` copies an image of 640 by 480 pixels into one of the
configured size, pixel by pixel; `KinectCamera` allocates the memory for the
copy itself.  Sizes are any numbers `int` can hold, and the indices are
computed in 32 bits: products that leave the range come back at its other end.

`inBounds_iff` gives the sizes for which every index is within its image and
the copy is written once at each place.
-/

namespace SelfPlugins.Camera

open Json (Value)
open MachineInt

/-! ## Translated functions -/

/-- The configured size of an image. -/
structure ImageSize where
  m_Width : Int32
  m_Height : Int32
deriving DecidableEq

/-- `Deserialize` -/
def ImageSize.deserialize (json : Value) (s : ImageSize) :
    Option ImageSize := do
  let m_Width ← json.readIf? "m_Width" Value.isInt "m_Width" Value.asInt?
    s.m_Width
  let m_Height ← json.readIf? "m_Height" Value.isInt "m_Height" Value.asInt?
    s.m_Height
  return { s with
    m_Width
    m_Height }

/-- The index of the pixel that is read. -/
def src (s : ImageSize) (x y : Int32) : UInt32 :=
  (x * 640 / s.m_Width + y * 480 / s.m_Height * 640).toUInt32

/-- The index of the pixel that is written. -/
def dst (s : ImageSize) (x y : Int32) : UInt32 :=
  (x + y * s.m_Width).toUInt32

/-- The rounds of the two loops. -/
def pixels (s : ImageSize) : List (Int32 × Int32) :=
  upTo s.m_Width ×ˢ upTo s.m_Height

/-- What `OnCaptureData` accesses: the indices it reads, and for the color
image the length of the memory and the indices it writes. -/
structure Accesses where
  reads : List UInt32
  writes : Option (ℕ × List UInt32)

/-- The accesses of the loops, unless `new` throws because of a negative
length. -/
def onCaptureData (s : ImageSize) : ImageStream → Option Accesses
  | .color =>
      let length := s.m_Width * s.m_Height
      if length.toInt < 0 then none
      else some
        { reads := (pixels s).map fun p => src s p.1 p.2
          writes := some (length.toInt.toNat,
            (pixels s).map fun p => dst s p.1 p.2) }
  | .depth _ =>
      some
        { reads := (pixels s).map fun p => src s p.1 p.2
          writes := none }

/-- Every index read is one of the image of the sensor, and every index of the
memory is written exactly once, and no other. -/
def InBounds (s : ImageSize) (stream : ImageStream) : Prop :=
  ∀ a, onCaptureData s stream = some a →
    (∀ i ∈ a.reads, i.toNat < 640 * 480) ∧
      ∀ length writes, a.writes = some (length, writes) →
        (writes.map UInt32.toNat).Perm (List.range length)

/-- The sizes whose products by 640 and 480 stay in the range. -/
def Samples (s : ImageSize) : Prop :=
  s.m_Width.toInt ≤ 3355444 ∧ s.m_Height.toInt ≤ 4473925

instance (s : ImageSize) : Decidable (Samples s) :=
  inferInstanceAs (Decidable (_ ∧ _))

/-- There is a pixel. -/
def HasPixels (s : ImageSize) : Prop :=
  0 < s.m_Width.toInt ∧ 0 < s.m_Height.toInt

instance (s : ImageSize) : Decidable (HasPixels s) :=
  inferInstanceAs (Decidable (_ ∧ _))

/-- The sizes that can be resampled.  With pixels, the samples are in the
range, and for the color image the number of pixels is as well, or `new`
throws; without pixels the memory has no length. -/
def Fits (s : ImageSize) : ImageStream → Prop
  | .color =>
      (s.m_Width * s.m_Height).toInt < 0 ∨
        (¬HasPixels s ∧ s.m_Width * s.m_Height = 0) ∨
        (HasPixels s ∧ Samples s ∧
          s.m_Width.toInt * s.m_Height.toInt < 2147483648)
  | .depth _ => ¬HasPixels s ∨ Samples s

/-- Every size is accepted. -/
theorem deserialize_accepts (s t : ImageSize) :
    ImageSize.deserialize (.object (Json.assign "m_Width"
      (.int s.m_Width.toInt) (Json.assign "m_Height"
        (.int s.m_Height.toInt) []))) t = some s := by
  simp [ImageSize.deserialize]

/-! ## Reading -/

variable {s : ImageSize} {x y : Int32}

theorem mem_pixels : (x, y) ∈ pixels s ↔
    (0 ≤ x.toInt ∧ x.toInt < s.m_Width.toInt) ∧
      0 ≤ y.toInt ∧ y.toInt < s.m_Height.toInt := by
  rw [pixels, List.mem_product, mem_upTo, mem_upTo]

theorem toInt_640 : (640 : Int32).toInt = 640 := by decide

theorem toInt_480 : (480 : Int32).toInt = 480 := by decide

/-- In range the quotients are those of the integers. -/
theorem src_lt (hs : Samples s) (h : (x, y) ∈ pixels s) :
    (src s x y).toNat < 640 * 480 := by
  obtain ⟨hwidth, hheight⟩ := hs
  obtain ⟨⟨hx, hxlt⟩, hy, hylt⟩ := mem_pixels.mp h
  have hxmul : (x * 640).toInt = x.toInt * 640 := by
    rw [toInt_mul, toInt_640]
    rw [toInt_640]
    exact ⟨by omega, by omega⟩
  have hymul : (y * 480).toInt = y.toInt * 480 := by
    rw [toInt_mul, toInt_480]
    rw [toInt_480]
    exact ⟨by omega, by omega⟩
  have hcol : (x * 640 / s.m_Width).toInt =
      x.toInt * 640 / s.m_Width.toInt := by
    rw [toInt_div_of_nonneg (by omega) (by omega), hxmul]
  have hrow : (y * 480 / s.m_Height).toInt =
      y.toInt * 480 / s.m_Height.toInt := by
    rw [toInt_div_of_nonneg (by omega) (by omega), hymul]
  have hcol0 : 0 ≤ x.toInt * 640 / s.m_Width.toInt :=
    Int.ediv_nonneg (by omega) (by omega)
  have hcol1 : x.toInt * 640 / s.m_Width.toInt < 640 :=
    Int.ediv_lt_of_lt_mul (by omega) (by omega)
  have hrow0 : 0 ≤ y.toInt * 480 / s.m_Height.toInt :=
    Int.ediv_nonneg (by omega) (by omega)
  have hrow1 : y.toInt * 480 / s.m_Height.toInt < 480 :=
    Int.ediv_lt_of_lt_mul (by omega) (by omega)
  have hmul : (y * 480 / s.m_Height * 640).toInt =
      y.toInt * 480 / s.m_Height.toInt * 640 := by
    rw [toInt_mul, toInt_640, hrow]
    rw [toInt_640, hrow]
    exact ⟨by omega, by omega⟩
  have hsum : (x * 640 / s.m_Width + y * 480 / s.m_Height * 640).toInt =
      x.toInt * 640 / s.m_Width.toInt +
        y.toInt * 480 / s.m_Height.toInt * 640 := by
    rw [toInt_add, hcol, hmul]
    rw [hcol, hmul]
    exact ⟨by omega, by omega⟩
  have hnat := toNat_toUInt32
    (a := x * 640 / s.m_Width + y * 480 / s.m_Height * 640) (by omega)
  rw [src]
  omega

/-- Beyond the range the product by 640 becomes negative. -/
theorem exists_column_neg (hwidth : 3355444 < s.m_Width.toInt) :
    ∃ x : Int32, 0 ≤ x.toInt ∧ x.toInt < s.m_Width.toInt ∧
      (x * 640 / s.m_Width).toInt < 0 := by
  have hpos : 0 < s.m_Width.toInt := by omega
  by_cases hlarge : s.m_Width.toInt ≤ 16777216
  · have hx : (3355444 : Int32).toInt = 3355444 := by decide
    have hmul : (3355444 * 640 : Int32).toInt = -2147483136 := by decide
    exact ⟨3355444, by omega, by omega,
      (toInt_div_neg hpos (by omega)).2⟩
  · have hlt := (inRange_toInt s.m_Width).2
    have hx : (16777216 : Int32).toInt = 16777216 := by decide
    have hmul : (16777216 * 640 : Int32).toInt = -2147483648 := by decide
    exact ⟨16777216, by omega, by omega,
      (toInt_div_neg hpos (by omega)).2⟩

/-- So does the product by 480, and a multiple of the quotient by 640 stays in
the range. -/
theorem exists_row_neg (hheight : 4473925 < s.m_Height.toInt) :
    ∃ y : Int32, 0 ≤ y.toInt ∧ y.toInt < s.m_Height.toInt ∧
      (y * 480 / s.m_Height * 640).toInt < 0 := by
  have hpos : 0 < s.m_Height.toInt := by omega
  have hrow : ∀ y : Int32, s.m_Height.toInt ≤ -(y * 480).toInt →
      (y * 480 / s.m_Height * 640).toInt < 0 := by
    intro y hy
    obtain ⟨hdiv, hneg⟩ := toInt_div_neg hpos hy
    have hge := (inRange_toInt (y * 480)).1
    have hlt : -(y * 480).toInt / s.m_Height.toInt < 481 :=
      Int.ediv_lt_of_lt_mul hpos (by omega)
    rw [toInt_mul, toInt_640]
    · omega
    · rw [toInt_640]
      exact ⟨by omega, by omega⟩
  by_cases hlarge : s.m_Height.toInt ≤ 67108864
  · have hy : (4473925 : Int32).toInt = 4473925 := by decide
    have hmul : (4473925 * 480 : Int32).toInt = -2147483296 := by decide
    exact ⟨4473925, by omega, by omega, hrow _ (by omega)⟩
  · have hlt := (inRange_toInt s.m_Height).2
    have hy : (67108864 : Int32).toInt = 67108864 := by decide
    have hmul : (67108864 * 480 : Int32).toInt = -2147483648 := by decide
    exact ⟨67108864, by omega, by omega, hrow _ (by omega)⟩

theorem exists_src_ge (hpixels : HasPixels s) (hs : ¬Samples s) :
    ∃ p ∈ pixels s, 640 * 480 ≤ (src s p.1 p.2).toNat := by
  have hzero : (0 : Int32).toInt = 0 := rfl
  obtain ⟨hwidth, hheight⟩ := hpixels
  by_cases hcol : s.m_Width.toInt ≤ 3355444
  · obtain ⟨y, hy, hylt, hneg⟩ := exists_row_neg (s := s)
      (not_le.mp fun hrow => hs ⟨hcol, hrow⟩)
    refine ⟨(0, y), mem_pixels.mpr ⟨⟨by omega, by omega⟩, hy, hylt⟩, ?_⟩
    rw [src, Int32.zero_mul, Int32.zero_div, Int32.zero_add]
    exact le_trans (by decide) (le_toNat_toUInt32 hneg)
  · obtain ⟨x, hx, hxlt, hneg⟩ := exists_column_neg (not_le.mp hcol)
    refine ⟨(x, 0), mem_pixels.mpr ⟨⟨hx, hxlt⟩, by omega, by omega⟩, ?_⟩
    rw [src, Int32.zero_mul, Int32.zero_div, Int32.zero_mul, Int32.add_zero]
    exact le_trans (by decide) (le_toNat_toUInt32 hneg)

/-- With pixels, all reads are of the image precisely if the samples are in the
range. -/
theorem reads_iff (hpixels : HasPixels s) :
    (∀ i ∈ (pixels s).map fun p => src s p.1 p.2, i.toNat < 640 * 480) ↔
      Samples s := by
  rw [List.forall_mem_map]
  constructor
  · intro h
    by_contra hs
    obtain ⟨p, hp, hge⟩ := exists_src_ge hpixels hs
    exact absurd (h p hp) (not_lt.mpr hge)
  · exact fun hs p hp => src_lt hs hp

/-! ## Writing -/

/-- The index of a pixel, if the number of pixels is in the range. -/
theorem toNat_dst (hlt : s.m_Width.toInt * s.m_Height.toInt < 2147483648)
    (h : (x, y) ∈ pixels s) :
    ((dst s x y).toNat : ℤ) = x.toInt + y.toInt * s.m_Width.toInt ∧
      x.toInt + y.toInt * s.m_Width.toInt <
        s.m_Width.toInt * s.m_Height.toInt := by
  obtain ⟨⟨hx, hxlt⟩, hy, hylt⟩ := mem_pixels.mp h
  have hrow : (y.toInt + 1) * s.m_Width.toInt ≤
      s.m_Height.toInt * s.m_Width.toInt :=
    mul_le_mul_of_nonneg_right (by omega) (by omega)
  have hnonneg : 0 ≤ y.toInt * s.m_Width.toInt :=
    mul_nonneg hy (by omega)
  rw [add_mul, one_mul, mul_comm s.m_Height.toInt] at hrow
  have hmul : (y * s.m_Width).toInt = y.toInt * s.m_Width.toInt :=
    toInt_mul ⟨by omega, by omega⟩
  have hadd : (x + y * s.m_Width).toInt =
      x.toInt + y.toInt * s.m_Width.toInt := by
    rw [toInt_add, hmul]
    rw [hmul]
    exact ⟨by omega, by omega⟩
  refine ⟨?_, by omega⟩
  rw [dst, toNat_toUInt32 (by omega), hadd]

/-- If the number of pixels is in the range, each has its own index. -/
theorem nodup_dst (hlt : s.m_Width.toInt * s.m_Height.toInt < 2147483648) :
    ((pixels s).map (UInt32.toNat ∘ fun p => dst s p.1 p.2)).Nodup := by
  refine ((nodup_upTo _).product (nodup_upTo _)).map_on ?_
  rintro ⟨x, y⟩ hp ⟨x', y'⟩ hp' heq
  have hidx := (toNat_dst hlt hp).1
  have hidx' := (toNat_dst hlt hp').1
  obtain ⟨⟨hx, hxlt⟩, -⟩ := mem_pixels.mp hp
  obtain ⟨⟨hx', hxlt'⟩, -⟩ := mem_pixels.mp hp'
  have hsame : x.toInt + y.toInt * s.m_Width.toInt =
      x'.toInt + y'.toInt * s.m_Width.toInt := by
    rw [← hidx, ← hidx']
    exact congrArg Nat.cast heq
  -- The column is the remainder by the width.
  have hxx : x.toInt = x'.toInt := by
    have hmod := congrArg (· % s.m_Width.toInt) hsame
    simpa [Int.add_mul_emod_self_right, Int.emod_eq_of_lt hx hxlt,
      Int.emod_eq_of_lt hx' hxlt'] using hmod
  have hyy : y.toInt = y'.toInt := by
    rw [hxx] at hsame
    have hwidth : s.m_Width.toInt ≠ 0 := by omega
    exact mul_right_cancel₀ hwidth (add_left_cancel hsame)
  rw [Int32.toInt_inj.mp hxx, Int32.toInt_inj.mp hyy]

theorem length_pixels (s : ImageSize) :
    (pixels s).length = s.m_Width.toInt.toNat * s.m_Height.toInt.toNat := by
  rw [pixels, List.length_product, length_upTo, length_upTo]

/-- With pixels, each place is written once precisely if the number of pixels
is in the range. -/
theorem writes_iff (hpixels : HasPixels s)
    (hlen : 0 ≤ (s.m_Width * s.m_Height).toInt) :
    (((pixels s).map fun p => dst s p.1 p.2).map UInt32.toNat).Perm
        (List.range (s.m_Width * s.m_Height).toInt.toNat) ↔
      s.m_Width.toInt * s.m_Height.toInt < 2147483648 := by
  obtain ⟨hwidth, hheight⟩ := hpixels
  have hcount : ((s.m_Width.toInt.toNat * s.m_Height.toInt.toNat : ℕ) : ℤ) =
      s.m_Width.toInt * s.m_Height.toInt := by
    rw [Int.natCast_mul, Int.toNat_of_nonneg hwidth.le,
      Int.toNat_of_nonneg hheight.le]
  constructor
  · intro hperm
    have hlength := hperm.length_eq
    rw [List.length_map, List.length_map, length_pixels, List.length_range]
      at hlength
    have hrange := (inRange_toInt (s.m_Width * s.m_Height)).2
    omega
  · intro hlt
    have hpos : 0 < s.m_Width.toInt * s.m_Height.toInt :=
      mul_pos hwidth hheight
    have hmul : (s.m_Width * s.m_Height).toInt =
        s.m_Width.toInt * s.m_Height.toInt := toInt_mul ⟨by omega, hlt⟩
    rw [List.map_map]
    refine (List.subperm_of_subset (nodup_dst hlt) ?_).perm_of_length_le ?_
    · intro i hi
      obtain ⟨⟨x, y⟩, hp, rfl⟩ := List.mem_map.mp hi
      obtain ⟨hidx, hidxlt⟩ := toNat_dst hlt hp
      rw [List.mem_range]
      simp only [Function.comp_apply]
      omega
    · rw [List.length_range, List.length_map, length_pixels]
      omega

/-! ## All sizes -/

theorem pixels_eq_nil (h : ¬HasPixels s) : pixels s = [] := by
  refine List.eq_nil_iff_forall_not_mem.mpr fun ⟨x, y⟩ hp => h ?_
  obtain ⟨⟨hx, hxlt⟩, hy, hylt⟩ := mem_pixels.mp hp
  exact ⟨by omega, by omega⟩

theorem onCaptureData_color (hlen : 0 ≤ (s.m_Width * s.m_Height).toInt) :
    onCaptureData s .color = some
      ⟨(pixels s).map fun p => src s p.1 p.2,
        some ((s.m_Width * s.m_Height).toInt.toNat,
          (pixels s).map fun p => dst s p.1 p.2)⟩ :=
  if_neg (not_lt.mpr hlen)

theorem inBounds_color (hlen : 0 ≤ (s.m_Width * s.m_Height).toInt) :
    InBounds s .color ↔
      (∀ i ∈ (pixels s).map fun p => src s p.1 p.2, i.toNat < 640 * 480) ∧
      (((pixels s).map fun p => dst s p.1 p.2).map UInt32.toNat).Perm
        (List.range (s.m_Width * s.m_Height).toInt.toNat) := by
  have hsome := onCaptureData_color hlen
  constructor
  · intro h
    obtain ⟨hreads, hwrites⟩ := h _ hsome
    exact ⟨hreads, hwrites _ _ rfl⟩
  · rintro ⟨hreads, hwrites⟩ a ha
    obtain rfl := Option.some.inj (hsome.symm.trans ha)
    refine ⟨hreads, fun length writes h => ?_⟩
    obtain ⟨rfl, rfl⟩ := Prod.mk.inj (Option.some.inj h)
    exact hwrites

theorem inBounds_depth {nearMode : Bool} :
    InBounds s (.depth nearMode) ↔
      ∀ i ∈ (pixels s).map fun p => src s p.1 p.2, i.toNat < 640 * 480 := by
  constructor
  · exact fun h => (h _ rfl).1
  · intro hreads a ha
    obtain rfl := Option.some.inj ha
    exact ⟨hreads, fun length writes h => by cases h⟩

/-- The indices are within bounds precisely for the sizes that fit. -/
theorem inBounds_iff (s : ImageSize) (stream : ImageStream) :
    InBounds s stream ↔ Fits s stream := by
  cases stream with
  | color =>
      by_cases hneg : (s.m_Width * s.m_Height).toInt < 0
      · have hthrow : onCaptureData s .color = none := if_pos hneg
        exact ⟨fun _ => Or.inl hneg,
          fun _ a ha => absurd (hthrow.symm.trans ha) (by simp)⟩
      · have hlen := not_lt.mp hneg
        rw [Fits, or_iff_right hneg]
        rw [inBounds_color hlen]
        by_cases hpixels : HasPixels s
        · rw [reads_iff hpixels, writes_iff hpixels hlen]
          simp [hpixels]
        · have hzero : s.m_Width * s.m_Height = 0 ↔
              (s.m_Width * s.m_Height).toInt.toNat = 0 := by
            rw [← Int32.toInt_inj]
            change _ = 0 ↔ _
            omega
          rw [pixels_eq_nil hpixels, hzero]
          simp [hpixels]
  | depth nearMode =>
      rw [inBounds_depth, Fits]
      by_cases hpixels : HasPixels s
      · rw [reads_iff hpixels]
        simp [hpixels]
      · rw [pixels_eq_nil hpixels]
        simp [hpixels]

/-- An image that is too wide. -/
theorem not_inBounds_wide : ¬InBounds ⟨3355445, 1⟩ .color := by
  intro h
  obtain ⟨p, hp, hge⟩ := exists_src_ge (s := ⟨3355445, 1⟩) (by decide)
    (by decide)
  have hreads := ((inBounds_color (by decide)).mp h).1
  exact absurd (hreads _ (List.mem_map_of_mem hp)) (not_lt.mpr hge)

end SelfPlugins.Camera
