import Mathlib.Algebra.Order.Ring.Rat
import Mathlib.Data.List.Pairwise
import Mathlib.Tactic.Common
import SelfPlugins.Framework.Json

/-!
# Saving and loading objects

What the functions `Serialize` and `Deserialize` of the plugins share: the
tests and conversions of `Json::Value`, the members an object has after some
were assigned, and the vectors of `ISerializable`.

A conversion to `int` is partial: the library throws if the number is out of
range.

`SerializeVector` and `DeserializeVector` belong to the SDK.  A `VectorFormat`
is what they make of one member, where it is assumed that the elements come back
(`load_store`); `serializeVector` assumes that the member is always written, for
an empty vector, too, and `deserializeVector` that the vector is always replaced
if the member is there, and never if it is not.
-/

namespace SelfPlugins.Json

namespace Value

/-! ## Tests and conversions -/

def isBool : Value → Bool
  | .bool _ => true
  | _ => false

def isString : Value → Bool
  | .string _ => true
  | _ => false

/-- Is the value an integral number in the range of `int`? -/
def isInt : Value → Bool
  | .int i => -2147483648 ≤ i ∧ i ≤ 2147483647
  | .real q => -2147483648 ≤ q ∧ q ≤ 2147483647 ∧ q.den = 1
  | _ => false

/-- Any number will do for `isDouble`, and for `isNumeric`. -/
def isDouble : Value → Bool
  | .int _ => true
  | .real _ => true
  | _ => false

def isNumeric (v : Value) : Bool := v.isDouble

def asBool? : Value → Option Bool
  | .null => some false
  | .bool b => some b
  | .int i => some (i ≠ 0)
  | .real q => some (q ≠ 0)
  | _ => none

/-- `asInt`, which drops the fraction of a number. -/
def asInt? : Value → Option Int32
  | .null => some 0
  | .bool b => some (if b then 1 else 0)
  | .int i =>
      if -2147483648 ≤ i ∧ i ≤ 2147483647 then some (Int32.ofInt i) else none
  | .real q =>
      if -2147483648 ≤ q ∧ q ≤ 2147483647 then
        some (Int32.ofInt (q.num.tdiv q.den))
      else none
  | _ => none

@[simp] theorem isBool_bool (b : Bool) : (Value.bool b).isBool = true := rfl

@[simp] theorem isString_string (s : String) :
    (Value.string s).isString = true := rfl

@[simp] theorem isInt_string (s : String) : (Value.string s).isInt = false :=
  rfl

theorem toInt_mem_range (x : Int32) :
    -2147483648 ≤ x.toInt ∧ x.toInt ≤ 2147483647 := by
  have hle := x.le_toInt
  have hlt := x.toInt_lt
  omega

@[simp] theorem isInt_int (x : Int32) : (Value.int x.toInt).isInt = true :=
  decide_eq_true (toInt_mem_range x)

@[simp] theorem isDouble_real (q : ℚ) : (Value.real q).isDouble = true := rfl

@[simp] theorem isNumeric_null : Value.null.isNumeric = false := rfl

@[simp] theorem asBool?_bool (b : Bool) : (Value.bool b).asBool? = some b :=
  rfl

@[simp] theorem asInt?_int (x : Int32) :
    (Value.int x.toInt).asInt? = some x := by
  rw [asInt?, if_pos (toInt_mem_range x), Int32.ofInt_toInt]

/-- `if ( json[guard].test() ) x = json[key].read()`, with the value `old` of
`x` before. -/
def readIf? {α : Type} (guard : String) (test : Value → Bool) (key : String)
    (read : Value → Option α) (old : α) (json : Value) : Option α := do
  if test (← json.get? guard) then read (← json.get? key) else some old

@[simp] theorem readIf?_object {α : Type} (guard : String)
    (test : Value → Bool) (key : String) (read : Value → Option α) (old : α)
    (ms : List (String × Value)) :
    (Value.object ms).readIf? guard test key read old =
      if test ((lookup guard ms).getD .null) then
        read ((lookup key ms).getD .null)
      else some old := rfl

end Value

/-! ## Members after assignments -/

section Members

variable {α : Type*} {key : String} {value : α} {ms : List (String × α)}

@[simp] theorem lookup_assign (key k : String) (value : α)
    (ms : List (String × α)) :
    lookup key (assign k value ms) =
      if k = key then some value else lookup key ms := by
  induction ms with
  | nil => rfl
  | cons m ms ih =>
      obtain ⟨l, v⟩ := m
      rw [assign]
      split
      · next hl =>
        subst hl
        by_cases hk : l = key
        · simp [hk]
        · simp [hk]
      · next hl =>
        split
        · rfl
        · rw [lookup_cons, ih, lookup_cons]
          by_cases hk : k = key
          · rw [if_pos hk, if_neg fun h => hl (h.trans hk.symm), if_pos hk]
          · rw [if_neg hk, if_neg hk]

/-- The keys of an object come in order. -/
def Ordered (ms : List (String × α)) : Prop :=
  ms.Pairwise fun m n => m.1 < n.1

instance (ms : List (String × α)) : Decidable (Ordered ms) :=
  inferInstanceAs (Decidable (ms.Pairwise fun m n => m.1 < n.1))

theorem mem_of_lookup (h : lookup key ms = some value) : (key, value) ∈ ms := by
  induction ms with
  | nil => cases h
  | cons m ms ih =>
      obtain ⟨k, v⟩ := m
      rw [lookup_cons] at h
      split at h
      · next hk =>
        rw [hk, Option.some.inj h]
        exact List.mem_cons_self
      · exact List.mem_cons_of_mem _ (ih h)

/-- Assigning the value a member has changes nothing, and nothing else does
not. -/
theorem assign_eq_self (hms : Ordered ms) :
    assign key value ms = ms ↔ lookup key ms = some value := by
  constructor
  · intro h
    rw [← h, lookup_assign, if_pos rfl]
  · intro h
    induction ms with
    | nil => cases h
    | cons m ms ih =>
        obtain ⟨k, v⟩ := m
        obtain ⟨hlt, hms⟩ := List.pairwise_cons.mp hms
        rw [lookup_cons] at h
        rw [assign]
        split at h
        · next hk =>
          rw [if_pos hk, hk, Option.some.inj h]
        · next hk =>
          have hkey : k < key := hlt _ (mem_of_lookup h)
          rw [if_neg hk, if_neg hkey.not_gt, ih hms h]

end Members

/-! ## Vectors -/

/-- How `SerializeVector` and `DeserializeVector` keep the values of a list in
one member. -/
structure VectorFormat where
  store : List Value → Value
  load : Value → List Value
  load_store : ∀ vs, load (store vs) = vs
  /-- The elements stand inside the member. -/
  sizeOf_lt : ∀ {v w : Value}, w ∈ load v → sizeOf w < sizeOf v

namespace VectorFormat

/-- The elements are kept in an array. -/
def arrays : VectorFormat where
  store := .array
  load := Value.elements
  load_store _ := rfl
  sizeOf_lt := by
    intro v w hw
    cases v with
    | array items =>
        have hlt : sizeOf w < sizeOf items := List.sizeOf_lt_of_mem hw
        rw [Value.array.sizeOf_spec]
        omega
    | _ => exact absurd hw List.not_mem_nil

variable {α : Type} (fmt : VectorFormat)

/-- `SerializeVector`, given what `Serialize` makes of the elements: the member
is always written. -/
def serializeVector (name : String) (values : List Value)
    (json : List (String × Value)) : List (String × Value) :=
  assign name (fmt.store values) json

/-- The values `DeserializeVector` makes new elements of. -/
def elements (name : String) : Value → List Value
  | .object ms => ((lookup name ms).map fmt.load).getD []
  | _ => []

/-- `DeserializeVector`, which reads the elements one by one: the vector is
always replaced if the member is there, and left alone if it is missing. -/
def deserializeVector (name : String) (json : Value)
    (read : { w // w ∈ fmt.elements name json } → Option α) (old : List α) :
    Option (List α) := do
  if ← json.isMember? name then (fmt.elements name json).attach.mapM read
  else some old

theorem sizeOf_lt_of_mem_elements {name : String} {json w : Value}
    (hw : w ∈ fmt.elements name json) : sizeOf w < sizeOf json := by
  unfold elements at hw
  split at hw
  · next ms =>
    cases h : lookup name ms with
    | none => simp [h] at hw
    | some v =>
        simp only [h, Option.map_some, Option.getD_some] at hw
        have hv := List.sizeOf_lt_of_mem (mem_of_lookup h)
        have hlt := fmt.sizeOf_lt hw
        simp only [Prod.mk.sizeOf_spec] at hv
        rw [Value.object.sizeOf_spec]
        omega
  · cases hw

/-- A vector whose elements can be read back is read back. -/
theorem deserializeVector_of_lookup {name : String} {write : α → Value}
    {xs : List α} {ms : List (String × Value)} (read : Value → Option α)
    (h : ∀ x ∈ xs, read (write x) = some x) (old : List α)
    (hms : lookup name ms = some (fmt.store (xs.map write))) :
    fmt.deserializeVector name (.object ms) (fun w => read w.1) old =
      some xs := by
  have helements : fmt.elements name (.object ms) = xs.map write := by
    rw [elements, hms, Option.map_some, Option.getD_some, fmt.load_store]
  simp [deserializeVector, hms, helements, mapM_map_of_inverse h]

end VectorFormat

end SelfPlugins.Json
