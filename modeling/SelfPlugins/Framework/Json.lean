import Mathlib.Data.Rat.Defs
import Mathlib.Data.String.Basic

/-!
# JSON values

The `Json::Value` trees the plugins read and write.  The members of an object
are kept by key, as the library does with its ordered map.  Accessors that the
library only allows on some types are partial: `none` stands for the failed
precondition, where the library throws.
-/

namespace SelfPlugins.Json

inductive Value where
  | null
  | bool (b : Bool)
  | int (i : ℤ)
  | real (q : ℚ)
  | string (s : String)
  | array (items : List Value)
  | object (members : List (String × Value))
deriving Repr, Inhabited

mutual

/-- Equality of values, decided along the tree. -/
def Value.decEq : (v w : Value) → Decidable (v = w)
  | .null, .null => isTrue rfl
  | .bool a, .bool b => decidable_of_iff (a = b) (by simp)
  | .int a, .int b => decidable_of_iff (a = b) (by simp)
  | .real a, .real b => decidable_of_iff (a = b) (by simp)
  | .string a, .string b => decidable_of_iff (a = b) (by simp)
  | .array a, .array b =>
      match itemsDecEq a b with
      | isTrue h => isTrue (by rw [h])
      | isFalse h => isFalse (by simpa using h)
  | .object a, .object b =>
      match membersDecEq a b with
      | isTrue h => isTrue (by rw [h])
      | isFalse h => isFalse (by simpa using h)
  | .null, .bool _ | .null, .int _ | .null, .real _ | .null, .string _
  | .null, .array _ | .null, .object _ => isFalse nofun
  | .bool _, .null | .bool _, .int _ | .bool _, .real _ | .bool _, .string _
  | .bool _, .array _ | .bool _, .object _ => isFalse nofun
  | .int _, .null | .int _, .bool _ | .int _, .real _ | .int _, .string _
  | .int _, .array _ | .int _, .object _ => isFalse nofun
  | .real _, .null | .real _, .bool _ | .real _, .int _ | .real _, .string _
  | .real _, .array _ | .real _, .object _ => isFalse nofun
  | .string _, .null | .string _, .bool _ | .string _, .int _
  | .string _, .real _ | .string _, .array _ | .string _, .object _ =>
      isFalse nofun
  | .array _, .null | .array _, .bool _ | .array _, .int _ | .array _, .real _
  | .array _, .string _ | .array _, .object _ => isFalse nofun
  | .object _, .null | .object _, .bool _ | .object _, .int _
  | .object _, .real _ | .object _, .string _ | .object _, .array _ =>
      isFalse nofun

def itemsDecEq : (a b : List Value) → Decidable (a = b)
  | [], [] => isTrue rfl
  | [], _ :: _ => isFalse nofun
  | _ :: _, [] => isFalse nofun
  | v :: vs, w :: ws =>
      match Value.decEq v w, itemsDecEq vs ws with
      | isTrue h, isTrue hs => isTrue (by rw [h, hs])
      | isFalse h, _ => isFalse (by simp [h])
      | _, isFalse hs => isFalse (by simp [hs])

def membersDecEq : (a b : List (String × Value)) → Decidable (a = b)
  | [], [] => isTrue rfl
  | [], _ :: _ => isFalse nofun
  | _ :: _, [] => isFalse nofun
  | (k, v) :: vs, (l, w) :: ws =>
      match decEq k l, Value.decEq v w, membersDecEq vs ws with
      | isTrue h, isTrue hv, isTrue hs => isTrue (by rw [h, hv, hs])
      | isFalse h, _, _ => isFalse (by simp [h])
      | _, isFalse hv, _ => isFalse (by simp [hv])
      | _, _, isFalse hs => isFalse (by simp [hs])

end

instance : DecidableEq Value := Value.decEq

/-! ## Members of objects

An ordered map by string keys; request headers are kept in the same way. -/

variable {α : Type*}

/-- The value of a key among the members of an object. -/
def lookup (key : String) : List (String × α) → Option α
  | [] => none
  | (k, v) :: ms => if k = key then some v else lookup key ms

/-- Assign a member, at its place in the order of the keys. -/
def assign (key : String) (value : α) :
    List (String × α) → List (String × α)
  | [] => [(key, value)]
  | (k, v) :: ms =>
      if k = key then (key, value) :: ms
      else if key < k then (key, value) :: (k, v) :: ms
      else (k, v) :: assign key value ms

/-- Remove a member. -/
def remove (key : String) (ms : List (String × α)) :
    List (String × α) :=
  ms.filter fun m => m.1 ≠ key

@[simp] theorem lookup_nil (key : String) :
    lookup key ([] : List (String × α)) = none := rfl

@[simp] theorem lookup_cons (key k : String) (v : α)
    (ms : List (String × α)) :
    lookup key ((k, v) :: ms) = if k = key then some v else lookup key ms :=
  rfl

namespace Value

def isNull : Value → Bool
  | .null => true
  | _ => false

theorem isNull_iff (v : Value) : v.isNull = true ↔ v = .null := by
  cases v <;> simp [isNull]

/-- The members of an object; null counts as an object without members. -/
def members? : Value → Option (List (String × Value))
  | .null => some []
  | .object ms => some ms
  | _ => none

/-- `operator[]` on a constant value: null when the key is missing. -/
def get? (v : Value) (key : String) : Option Value :=
  v.members?.map fun ms => (lookup key ms).getD .null

def isMember? (v : Value) (key : String) : Option Bool :=
  v.members?.map fun ms => (lookup key ms).isSome

/-- Assignment through `operator[]`, which turns null into an object. -/
def set? (v : Value) (key : String) (value : Value) : Option Value :=
  v.members?.map fun ms => .object (assign key value ms)

def removeMember? (v : Value) (key : String) : Option Value :=
  v.members?.map fun ms => .object (remove key ms)

/-- `asString`; `realText` prints a floating-point number. -/
def asString? (realText : ℚ → String) : Value → Option String
  | .null => some ""
  | .bool b => some (if b then "true" else "false")
  | .int i => some (toString i)
  | .real q => some (realText q)
  | .string s => some s
  | .array _ => none
  | .object _ => none

def asDouble? : Value → Option ℚ
  | .null => some 0
  | .bool b => some (if b then 1 else 0)
  | .int i => some i
  | .real q => some q
  | .string _ => none
  | .array _ => none
  | .object _ => none

/-- The elements of an array; nothing else has any. -/
def elements : Value → List Value
  | .array items => items
  | _ => []

/-- `size`: the number of elements or members. -/
def size : Value → ℕ
  | .array items => items.length
  | .object ms => ms.length
  | _ => 0

/-- `operator[]` with an index; null counts as an empty array, and elements
past the end are null. -/
def at? (i : ℕ) : Value → Option Value
  | .null => some .null
  | .array items => some (items.getD i .null)
  | _ => none

/-- `if ( json.isMember( key ) ) x = read( json[key] )`, with the value `old`
of `x` before. -/
def read? (key : String) (read : Value → Option α) (old : α) (v : Value) :
    Option α :=
  v.members?.bind fun ms =>
    match lookup key ms with
    | some w => read w
    | none => some old

@[simp] theorem read?_object (key : String) (read : Value → Option α) (old : α)
    (ms : List (String × Value)) :
    (Value.object ms).read? key read old =
      match lookup key ms with
      | some w => read w
      | none => some old := rfl

@[simp] theorem elements_array (items : List Value) :
    (Value.array items).elements = items := rfl

@[simp] theorem get?_object (ms : List (String × Value)) (key : String) :
    (Value.object ms).get? key = some ((lookup key ms).getD .null) := rfl

@[simp] theorem isMember?_object (ms : List (String × Value)) (key : String) :
    (Value.object ms).isMember? key = some (lookup key ms).isSome := rfl

@[simp] theorem set?_object (ms : List (String × Value)) (key : String)
    (v : Value) :
    (Value.object ms).set? key v = some (.object (assign key v ms)) := rfl

@[simp] theorem removeMember?_object (ms : List (String × Value))
    (key : String) :
    (Value.object ms).removeMember? key = some (.object (remove key ms)) := rfl

@[simp] theorem asString?_string (realText : ℚ → String) (s : String) :
    (Value.string s).asString? realText = some s := rfl

@[simp] theorem asDouble?_real (q : ℚ) : (Value.real q).asDouble? = some q :=
  rfl

end Value

/-- Elements that can be read back one by one are read back together. -/
theorem mapM_map_of_inverse {α β : Type} {write : α → β} {read : β → Option α}
    {xs : List α} (h : ∀ x ∈ xs, read (write x) = some x) :
    (xs.map write).mapM read = some xs := by
  induction xs with
  | nil => rfl
  | cons x xs ih =>
      rw [List.map_cons, List.mapM_cons, h x List.mem_cons_self,
        ih fun y hy => h y (List.mem_cons_of_mem x hy)]
      rfl

end SelfPlugins.Json
