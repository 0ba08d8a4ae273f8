import Mathlib.Data.Int.Notation
import Mathlib.Data.List.Basic
import Mathlib.Data.Nat.Notation
import Mathlib.Data.String.Basic

/-!
# Texts

The functions of `StringUtil` belong to the SDK.  They are taken as they come,
and what is relied on is said of them: `Split` cuts a text at every occurrence
of a separator and keeps the pieces as they are, empty ones included, and
`Replace` by nothing removes a character wherever it stands.

`sscanf` reads the fields of a text one after the other, up to the first that
cannot be read, and leaves the variables of the others as they are.
-/

namespace SelfPlugins.Text

/-- The pieces of a text between the separators. -/
def pieces (sep : Char) (s : String) : List String :=
  (s.toList.splitOn sep).map String.ofList

/-- The text without a character. -/
def without (c : Char) (s : String) : String :=
  String.ofList (s.toList.filter (· ≠ c))

/-- Functions of `StringUtil`, with their results; `Compare` and `StartsWith`
are called so that they have no regard to case. -/
structure StringUtil where
  split : String → Char → List String
  compare : String → String → Bool
  startsWith : String → String → Bool
  replace : String → String → String → String
  split_eq : ∀ s sep, split s sep = pieces sep s
  replace_eq : ∀ s c, replace s (String.singleton c) "" = without c s

/-- Two texts are the same without regard to case. -/
def same (a b : String) : Bool :=
  a.toList.map Char.toLower = b.toList.map Char.toLower

/-- `StringUtil`, where `Replace` is called with one character and nothing. -/
def StringUtil.plain : StringUtil where
  split s sep := pieces sep s
  compare := same
  startsWith s start :=
    (start.toList.map Char.toLower).isPrefixOf (s.toList.map Char.toLower)
  replace s old _ := old.toList.foldl (fun s c => without c s) s
  split_eq _ _ := rfl
  replace_eq s c := by
    rw [String.toList_singleton, List.foldl_cons, List.foldl_nil]

variable {sep : Char}

theorem pieces_eq_singleton {s : String} (h : sep ∉ s.toList) :
    pieces sep s = [s] := by
  rw [pieces, List.splitOn_eq_singleton h, List.map_singleton,
    String.ofList_toList]

/-- The first piece ends at the first separator. -/
theorem pieces_append {a : String} (h : sep ∉ a.toList) (b : String) :
    pieces sep (a ++ String.singleton sep ++ b) = a :: pieces sep b := by
  have hlist : (a ++ String.singleton sep ++ b).toList =
      a.toList ++ sep :: b.toList := by
    simp
  rw [pieces, hlist, List.splitOn_append_cons_self_of_not_mem h, List.map_cons,
    String.ofList_toList]
  rfl

/-- There is one piece more than there are separators. -/
theorem length_pieces (sep : Char) (s : String) :
    (pieces sep s).length = s.toList.count sep + 1 := by
  rw [pieces, List.length_map]
  induction s.toList with
  | nil => simp
  | cons c l ih =>
      rw [List.splitOn_cons_eq_if_modifyHead, List.count_cons]
      split
      · rw [List.length_cons, ih]
      · rw [List.length_modifyHead, ih]

/-- A text is in one piece iff it does not contain the separator. -/
theorem pieces_length_eq_one_iff {s : String} :
    (pieces sep s).length = 1 ↔ sep ∉ s.toList := by
  rw [length_pieces, Nat.add_eq_right, List.count_eq_zero]

/-! ## Fields -/

/-- `isspace` -/
def isSpace (c : Char) : Bool :=
  c = ' ' || decide (9 ≤ c.toNat ∧ c.toNat ≤ 13)

/-- The value of decimal digits. -/
def digitsValue (digits : List Char) : ℕ :=
  digits.foldl (fun n c => 10 * n + (c.toNat - 48)) 0

/-- An optional sign and the digits that follow, with the rest of the text. -/
def scanInt (s : List Char) : Option (ℤ × List Char) :=
  let negative := s.head? = some '-'
  let s := if negative ∨ s.head? = some '+' then s.tail else s
  let digits := s.takeWhile Char.isDigit
  if digits = [] then none
  else
    some (if negative then -(digitsValue digits : ℤ) else digitsValue digits,
      s.dropWhile Char.isDigit)

variable {α : Type*}

/-- The values of the first `n` fields of a text that `sscanf` can read. -/
def scanFields (scan : List Char → Option (α × List Char)) :
    ℕ → List Char → List α
  | 0, _ => []
  | n + 1, s =>
      match scan (s.dropWhile isSpace) with
      | none => []
      | some (value, rest) => value :: scanFields scan n rest

/-- The `i`-th variable after `sscanf`, which was `undefined i` before. -/
def assigned (values : List α) (undefined : ℕ → α) (i : ℕ) : α :=
  values.getD i (undefined i)

theorem length_scanFields_le (scan : List Char → Option (α × List Char))
    (n : ℕ) (s : List Char) : (scanFields scan n s).length ≤ n := by
  induction n generalizing s with
  | zero => exact Nat.le_refl 0
  | succ n ih =>
      unfold scanFields
      split
      · exact Nat.zero_le _
      · exact Nat.succ_le_succ (ih _)

/-- A variable whose field has been read does not depend on what it was. -/
theorem assigned_of_lt {values : List α} {i : ℕ} (hi : i < values.length)
    (undefined : ℕ → α) : assigned values undefined i = values[i] := by
  rw [assigned, List.getD_eq_getElem?_getD, List.getElem?_eq_getElem hi,
    Option.getD_some]

/-- A variable whose field has not been read is as it was. -/
theorem assigned_of_le {values : List α} {i : ℕ} (hi : values.length ≤ i)
    (undefined : ℕ → α) : assigned values undefined i = undefined i := by
  rw [assigned, List.getD_eq_getElem?_getD, List.getElem?_eq_none hi,
    Option.getD_none]

end SelfPlugins.Text
