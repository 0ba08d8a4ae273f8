import SelfPlugins.Framework.Serializable

/-!
# Building JSON values in place

The plugins build values by assignments through chains of `operator[]`, such as
`json["points"][0]["positions"][i] = x`: a member or element that is missing is
created as null, and null turns into an object or an array when it is used as
one.  `update?` and `updateAt?` are one link of such a chain, `set?` and
`setAt?` the assignment at its end.  `Makes` says what a chain makes of a value
in terms of what can be read afterwards.
-/

namespace SelfPlugins.Json

namespace Value

/-- Assignment through `operator[]` with an index; elements in between are
null. -/
def setAt? (v : Value) (i : ℕ) (value : Value) : Option Value :=
  match v with
  | .null => some (.array (List.replicate i .null ++ [value]))
  | .array items =>
      some (.array (if i < items.length then items.set i value
        else items ++ List.replicate (i - items.length) .null ++ [value]))
  | _ => none

/-- A change of the value of a key. -/
def update? (v : Value) (key : String) (change : Value → Option Value) :
    Option Value := do
  v.set? key (← change (← v.get? key))

/-- A change of an element. -/
def updateAt? (v : Value) (i : ℕ) (change : Value → Option Value) :
    Option Value := do
  v.setAt? i (← change (← v.at? i))

end Value

/-- The array of some elements, as assignments have built it: null as long as
there is none. -/
def arrayOf (vs : List Value) : Value :=
  if vs = [] then .null else .array vs

@[simp] theorem elements_arrayOf (vs : List Value) :
    (arrayOf vs).elements = vs := by
  unfold arrayOf
  split
  · rename_i h
    rw [h]
    rfl
  · rfl

/-- The next element. -/
theorem setAt?_arrayOf (vs : List Value) (w : Value) :
    (arrayOf vs).setAt? vs.length w = some (arrayOf (vs ++ [w])) := by
  unfold arrayOf
  rw [if_neg (List.append_ne_nil_of_right_ne_nil vs (List.cons_ne_nil w []))]
  split
  · rename_i h
    rw [h]
    rfl
  · simp [Value.setAt?]

/-- An element of an array, which is null if it has not been assigned. -/
theorem at?_arrayOf (vs : List Value) (i : ℕ) :
    (arrayOf vs).at? i = some (vs.getD i .null) := by
  unfold arrayOf
  split
  · rename_i h
    rw [h]
    rfl
  · rfl

section Elements

variable (vs : List Value) {w x : Value} {f : Value → Option Value}

/-- A change of the next element, which is null. -/
theorem updateAt?_next (hf : f .null = some x) :
    (arrayOf vs).updateAt? vs.length f = some (arrayOf (vs ++ [x])) := by
  have hnull : vs.getD vs.length Value.null = .null := by simp
  simp only [Value.updateAt?, at?_arrayOf, Option.bind_eq_bind,
    Option.bind_some, hnull, hf, setAt?_arrayOf]

/-- A change of the last element. -/
theorem updateAt?_last (hf : f w = some x) :
    (arrayOf (vs ++ [w])).updateAt? vs.length f =
      some (arrayOf (vs ++ [x])) := by
  have hlast : (vs ++ [w]).getD vs.length Value.null = w := by simp
  have hset : (arrayOf (vs ++ [w])).setAt? vs.length x =
      some (arrayOf (vs ++ [x])) := by
    simp [arrayOf, Value.setAt?]
  simp only [Value.updateAt?, at?_arrayOf, Option.bind_eq_bind,
    Option.bind_some, hlast, hf, hset]

end Elements

section Keys

variable {v w x : Value} {key l : String}
  {f : Value → Option Value}

theorem get?_set? (h : v.set? key x = some w) (l : String) :
    w.get? l = if key = l then some x else v.get? l := by
  obtain ⟨ms, hms, rfl⟩ := Option.map_eq_some_iff.mp h
  rw [Value.get?_object, lookup_assign, Value.get?, hms]
  split <;> rfl

/-- What can be read can be assigned to. -/
theorem set?_of_get? (h : v.get? key = some w) (l : String) (x : Value) :
    ∃ v', v.set? l x = some v' := by
  obtain ⟨ms, hms, -⟩ := Option.map_eq_some_iff.mp h
  exact ⟨.object (assign l x ms), by rw [Value.set?, hms]; rfl⟩

/-- A member that is not null is there. -/
theorem read?_of_get? {α : Type} (h : v.get? key = some w)
    (hw : w ≠ .null) (read : Value → Option α) (old : α) :
    v.read? key read old = read w := by
  obtain ⟨ms, hms, hget⟩ := Option.map_eq_some_iff.mp h
  rw [Value.read?, hms, Option.bind_some]
  cases hlookup : lookup key ms with
  | none =>
      rw [hlookup, Option.getD_none] at hget
      exact absurd hget.symm hw
  | some w' =>
      rw [hlookup, Option.getD_some] at hget
      rw [hget]

/-- A member that is missing is null. -/
theorem isMember?_cases (h : v.get? key = some w) :
    v.isMember? key = some true ∨ v.isMember? key = some false ∧ w = .null := by
  obtain ⟨ms, hms, hget⟩ := Option.map_eq_some_iff.mp h
  rw [Value.isMember?, hms, Option.map_some]
  cases hlookup : lookup key ms with
  | none =>
      rw [hlookup, Option.getD_none] at hget
      exact Or.inr ⟨rfl, hget.symm⟩
  | some w' => exact Or.inl rfl

/-- A change of one key, and of no other. -/
theorem update?_spec (h : v.get? key = some w)
    (hf : f w = some x) :
    ∃ v', v.update? key f = some v' ∧
      ∀ l, v'.get? l = if key = l then some x else v.get? l := by
  obtain ⟨v', hv'⟩ := set?_of_get? h key x
  refine ⟨v', ?_, get?_set? hv'⟩
  simp [Value.update?, h, hf, hv']

/-- A change of the first element, which is assigned for the first time or is
the only one. -/
theorem updateAt?_zero {vs : List Value} (hvs : vs.length ≤ 1)
    (hf : f (vs.getD 0 .null) = some x) :
    (arrayOf vs).updateAt? 0 f = some (arrayOf [x]) := by
  have hset : (arrayOf vs).setAt? 0 x = some (arrayOf [x]) := by
    match vs, hvs with
    | [], _ => rfl
    | [_], _ => rfl
  simp only [Value.updateAt?, at?_arrayOf, Option.bind_eq_bind,
    Option.bind_some, hf, hset]

end Keys

end SelfPlugins.Json
