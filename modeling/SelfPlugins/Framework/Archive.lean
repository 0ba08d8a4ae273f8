import SelfPlugins.Framework.Serializable

/-!
# Archives

`Serialize` and `Deserialize` of most classes go through the same members, one
after the other.  A `Codec` says how a value is written and read, a `Member` adds
the key, the guard under which the member is read and its place in the object,
and an `Archive` lists the members of a class.

`Archive.deserialize_serialize` says what a saved object comes back as, whatever
the object that reads was like before.
-/

namespace SelfPlugins.Json

/-- How vectors are kept, the text of a number, and the `float` that is made of
a number. -/
structure Formats where
  vectors : VectorFormat
  realText : ℚ → String
  toFloat : ℚ → ℚ
  toFloat_toFloat : ∀ q, toFloat (toFloat q) = toFloat q

/-- The numbers that are a `float`. -/
abbrev Formats.Float (F : Formats) : Type := { q : ℚ // F.toFloat q = q }

namespace Value

/-- `asFloat` -/
def asFloat? (F : Formats) (v : Value) : Option F.Float :=
  v.asDouble?.map fun q => ⟨F.toFloat q, F.toFloat_toFloat q⟩

/-- `asUInt`, which drops the fraction of a number. -/
def asUInt? : Value → Option UInt32
  | .null => some 0
  | .bool b => some (if b then 1 else 0)
  | .int i =>
      if 0 ≤ i ∧ i ≤ 4294967295 then some (UInt32.ofNat i.toNat) else none
  | .real q =>
      if 0 ≤ q ∧ q ≤ 4294967295 then
        some (UInt32.ofNat (q.num.tdiv q.den).toNat)
      else none
  | _ => none

@[simp] theorem asUInt?_int (x : UInt32) :
    (Value.int x.toNat).asUInt? = some x := by
  have hlt := x.toNat_lt
  rw [asUInt?, if_pos ⟨Int.natCast_nonneg _, by omega⟩, Int.toNat_natCast,
    UInt32.ofNat_toNat]

end Value

/-! ## Values -/

/-- How a value is written and read; `kept` is what comes back. -/
structure Codec (α : Type) where
  write : α → Value
  read : Value → Option α
  kept : α → α
  read_write : ∀ x, read (write x) = some (kept x)

namespace Codec

def string (F : Formats) : Codec String where
  write := .string
  read := Value.asString? F.realText
  kept := id
  read_write _ := rfl

def bool : Codec Bool where
  write := .bool
  read := Value.asBool?
  kept := id
  read_write _ := rfl

def int : Codec Int32 where
  write x := .int x.toInt
  read := Value.asInt?
  kept := id
  read_write := Value.asInt?_int

def uint : Codec UInt32 where
  write x := .int x.toNat
  read := Value.asUInt?
  kept := id
  read_write := Value.asUInt?_int

def double : Codec ℚ where
  write := .real
  read := Value.asDouble?
  kept := id
  read_write _ := rfl

def float (F : Formats) : Codec F.Float where
  write x := .real x.1
  read := Value.asFloat? F
  kept := id
  read_write x := congrArg some (Subtype.ext x.2)

/-- A `double` that is read as a `float`. -/
def narrowed (F : Formats) : Codec ℚ where
  write := .real
  read v := (v.asFloat? F).map Subtype.val
  kept := F.toFloat
  read_write _ := rfl

end Codec

/-! ## Members -/

/-- A member of an object: `put s t` is `t` with what comes back of the member
of `s`. -/
structure Member (σ : Type) where
  key : String
  save : σ → Value
  load : Value → σ → Option σ
  put : σ → σ → σ
  load_save : ∀ {ms : List (String × Value)} {s : σ},
    lookup key ms = some (save s) →
      ∀ t, load (.object ms) t = some (put s t)

namespace Codec

variable {α σ : Type} (c : Codec α)

/-- `if ( json.isMember( key ) ) x = json[key].read()` -/
def member (key : String) (get : σ → α) (set : α → σ → σ) : Member σ where
  key := key
  save s := c.write (get s)
  load json t := (json.read? key c.read (get t)).map fun x => set x t
  put s t := set (c.kept (get s)) t
  load_save h t := by
    rw [Value.read?_object, h]
    exact congrArg (Option.map fun x => set x t) (c.read_write _)

/-- `if ( json[key].test() ) x = json[key].read()` -/
def memberIf (test : Value → Bool) (htest : ∀ x, test (c.write x) = true)
    (key : String) (get : σ → α) (set : α → σ → σ) : Member σ where
  key := key
  save s := c.write (get s)
  load json t :=
    (json.readIf? key test key c.read (get t)).map fun x => set x t
  put s t := set (c.kept (get s)) t
  load_save h t := by
    rw [Value.readIf?_object, h, Option.getD_some, if_pos (htest _),
      c.read_write]
    rfl

/-- `x = json[key].read()` -/
def memberAlways (key : String) (get : σ → α) (set : α → σ → σ) :
    Member σ where
  key := key
  save s := c.write (get s)
  load json t := ((json.get? key).bind c.read).map fun x => set x t
  put s t := set (c.kept (get s)) t
  load_save h t := by
    rw [Value.get?_object, h, Option.getD_some, Option.bind_some, c.read_write]
    rfl

/-- `SerializeVector` and `DeserializeVector`, for values that come back as they
are. -/
def vector (F : Formats) (hkept : ∀ x, c.kept x = x) (key : String)
    (get : σ → List α) (set : List α → σ → σ) : Member σ where
  key := key
  save s := F.vectors.store ((get s).map c.write)
  load json t :=
    (F.vectors.deserializeVector key json (fun w => c.read w.1)
      (get t)).map fun xs => set xs t
  put s t := set (get s) t
  load_save h t := by
    rw [F.vectors.deserializeVector_of_lookup c.read
      (fun x _ => (c.read_write x).trans (congrArg some (hkept x))) _ h]
    rfl

end Codec

/-- The vectors of texts. -/
def texts {σ : Type} (F : Formats) (key : String) (get : σ → List String)
    (set : List String → σ → σ) : Member σ :=
  (Codec.string F).vector F (fun _ => rfl) key get set

/-! ## Classes -/

/-- The members of a class, and what `Deserialize` does after it has read them;
`kept` is what comes back of an object. -/
structure Archive (σ : Type) where
  members : List (Member σ)
  finish : σ → σ := id
  kept : σ → σ := id
  keys : List String := members.map Member.key
  keys_eq : members.map Member.key = keys := by rfl
  nodup : keys.Nodup := by decide
  finish_put : ∀ s t, finish (members.foldl (fun t m => m.put s t) t) =
    kept s := by intros; rfl
  kept_kept : ∀ s, kept (kept s) = kept s := by intros; rfl

namespace Archive

variable {σ : Type} (A : Archive σ)

def serialize (s : σ) (json : List (String × Value)) : List (String × Value) :=
  A.members.foldl (fun json m => assign m.key (m.save s) json) json

def deserialize (json : Value) (t : σ) : Option σ :=
  (A.members.foldlM (fun t (m : Member σ) => m.load json t) t).map A.finish

/-- Later members do not overwrite an earlier one. -/
theorem lookup_foldl_assign_of_not_mem {key : String} (s : σ)
    (members : List (Member σ)) (h : key ∉ members.map Member.key)
    (json : List (String × Value)) :
    lookup key (members.foldl
      (fun json m => assign m.key (m.save s) json) json) =
        lookup key json := by
  induction members generalizing json with
  | nil => rfl
  | cons m members ih =>
      rw [List.map_cons, List.mem_cons, not_or] at h
      rw [List.foldl_cons, ih h.2, lookup_assign, if_neg (Ne.symm h.1)]

/-- Every member is found under its key. -/
theorem lookup_foldl_assign (s : σ) {members : List (Member σ)}
    (hnodup : (members.map Member.key).Nodup) {m : Member σ}
    (hm : m ∈ members) (json : List (String × Value)) :
    lookup m.key (members.foldl
      (fun json m => assign m.key (m.save s) json) json) =
        some (m.save s) := by
  induction members generalizing json with
  | nil => cases hm
  | cons n members ih =>
      obtain ⟨hnot, hnodup⟩ := List.nodup_cons.mp hnodup
      rw [List.foldl_cons]
      rcases List.mem_cons.mp hm with rfl | hm
      · rw [lookup_foldl_assign_of_not_mem s members hnot, lookup_assign,
          if_pos rfl]
      · exact ih hnodup hm _

/-- Members that are found are read one after the other. -/
theorem foldlM_load {s : σ} {members : List (Member σ)}
    {ms : List (String × Value)}
    (h : ∀ m ∈ members, lookup m.key ms = some (m.save s)) (t : σ) :
    members.foldlM (fun t (m : Member σ) => m.load (.object ms) t) t =
      some (members.foldl (fun t m => m.put s t) t) := by
  induction members generalizing t with
  | nil => rfl
  | cons m members ih =>
      rw [List.foldlM_cons, m.load_save (h m List.mem_cons_self),
        List.foldl_cons]
      exact ih (fun n hn => h n (List.mem_cons_of_mem m hn)) _

theorem deserialize_serialize (s : σ) (json : List (String × Value)) (t : σ) :
    A.deserialize (.object (A.serialize s json)) t = some (A.kept s) := by
  have hnodup : (A.members.map Member.key).Nodup := A.keys_eq ▸ A.nodup
  have hfound : ∀ m ∈ A.members,
      lookup m.key (A.serialize s json) = some (m.save s) :=
    fun m hm => lookup_foldl_assign s hnodup hm json
  rw [deserialize, foldlM_load hfound, Option.map_some, A.finish_put]

/-- The objects in a vector, which are read into new ones. -/
def codec (blank : σ) : Codec σ where
  write s := .object (A.serialize s [])
  read json := A.deserialize json blank
  kept := A.kept
  read_write s := A.deserialize_serialize s [] blank

end Archive

end SelfPlugins.Json
