import Mathlib.Data.List.Count
import Mathlib.Logic.Function.Basic
import Mathlib.Tactic.Common
import SelfPlugins.Library.Runs

/-!
# Counted references

A `QIRef` holds a pointer to an object of the Windows libraries.  It calls
`AddRef` when the pointer is copied and `Release` when it lets the pointer go;
an object whose count comes to zero is gone.  `operator&` gives out the slot
of an empty reference, which is filled with a new object.

The assignment lets its own pointer go before it reads the other's, which are
the same if a reference is assigned to itself.  `always_lawful_iff` says that
this is the only thing that can go wrong.
-/

namespace SelfPlugins.Windows

open Runs

abbrev ObjectId := ℕ

/-- An instance of `QIRef`. -/
inductive Slot where
  | destroyed
  | empty
  | holds (k : ObjectId)
deriving DecidableEq

/-- The instances, by the order of their construction, and the counts of the
objects, which are numbered in the order of their creation.  `releases` records
the objects that have been released to zero, with the number of instances that
held them then. -/
structure Heap where
  refs : List Slot := []
  created : ℕ := 0
  refCount : ObjectId → ℕ := fun _ => 0
  releases : List (ObjectId × ℕ) := []

namespace Heap

/-- The number of instances that hold an object. -/
def holders (k : ObjectId) (s : Heap) : ℕ := s.refs.count (.holds k)

/-! ## Translated functions -/

/-- `AddRef`, if there is an object. -/
def addRef (s : Heap) : Slot → Heap
  | .holds k =>
      { s with refCount := Function.update s.refCount k (s.refCount k + 1) }
  | _ => s

def setRef (r : ℕ) (x : Slot) (s : Heap) : Heap :=
  { s with refs := s.refs.set r x }

/-- `Release` of an object. -/
def dropRef (k : ObjectId) (s : Heap) : Heap :=
  { s with refCount := Function.update s.refCount k (s.refCount k - 1) }

/-- An object whose count is zero is gone. -/
def noteRelease (k : ObjectId) (s : Heap) : Heap :=
  if s.refCount k = 0 then
    { s with releases := s.releases ++ [(k, s.holders k)] }
  else s

/-- `QIRef::Release` -/
def release (r : ℕ) (s : Heap) : Heap :=
  match s.refs[r]? with
  | some (.holds k) => noteRelease k (setRef r .empty (dropRef k s))
  | _ => s

/-- The slot of an instance that exists. -/
def slot? (r : ℕ) (s : Heap) : Option Slot :=
  s.refs[r]?.bind fun x => if x = .destroyed then none else some x

/-- `operator=`: the other slot is read after the own pointer is gone. -/
def assign (a b : ℕ) (s : Heap) : Option Heap := do
  let _ ← s.slot? a
  let s := release a s
  let copy ← s.slot? b
  return addRef (setRef a copy s) copy

/-- The copy constructor. -/
def copyConstruct (b : ℕ) (s : Heap) : Option Heap := do
  let copy ← s.slot? b
  return addRef { s with refs := s.refs ++ [copy] } copy

/-- The destructor. -/
def destroy (a : ℕ) (s : Heap) : Option Heap := do
  let _ ← s.slot? a
  return setRef a .destroyed (release a s)

/-- A new object, with a count of 1, is written into an empty slot. -/
def fill (a : ℕ) (s : Heap) : Option Heap :=
  if s.refs[a]? = some .empty then
    some { setRef a (.holds s.created) s with
      created := s.created + 1
      refCount := Function.update s.refCount s.created 1 }
  else none

inductive Event where
  | construct
  | copyConstruct (b : ℕ)
  | assign (a b : ℕ)
  | release (a : ℕ)
  | destroy (a : ℕ)
  | fill (a : ℕ)
deriving DecidableEq

def step (s : Heap) : Event → Option Heap
  | .construct => some { s with refs := s.refs ++ [.empty] }
  | .copyConstruct b => s.copyConstruct b
  | .assign a b => s.assign a b
  | .release a => (s.slot? a).map fun _ => release a s
  | .destroy a => s.destroy a
  | .fill a => s.fill a

/-! ## The law -/

/-- The count of each object is the number of instances that hold it, and an
object is gone only when none does. -/
structure Lawful (s : Heap) : Prop where
  counted : ∀ k < s.created, s.refCount k = s.holders k
  released : ∀ e ∈ s.releases, e.2 = 0

/-- An assignment leaves the left side with what the right side held before
it. -/
def Copies (s : Heap) (e : Event) : Prop :=
  ∀ a b t, e = .assign a b → step s e = some t → t.refs[a]? = s.refs[b]?

/-- The event does not assign a reference that holds an object to itself. -/
def Apart (s : Heap) (e : Event) : Prop :=
  ∀ a k, e = .assign a a → s.refs[a]? ≠ some (.holds k)

/-- All counts are right, and there are no objects but those created. -/
structure Counted (s : Heap) : Prop where
  refCount_eq : ∀ k, s.refCount k = s.holders k
  fresh : ∀ k, s.created ≤ k → s.refCount k = 0
  released : ∀ e ∈ s.releases, e.2 = 0

/-! ## Counting -/

variable {s t : Heap} {r k : ℕ} {x y : Slot}

/-- Replacing an element changes the count of the old one and of the new
one. -/
theorem count_set_add {l : List Slot} (h : l[r]? = some x) (y z : Slot) :
    (l.set r y).count z + (if x = z then 1 else 0) =
      l.count z + if y = z then 1 else 0 := by
  induction l generalizing r with
  | nil => cases h
  | cons w l ih =>
      cases r with
      | zero =>
          obtain rfl : w = x := Option.some.inj h
          simp only [List.set_cons_zero, List.count_cons, beq_iff_eq]
          omega
      | succ r =>
          have hcount := ih (r := r) h
          simp only [List.set_cons_succ, List.count_cons]
          omega

theorem holders_setRef (h : s.refs[r]? = some x) (y : Slot) (k : ObjectId) :
    (setRef r y s).holders k + (if x = .holds k then 1 else 0) =
      s.holders k + if y = .holds k then 1 else 0 :=
  count_set_add h y (.holds k)

theorem addRef_refCount (s : Heap) (x : Slot) (k : ObjectId) :
    (addRef s x).refCount k =
      s.refCount k + if x = .holds k then 1 else 0 := by
  cases x with
  | holds j =>
      by_cases h : k = j
      · subst h
        simp [addRef]
      · simp [addRef, h, Ne.symm h]
  | _ => simp [addRef]

theorem holders_append (s : Heap) (x : Slot) (k : ObjectId) :
    ({ s with refs := s.refs ++ [x] } : Heap).holders k =
      s.holders k + if x = .holds k then 1 else 0 := by
  simp [holders, List.count_append, List.count_singleton]

theorem slot?_eq_some (h : s.slot? r = some x) :
    s.refs[r]? = some x ∧ x ≠ .destroyed := by
  obtain ⟨y, hy, hx⟩ := Option.bind_eq_some_iff.mp h
  split at hx
  · cases hx
  · next hne =>
    obtain rfl := Option.some.inj hx
    exact ⟨hy, hne⟩

/-- What a reference holds has been created. -/
theorem Counted.lt_created (h : Counted s)
    (hr : s.refs[r]? = some (.holds k)) : k < s.created := by
  by_contra hnot
  have hzero := h.fresh k (Nat.le_of_not_lt hnot)
  rw [h.refCount_eq, holders, List.count_eq_zero] at hzero
  exact hzero (List.mem_of_getElem? hr)

/-! ## Letting go -/

theorem noteRelease_refs (k : ObjectId) (s : Heap) :
    (noteRelease k s).refs = s.refs := by
  unfold noteRelease
  split
  · rfl
  · rfl

/-- A reference that holds an object is emptied, another is left alone. -/
theorem release_cases (r : ℕ) (s : Heap) :
    (∃ k, s.refs[r]? = some (.holds k) ∧
        release r s = noteRelease k (setRef r .empty (dropRef k s))) ∨
      ((∀ k, s.refs[r]? ≠ some (.holds k)) ∧ release r s = s) := by
  by_cases h : ∃ k, s.refs[r]? = some (.holds k)
  · obtain ⟨k, hk⟩ := h
    exact Or.inl ⟨k, hk, by rw [release, hk]⟩
  · have hnot : ∀ k, s.refs[r]? ≠ some (.holds k) := fun k hk => h ⟨k, hk⟩
    refine Or.inr ⟨hnot, ?_⟩
    unfold release
    split
    · next k hk => exact absurd hk (hnot k)
    · rfl

theorem release_refs (r : ℕ) (s : Heap) :
    (release r s).refs = s.refs ∨
      (release r s).refs = s.refs.set r .empty := by
  rcases release_cases r s with ⟨k, -, h⟩ | ⟨-, h⟩
  · exact Or.inr (by rw [h, noteRelease_refs]; rfl)
  · exact Or.inl (by rw [h])

/-- An instance that exists is empty afterwards. -/
theorem release_empty (h : s.slot? r = some x) :
    (release r s).refs[r]? = some .empty := by
  obtain ⟨hr, hx⟩ := slot?_eq_some h
  rcases release_cases r s with ⟨k, -, hrel⟩ | ⟨hnot, hrel⟩
  · have hlt := (List.getElem?_eq_some_iff.mp hr).1
    rw [hrel, noteRelease_refs]
    exact List.getElem?_set_self hlt
  · rw [hrel, hr]
    cases x with
    | destroyed => exact absurd rfl hx
    | empty => rfl
    | holds k => exact absurd hr (hnot k)

theorem Counted.noteRelease (h : Counted s) (k : ObjectId) :
    Counted (noteRelease k s) := by
  unfold Heap.noteRelease
  split
  · next hzero =>
    refine ⟨h.refCount_eq, h.fresh, fun e he => ?_⟩
    rcases List.mem_append.mp he with he | he
    · exact h.released e he
    · rw [List.mem_singleton.mp he, ← h.refCount_eq]
      exact hzero
  · exact h

theorem Counted.release (h : Counted s) (r : ℕ) : Counted (release r s) := by
  rcases release_cases r s with ⟨k, hk, hrel⟩ | ⟨-, hrel⟩
  · rw [hrel]
    refine Counted.noteRelease (s := setRef r .empty (dropRef k s))
      ⟨fun j => ?_, fun j hj => ?_, h.released⟩ k
    · have hset := holders_setRef (s := dropRef k s) hk .empty j
      have hcount := h.refCount_eq j
      change Function.update s.refCount k (s.refCount k - 1) j = _
      change _ = s.holders j + _ at hset
      by_cases hjk : j = k
      · subst hjk
        rw [Function.update_self]
        simp at hset
        omega
      · rw [Function.update_of_ne hjk]
        simp [Ne.symm hjk] at hset
        omega
    · change Function.update s.refCount k (s.refCount k - 1) j = 0
      have hfresh := h.fresh j hj
      by_cases hjk : j = k
      · subst hjk
        rw [Function.update_self]
        omega
      · rw [Function.update_of_ne hjk, hfresh]
  · rw [hrel]
    exact h

/-! ## Taking hold -/

theorem addRef_eq (s : Heap) (x : Slot) :
    (addRef s x).refs = s.refs ∧ (addRef s x).created = s.created ∧
      (addRef s x).releases = s.releases := by
  cases x with
  | _ => exact ⟨rfl, rfl, rfl⟩

/-- One more instance has the slot `y`, and `AddRef` is called for it. -/
theorem Counted.addRef (h : Counted s) (hcreated : t.created = s.created)
    (hcount : t.refCount = s.refCount) (hreleases : t.releases = s.releases)
    (hholders : ∀ j, t.holders j = s.holders j + if y = .holds j then 1 else 0)
    (hy : ∀ k, y = .holds k → k < s.created) : Counted (addRef t y) := by
  obtain ⟨hrefs', hcreated', hreleases'⟩ := addRef_eq t y
  refine ⟨fun j => ?_, fun j hj => ?_, ?_⟩
  · rw [addRef_refCount, hcount, h.refCount_eq, ← hholders, holders, holders,
      hrefs']
  · rw [hcreated', hcreated] at hj
    rw [addRef_refCount, hcount, h.fresh j hj, if_neg]
    intro hyj
    exact absurd (hy j hyj) (Nat.not_lt.mpr hj)
  · rw [hreleases', hreleases]
    exact h.released

theorem Counted.append (h : Counted s)
    (hy : ∀ k, y = .holds k → k < s.created) :
    Counted (Heap.addRef { s with refs := s.refs ++ [y] } y) :=
  h.addRef rfl rfl rfl (holders_append s y) hy

/-- Writing into an empty instance. -/
theorem Counted.setRef (h : Counted s) (hr : s.refs[r]? = some .empty)
    (hy : ∀ k, y = .holds k → k < s.created) :
    Counted (Heap.addRef (setRef r y s) y) := by
  refine h.addRef rfl rfl rfl (fun j => ?_) hy
  simpa using holders_setRef hr y j

theorem Counted.fill (h : Counted s) (hr : s.refs[r]? = some .empty) :
    Counted { Heap.setRef r (.holds s.created) s with
      created := s.created + 1
      refCount := Function.update s.refCount s.created 1 } := by
  refine ⟨fun j => ?_, fun j hj => ?_, h.released⟩
  · have hset : (Heap.setRef r (.holds s.created) s).holders j =
        s.holders j + if s.created = j then 1 else 0 := by
      simpa using holders_setRef hr (.holds s.created) j
    change Function.update s.refCount s.created 1 j =
      (Heap.setRef r (.holds s.created) s).holders j
    rw [hset, ← h.refCount_eq]
    by_cases hj : j = s.created
    · subst hj
      rw [Function.update_self, if_pos rfl, h.fresh _ (Nat.le_refl _)]
    · rw [Function.update_of_ne hj, if_neg (Ne.symm hj), Nat.add_zero]
  · change s.created + 1 ≤ j at hj
    change Function.update s.refCount s.created 1 j = 0
    have hne : j ≠ s.created := by omega
    rw [Function.update_of_ne hne, h.fresh j (by omega)]

/-! ## Steps -/

/-- What `operator=` does: the own pointer goes first. -/
theorem assign_cases {a b : ℕ} (ht : s.assign a b = some t) :
    ∃ own copy, s.slot? a = some own ∧ (Heap.release a s).slot? b = some copy ∧
      t = Heap.addRef (Heap.setRef a copy (Heap.release a s)) copy := by
  obtain ⟨own, hown, ht⟩ := Option.bind_eq_some_iff.mp ht
  obtain ⟨copy, hcopy, ht⟩ := Option.bind_eq_some_iff.mp ht
  exact ⟨own, copy, hown, hcopy, (Option.some.inj ht).symm⟩

theorem Counted.step {e : Event} (h : Counted s) (ht : s.step e = some t) :
    Counted t := by
  cases e with
  | construct =>
      obtain rfl := Option.some.inj ht
      exact h.append (y := .empty) fun k hk => by cases hk
  | copyConstruct b =>
      obtain ⟨copy, hcopy, ht⟩ := Option.bind_eq_some_iff.mp ht
      obtain rfl := Option.some.inj ht
      refine h.append fun k hk => ?_
      exact h.lt_created (hk ▸ (slot?_eq_some hcopy).1)
  | assign a b =>
      obtain ⟨own, copy, hown, hcopy, rfl⟩ := assign_cases ht
      have hrel := h.release a
      exact hrel.setRef (release_empty hown) fun k hk =>
        hrel.lt_created (hk ▸ (slot?_eq_some hcopy).1)
  | release a =>
      obtain ⟨own, -, rfl⟩ := Option.map_eq_some_iff.mp ht
      exact h.release a
  | destroy a =>
      obtain ⟨own, hown, ht⟩ := Option.bind_eq_some_iff.mp ht
      obtain rfl := Option.some.inj ht
      exact (h.release a).setRef (y := .destroyed) (release_empty hown)
        fun k hk => by cases hk
  | fill a =>
      obtain ⟨hr, ht⟩ := Option.ite_none_right_eq_some.mp ht
      obtain rfl := Option.some.inj ht
      exact h.fill hr

/-- The left side gets what the right side holds once the own pointer is
gone. -/
theorem assign_refs {a b : ℕ} (ht : s.assign a b = some t) :
    t.refs[a]? = (Heap.release a s).refs[b]? := by
  obtain ⟨own, copy, hown, hcopy, rfl⟩ := assign_cases ht
  have hlt : a < (Heap.release a s).refs.length :=
    (List.getElem?_eq_some_iff.mp (release_empty hown)).1
  rw [(addRef_eq _ _).1, (slot?_eq_some hcopy).1]
  exact List.getElem?_set_self hlt

/-- The other instances are left alone. -/
theorem release_refs_ne {a b : ℕ} (hab : a ≠ b) (s : Heap) :
    (Heap.release a s).refs[b]? = s.refs[b]? := by
  rcases release_refs a s with h | h
  · rw [h]
  · rw [h, List.getElem?_set_ne hab]

/-! ## All runs -/

/-- A step leaves the left side with what the right side held, unless a
reference that holds an object is assigned to itself. -/
theorem copies_iff {e : Event} (ht : s.step e = some t) :
    Copies s e ↔ Apart s e := by
  constructor
  · intro hcopies a k he hk
    have hsame := hcopies a a t he ht
    subst he
    obtain ⟨own, copy, hown, -, -⟩ := assign_cases ht
    rw [assign_refs ht, release_empty hown, hk] at hsame
    cases hsame
  · intro hapart a b u he hu
    obtain rfl := Option.some.inj (ht.symm.trans hu)
    subst he
    rw [assign_refs ht]
    by_cases hab : a = b
    · subst hab
      obtain ⟨own, copy, hown, -, -⟩ := assign_cases ht
      obtain ⟨hrefs, hexists⟩ := slot?_eq_some hown
      rw [release_empty hown, hrefs]
      cases own with
      | destroyed => exact absurd rfl hexists
      | empty => rfl
      | holds k => exact absurd hrefs (hapart a k rfl)
    · exact release_refs_ne hab s

theorem counted_new : Counted {} :=
  ⟨fun _ => rfl, fun _ _ => rfl, fun _ he => by cases he⟩

/-- In every run the counts are right and nothing is gone that is held; and each
assignment leaves the left side with what the right side held precisely if no
reference that holds an object is assigned to itself. -/
theorem always_lawful_iff (es : List Event) :
    Throughout step Lawful {} es ∧ EachStep step Copies {} es ↔
      EachStep step Apart {} es := by
  have hlawful : Throughout step Lawful {} es := by
    have hcounted : Throughout step Counted {} es :=
      throughout_of_eachStep (fun s e t h _ ht => h.step ht) counted_new
        (eachStep_true _ es)
    exact hcounted.mono fun s h => ⟨fun k _ => h.refCount_eq k, h.released⟩
  have hiff : EachStep step Copies {} es ↔ EachStep step Apart {} es :=
    eachStep_congr (I := fun _ => True) (L := fun _ => True)
      (fun _ _ _ _ _ _ => trivial) (fun _ _ _ _ _ ht => copies_iff ht) trivial
      fun _ _ => trivial
  exact ⟨fun h => hiff.mp h.2, fun h => ⟨hlawful, hiff.mpr h⟩⟩

/-- A reference assigned to itself loses its object. -/
theorem not_always_lawful :
    ¬EachStep step Copies {} [.construct, .fill 0, .assign 0 0] := by
  intro h
  have hcopies := ((((h _ rfl).2) _ rfl).2 _ rfl).1
  have hsame := hcopies 0 0 _ rfl rfl
  exact absurd hsame (by decide)

end Heap

end SelfPlugins.Windows
