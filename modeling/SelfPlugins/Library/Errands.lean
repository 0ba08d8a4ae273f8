import Mathlib.Data.List.Pairwise
import SelfPlugins.Library.Runs

/-!
# Errands

An object that is created for one call: it looks at the state of its owner and
either sends a request, whose answer it waits for, or calls back at once, or
ends without either.  When the answer comes it calls back and ends, unless it
throws.  Many errands may be under way at once, their answers come in any order,
and the owner may change in between.

`filed_throughout` says what becomes of the calls: each has a fate that its
errand accounts for, each request is sent for its call, and each valid callback
is called once, with the result of its own call, as soon as there is one.
-/

namespace SelfPlugins.Errands

open Runs

/-- What an errand does first.  A callback that is not `checked` must be valid,
and what is `undefined` must not come to pass. -/
inductive Opening (κ β : Type*)
  | send (request : κ)
  | tell (answer : β) (checked : Bool)
  | leave
  | undefined

/-- The code of an errand, for the owner `ω`, the input `ρ`, the request `κ`,
the answer `α` and the result `β`; `closes` is given whether the callback is
valid, and throws if it is `none`.  `reacts` is the owner under a call of its
own. -/
structure Errand (ω ρ κ α β ε : Type*) where
  opens : ω → ρ → Opening κ β
  closes : ω → Bool → ρ → α → Option β
  reacts : ω → ε → Option ω

/-- What has become of a call, with the owner as it was when the answer came. -/
inductive Fate (ω α β : Type*)
  | waiting
  | told (result : β)
  | left
  | answered (owner : ω) (answer : α) (result : β)
  | thrown (owner : ω) (answer : α)

/-- A call, with the owner as it was at the time. -/
structure Call (ω ρ α β : Type*) where
  owner : ω
  input : ρ
  valid : Bool
  fate : Fate ω α β

/-- The calls are numbered; `sent` are the requests and `told` the results that
the callbacks have been called with, both in the order of time. -/
structure Desk (ω ρ κ α β : Type*) where
  owner : ω
  calls : List (Call ω ρ α β) := []
  sent : List (ℕ × κ) := []
  told : List (ℕ × β) := []

inductive Event (ρ α ε : Type*)
  | call (input : ρ) (valid : Bool)
  | answer (n : ℕ) (answer : α)
  | own (e : ε)

variable {ω ρ κ α β ε : Type*} {E : Errand ω ρ κ α β ε}
  {s t : Desk ω ρ κ α β} {c d : Call ω ρ α β} {n : ℕ}

namespace Fate

/-- What the callback is called with. -/
def result : Fate ω α β → Option β
  | told b => some b
  | answered _ _ b => some b
  | _ => none

/-- The owner that the answer has met. -/
def owner : Fate ω α β → Option ω
  | answered w _ _ => some w
  | thrown w _ => some w
  | _ => none

end Fate

namespace Desk

/-- A call is added to the list. -/
def enter (r : ρ) (valid : Bool) (fate : Fate ω α β) (s : Desk ω ρ κ α β) :
    Desk ω ρ κ α β :=
  { s with calls := s.calls ++ [⟨s.owner, r, valid, fate⟩] }

/-- The callback of a call is called, if it is valid. -/
def tell (n : ℕ) (valid : Bool) (b : β) (s : Desk ω ρ κ α β) :
    Desk ω ρ κ α β :=
  if valid then { s with told := s.told ++ [(n, b)] } else s

def open_ (E : Errand ω ρ κ α β ε) (r : ρ) (valid : Bool)
    (s : Desk ω ρ κ α β) : Option (Desk ω ρ κ α β) :=
  match E.opens s.owner r with
  | .send k =>
      some { s.enter r valid .waiting with
        sent := s.sent ++ [(s.calls.length, k)] }
  | .tell b checked =>
      if valid || checked then
        some ((s.enter r valid (.told b)).tell s.calls.length valid b)
      else none
  | .leave => some (s.enter r valid .left)
  | .undefined => none

def close (E : Errand ω ρ κ α β ε) (n : ℕ) (a : α) (c : Call ω ρ α β)
    (s : Desk ω ρ κ α β) : Desk ω ρ κ α β :=
  match E.closes s.owner c.valid c.input a with
  | some b =>
      tell n c.valid b
        { s with
          calls := s.calls.set n { c with fate := .answered s.owner a b } }
  | none =>
      { s with calls := s.calls.set n { c with fate := .thrown s.owner a } }

def step (E : Errand ω ρ κ α β ε) (s : Desk ω ρ κ α β) :
    Event ρ α ε → Option (Desk ω ρ κ α β)
  | .call r valid => s.open_ E r valid
  | .answer n a =>
      (s.calls[n]?).bind fun c =>
        match c.fate with
        | .waiting => some (s.close E n a c)
        | _ => none
  | .own e => (E.reacts s.owner e).map fun w => { s with owner := w }

end Desk

/-- What may become of a call whose request has been sent. -/
def Errand.Follows (E : Errand ω ρ κ α β ε) (valid : Bool) (r : ρ) :
    Fate ω α β → Prop
  | .waiting => True
  | .answered w a b => E.closes w valid r a = some b
  | .thrown w a => E.closes w valid r a = none
  | _ => False

/-- The fate of a call is one that its errand has. -/
def Errand.Accounts (E : Errand ω ρ κ α β ε) (c : Call ω ρ α β) : Prop :=
  match E.opens c.owner c.input with
  | .send _ => E.Follows c.valid c.input c.fate
  | .tell b checked => c.fate = .told b ∧ (c.valid || checked) = true
  | .leave => c.fate = .left
  | .undefined => False

namespace Errand.Accounts

theorem opens_ne_undefined (h : E.Accounts c) :
    E.opens c.owner c.input ≠ .undefined := by
  intro hopens
  unfold Errand.Accounts at h
  rw [hopens] at h
  exact h

theorem fate_of_leave (h : E.Accounts c)
    (hopens : E.opens c.owner c.input = .leave) : c.fate = .left := by
  unfold Errand.Accounts at h
  rw [hopens] at h
  exact h

theorem fate_of_tell (h : E.Accounts c) {b : β} {checked : Bool}
    (hopens : E.opens c.owner c.input = .tell b checked) :
    c.fate = .told b := by
  unfold Errand.Accounts at h
  rw [hopens] at h
  exact h.1

theorem follows (h : E.Accounts c) {k : κ}
    (hopens : E.opens c.owner c.input = .send k) :
    E.Follows c.valid c.input c.fate := by
  unfold Errand.Accounts at h
  rw [hopens] at h
  exact h

/-- A call that waits goes on. -/
theorem pursue (h : E.Accounts c) (hwaiting : c.fate = .waiting)
    {fate : Fate ω α β} (hfate : E.Follows c.valid c.input fate) :
    E.Accounts { c with fate := fate } := by
  have hdefined := h.opens_ne_undefined
  unfold Errand.Accounts at h ⊢
  cases hopens : E.opens c.owner c.input with
  | send k => exact hfate
  | tell b checked =>
      rw [hopens, hwaiting] at h
      exact nomatch h.1
  | leave =>
      rw [hopens, hwaiting] at h
      exact nomatch h
  | undefined => exact absurd hopens hdefined

/-- A result is that of the opening, or that of the answer. -/
theorem of_result (h : E.Accounts c) {b : β}
    (hresult : c.fate.result = some b) :
    (∃ checked, E.opens c.owner c.input = .tell b checked) ∨
      ∃ w a, c.fate = .answered w a b ∧
        E.closes w c.valid c.input a = some b := by
  have hdefined := h.opens_ne_undefined
  unfold Errand.Accounts at h
  cases hopens : E.opens c.owner c.input with
  | send k =>
      rw [hopens] at h
      cases hfate : c.fate with
      | answered w a b' =>
          rw [hfate] at h hresult
          obtain rfl := Option.some.inj hresult
          exact Or.inr ⟨w, a, rfl, h⟩
      | told b' =>
          rw [hfate] at h
          exact h.elim
      | _ =>
          rw [hfate] at hresult
          cases hresult
  | tell b' checked =>
      rw [hopens] at h
      rw [h.1] at hresult
      obtain rfl := Option.some.inj hresult
      exact Or.inl ⟨checked, rfl⟩
  | leave =>
      rw [hopens] at h
      rw [h] at hresult
      exact nomatch hresult
  | undefined => exact absurd hopens hdefined

theorem of_answered (h : E.Accounts c) {w : ω} {a : α} {b : β}
    (hfate : c.fate = .answered w a b) :
    E.closes w c.valid c.input a = some b := by
  have hresult : c.fate.result = some b := by
    rw [hfate]
    rfl
  obtain ⟨checked, hopens⟩ | ⟨w', a', hfate', hcloses⟩ := h.of_result hresult
  · rw [h.fate_of_tell hopens] at hfate
    cases hfate
  · rw [hfate] at hfate'
    cases hfate'
    exact hcloses

theorem of_thrown (h : E.Accounts c) {w : ω} {a : α}
    (hfate : c.fate = .thrown w a) :
    E.closes w c.valid c.input a = none := by
  have hdefined := h.opens_ne_undefined
  unfold Errand.Accounts at h
  cases hopens : E.opens c.owner c.input with
  | send k =>
      rw [hopens, hfate] at h
      exact h
  | tell b checked =>
      rw [hopens, hfate] at h
      exact nomatch h.1
  | leave =>
      rw [hopens, hfate] at h
      exact nomatch h
  | undefined => exact absurd hopens hdefined

end Errand.Accounts

/-- The request of a call. -/
def Errand.request? (E : Errand ω ρ κ α β ε) (c : Call ω ρ α β) : Option κ :=
  match E.opens c.owner c.input with
  | .send k => some k
  | _ => none

/-- What the caller is told. -/
def Call.result? (c : Call ω ρ α β) : Option β :=
  if c.valid then c.fate.result else none

/-- `xs` are the numbers and values of the elements that have a value. -/
def Records {γ δ : Type*} (f : γ → Option δ) (cs : List γ)
    (xs : List (ℕ × δ)) : Prop :=
  ∀ n x, (n, x) ∈ xs ↔ ∃ c, cs[n]? = some c ∧ f c = some x

/-- What holds of the calls at any time. -/
structure Filed (E : Errand ω ρ κ α β ε) (s : Desk ω ρ κ α β) : Prop where
  accounts : ∀ c ∈ s.calls, E.Accounts c
  sent : Records E.request? s.calls s.sent
  sent_order : (s.sent.map Prod.fst).Pairwise (· < ·)
  told : Records Call.result? s.calls s.told
  told_once : (s.told.map Prod.fst).Nodup

/-! ## Records -/

section

variable {γ δ : Type*} {f : γ → Option δ} {cs : List γ} {xs : List (ℕ × δ)}
  {c d : γ} {n : ℕ}

/-- The record of one element. -/
def record (f : γ → Option δ) (n : ℕ) (c : γ) : List (ℕ × δ) :=
  ((f c).map fun x => (n, x)).toList

theorem mem_record {m : ℕ} {x : δ} :
    (m, x) ∈ record f n c ↔ m = n ∧ f c = some x := by
  rw [record, Option.mem_toList, Option.map_eq_some_iff]
  constructor
  · rintro ⟨y, hy, heq⟩
    obtain ⟨rfl, rfl⟩ := Prod.mk.inj heq
    exact ⟨rfl, hy⟩
  · rintro ⟨rfl, hx⟩
    exact ⟨x, hx, rfl⟩

theorem records_nil : Records f [] [] := by
  intro n x
  simp

theorem Records.lt_length (h : Records f cs xs) {m : ℕ}
    (hm : m ∈ xs.map Prod.fst) : m < cs.length := by
  obtain ⟨⟨k, x⟩, hx, rfl⟩ := List.mem_map.mp hm
  obtain ⟨c, hc, -⟩ := (h k x).mp hx
  exact (List.getElem?_eq_some_iff.mp hc).1

/-- An element without a value has no record. -/
theorem Records.notMem (h : Records f cs xs) (hc : cs[n]? = some c)
    (hnone : f c = none) : n ∉ xs.map Prod.fst := by
  intro hn
  obtain ⟨⟨k, x⟩, hx, rfl⟩ := List.mem_map.mp hn
  obtain ⟨c', hc', hvalue⟩ := (h k x).mp hx
  obtain rfl := Option.some.inj (hc.symm.trans hc')
  rw [hnone] at hvalue
  cases hvalue

theorem Records.append (h : Records f cs xs) (c : γ) :
    Records f (cs ++ [c]) (xs ++ record f cs.length c) := by
  intro m x
  rw [List.mem_append, h m x, mem_record]
  rcases Nat.lt_trichotomy m cs.length with hlt | rfl | hgt
  · rw [List.getElem?_append_left hlt]
    constructor
    · rintro (hold | ⟨rfl, -⟩)
      · exact hold
      · exact absurd hlt (Nat.lt_irrefl _)
    · exact Or.inl
  · rw [List.getElem?_concat_length]
    constructor
    · rintro (⟨c', hc', -⟩ | ⟨-, hx⟩)
      · exact absurd (List.getElem?_eq_some_iff.mp hc').1 (Nat.lt_irrefl _)
      · exact ⟨c, rfl, hx⟩
    · rintro ⟨c', hc', hx⟩
      obtain rfl := Option.some.inj hc'
      exact Or.inr ⟨rfl, hx⟩
  · have hout : (cs ++ [c])[m]? = none := by
      rw [List.getElem?_eq_none_iff, List.length_append]
      exact hgt
    rw [hout]
    constructor
    · rintro (⟨c', hc', -⟩ | ⟨rfl, -⟩)
      · have hlt := (List.getElem?_eq_some_iff.mp hc').1
        exact absurd hlt (Nat.lt_asymm hgt)
      · exact absurd hgt (Nat.lt_irrefl _)
    · rintro ⟨c', hc', -⟩
      cases hc'

/-- An element without a value is replaced. -/
theorem Records.set (h : Records f cs xs) (hc : cs[n]? = some c)
    (hnone : f c = none) (d : γ) :
    Records f (cs.set n d) (xs ++ record f n d) := by
  intro m x
  rw [List.mem_append, h m x, mem_record]
  by_cases hm : m = n
  · obtain rfl := hm
    rw [List.getElem?_set_self (List.getElem?_eq_some_iff.mp hc).1, hc]
    constructor
    · rintro (⟨c', hc', hx⟩ | ⟨-, hx⟩)
      · obtain rfl := Option.some.inj hc'
        rw [hnone] at hx
        cases hx
      · exact ⟨d, rfl, hx⟩
    · rintro ⟨d', hd', hx⟩
      obtain rfl := Option.some.inj hd'
      exact Or.inr ⟨rfl, hx⟩
  · rw [List.getElem?_set_ne (Ne.symm hm)]
    constructor
    · rintro (hold | ⟨rfl, -⟩)
      · exact hold
      · exact absurd rfl hm
    · exact Or.inl

/-- An element is replaced by one of the same value. -/
theorem Records.set_same (h : Records f cs xs) (hc : cs[n]? = some c)
    (hsame : f d = f c) : Records f (cs.set n d) xs := by
  intro m x
  rw [h m x]
  by_cases hm : m = n
  · obtain rfl := hm
    rw [List.getElem?_set_self (List.getElem?_eq_some_iff.mp hc).1, hc]
    constructor
    · rintro ⟨c', hc', hx⟩
      obtain rfl := Option.some.inj hc'
      exact ⟨d, rfl, hsame.trans hx⟩
    · rintro ⟨d', hd', hx⟩
      obtain rfl := Option.some.inj hd'
      exact ⟨c, rfl, hsame.symm.trans hx⟩
  · rw [List.getElem?_set_ne (Ne.symm hm)]

theorem map_fst_record :
    (record f n c).map Prod.fst = ((f c).map fun _ => n).toList := by
  unfold record
  cases f c <;> rfl

theorem eq_of_mem_record {m : ℕ} (h : m ∈ (record f n c).map Prod.fst) :
    m = n := by
  obtain ⟨⟨k, x⟩, hx, rfl⟩ := List.mem_map.mp h
  exact (mem_record.mp hx).1

/-- The numbers increase if the new one is past the others. -/
theorem pairwise_record {r : ℕ → ℕ → Prop}
    (h : (xs.map Prod.fst).Pairwise r) (hr : ∀ m ∈ xs.map Prod.fst, r m n) :
    ((xs ++ record f n c).map Prod.fst).Pairwise r := by
  rw [List.map_append, List.pairwise_append]
  refine ⟨h, ?_, fun m hm k hk => ?_⟩
  · rw [map_fst_record]
    cases f c <;> simp
  · rw [eq_of_mem_record hk]
    exact hr m hm

end

/-! ## Steps -/

/-- A call that is made. -/
theorem open_cases {r : ρ} {valid : Bool} (h : s.open_ E r valid = some t) :
    ∃ c : Call ω ρ α β, E.Accounts c ∧ c.owner = s.owner ∧
      (∀ w, c.fate.owner = some w → w = s.owner) ∧ t.owner = s.owner ∧
      t.calls = s.calls ++ [c] ∧
      t.sent = s.sent ++ record E.request? s.calls.length c ∧
      t.told = s.told ++ record Call.result? s.calls.length c := by
  unfold Desk.open_ at h
  cases hopens : E.opens s.owner r with
  | send k =>
      simp only [hopens, Option.some.injEq] at h
      subst h
      refine ⟨⟨s.owner, r, valid, .waiting⟩, ?_, rfl, nofun, rfl, rfl, ?_, ?_⟩
      · simp [Errand.Accounts, Errand.Follows, hopens]
      · simp [record, Errand.request?, hopens]
      · simp [record, Call.result?, Fate.result, Desk.enter]
  | tell b checked =>
      simp only [hopens] at h
      split at h
      · rename_i hmay
        simp only [Option.some.injEq] at h
        subst h
        refine ⟨⟨s.owner, r, valid, .told b⟩, ?_, rfl, nofun, ?_, ?_, ?_, ?_⟩
        · simp [Errand.Accounts, hopens, hmay]
        all_goals
          cases valid <;>
            simp [Desk.tell, Desk.enter, record, Errand.request?, hopens,
              Call.result?, Fate.result]
      · cases h
  | leave =>
      simp only [hopens, Option.some.injEq] at h
      subst h
      refine ⟨⟨s.owner, r, valid, .left⟩, ?_, rfl, nofun, rfl, rfl, ?_, ?_⟩
      · simp [Errand.Accounts, hopens]
      · simp [record, Errand.request?, hopens, Desk.enter]
      · simp [record, Call.result?, Fate.result, Desk.enter]
  | undefined => simp [hopens] at h

/-- An answer that comes. -/
theorem answer_cases {a : α} (h : s.step E (.answer n a) = some t) :
    ∃ c d : Call ω ρ α β, s.calls[n]? = some c ∧ c.fate = .waiting ∧
      d.owner = c.owner ∧ d.input = c.input ∧
      (E.Accounts c → E.Accounts d) ∧
      d.fate.owner = some s.owner ∧ t.owner = s.owner ∧
      t.calls = s.calls.set n d ∧ t.sent = s.sent ∧
      t.told = s.told ++ record Call.result? n d := by
  obtain ⟨c, hc, h⟩ := Option.bind_eq_some_iff.mp h
  cases hfate : c.fate with
  | waiting =>
      simp only [hfate, Option.some.injEq] at h
      subst h
      unfold Desk.close
      cases hcloses : E.closes s.owner c.valid c.input a with
      | some b =>
          refine ⟨c, { c with fate := .answered s.owner a b }, hc, hfate, rfl,
            rfl, fun hacc => hacc.pursue hfate hcloses, rfl, ?_⟩
          cases hvalid : c.valid <;>
            simp [Desk.tell, record, Call.result?, Fate.result]
      | none =>
          refine ⟨c, { c with fate := .thrown s.owner a }, hc, hfate, rfl, rfl,
            fun hacc => hacc.pursue hfate hcloses, rfl, rfl, rfl, rfl, ?_⟩
          simp [record, Call.result?, Fate.result]
  | _ => simp [hfate] at h

/-- The owner changes. -/
theorem own_cases {e : ε} (h : s.step E (.own e) = some t) :
    ∃ w, E.reacts s.owner e = some w ∧ t = { s with owner := w } := by
  obtain ⟨w, hw, heq⟩ := Option.map_eq_some_iff.mp h
  exact ⟨w, hw, heq.symm⟩

/-! ## Runs -/

theorem filed_new (w : ω) :
    Filed E ({ owner := w } : Desk ω ρ κ α β) where
  accounts := nofun
  sent := records_nil
  sent_order := List.Pairwise.nil
  told := records_nil
  told_once := List.nodup_nil

theorem Filed.call (h : Filed E s) {r : ρ} {valid : Bool}
    (ht : s.step E (.call r valid) = some t) : Filed E t := by
  obtain ⟨c, hacc, -, -, -, hcalls, hsent, htold⟩ := open_cases ht
  refine ⟨?_, ?_, ?_, ?_, ?_⟩
  · rw [hcalls]
    intro d hd
    rcases List.mem_append.mp hd with hold | hnew
    · exact h.accounts d hold
    · rw [List.mem_singleton.mp hnew]
      exact hacc
  · rw [hcalls, hsent]
    exact h.sent.append c
  · rw [hsent]
    exact pairwise_record h.sent_order fun m hm => h.sent.lt_length hm
  · rw [hcalls, htold]
    exact h.told.append c
  · rw [htold]
    exact pairwise_record h.told_once fun m hm =>
      Nat.ne_of_lt (h.told.lt_length hm)

theorem Filed.answer (h : Filed E s) {a : α}
    (ht : s.step E (.answer n a) = some t) : Filed E t := by
  obtain ⟨c, d, hc, hfate, howner, hinput, hacc, -, -, hcalls, hsent, htold⟩ :=
    answer_cases ht
  have hnone : c.result? = none := by
    rw [Call.result?, hfate]
    split <;> rfl
  refine ⟨?_, ?_, ?_, ?_, ?_⟩
  · rw [hcalls]
    intro x hx
    rcases List.mem_or_eq_of_mem_set hx with hold | rfl
    · exact h.accounts x hold
    · exact hacc (h.accounts c (List.mem_of_getElem? hc))
  · rw [hcalls, hsent]
    refine h.sent.set_same hc ?_
    rw [Errand.request?, Errand.request?, howner, hinput]
  · rw [hsent]
    exact h.sent_order
  · rw [hcalls, htold]
    exact h.told.set hc hnone d
  · rw [htold]
    refine pairwise_record h.told_once fun m hm heq => ?_
    exact h.told.notMem hc hnone (heq ▸ hm)

theorem Filed.step (h : Filed E s) {e : Event ρ α ε}
    (ht : s.step E e = some t) : Filed E t := by
  cases e with
  | call r valid => exact h.call ht
  | answer n a => exact h.answer ht
  | own e =>
      obtain ⟨w, -, rfl⟩ := own_cases ht
      exact ⟨h.accounts, h.sent, h.sent_order, h.told, h.told_once⟩

theorem filed_throughout (E : Errand ω ρ κ α β ε) (w : ω)
    (evs : List (Event ρ α ε)) :
    Throughout (Desk.step E) (Filed E) { owner := w } evs :=
  throughout_of_eachStep (C := fun _ _ => True)
    (fun _ _ _ hs _ ht => hs.step ht) (filed_new w) (eachStep_true _ evs)

/-! ## Calls that are not served -/

/-- The calls that meet an owner that is not ready have the fate `unserved`, and
they alone. -/
structure Served (E : Errand ω ρ κ α β ε) (ready : ω → Bool)
    (unserved : Fate ω α β) (s : Desk ω ρ κ α β) : Prop extends Filed E s where
  missed : ∀ c ∈ s.calls, c.fate = unserved ↔ ready c.owner = false

theorem Errand.Follows.ne_unsent {valid : Bool} {r : ρ} {fate : Fate ω α β}
    (h : E.Follows valid r fate) :
    fate ≠ .left ∧ ∀ b, fate ≠ .told b := by
  cases fate with
  | told b => exact h.elim
  | left => exact h.elim
  | _ => exact ⟨nofun, nofun⟩

section

variable {ready : ω → Bool}

theorem served_left (h : Filed E s)
    (hsend : ∀ w r, ready w = true → ∃ k, E.opens w r = .send k)
    (hleave : ∀ w r, ready w = false →
      E.opens w r = .leave ∨ E.opens w r = .undefined) :
    Served E ready .left s := by
  refine ⟨h, fun c hc => ?_⟩
  cases hready : ready c.owner with
  | true =>
      obtain ⟨k, hk⟩ := hsend _ c.input hready
      exact iff_of_false ((h.accounts c hc).follows hk).ne_unsent.1 nofun
  | false =>
      have hacc := h.accounts c hc
      have hleft := (hleave _ c.input hready).resolve_right
        hacc.opens_ne_undefined
      exact iff_of_true (hacc.fate_of_leave hleft) rfl

theorem served_told {b : β} (h : Filed E s)
    (hsend : ∀ w r, ready w = true → ∃ k, E.opens w r = .send k)
    (htell : ∀ w r, ready w = false →
      (∃ checked, E.opens w r = .tell b checked) ∨
        E.opens w r = .undefined) :
    Served E ready (.told b) s := by
  refine ⟨h, fun c hc => ?_⟩
  cases hready : ready c.owner with
  | true =>
      obtain ⟨k, hk⟩ := hsend _ c.input hready
      exact iff_of_false (((h.accounts c hc).follows hk).ne_unsent.2 b) nofun
  | false =>
      have hacc := h.accounts c hc
      obtain ⟨checked, htold⟩ := (htell _ c.input hready).resolve_right
        hacc.opens_ne_undefined
      exact iff_of_true (hacc.fate_of_tell htold) rfl

end

/-! ## Answers that are not told -/

/-- Precisely the answers that are `lost`, for a callback that is valid or not,
end their calls without a result. -/
structure Loses (lost : ω → Bool → α → Prop) (s : Desk ω ρ κ α β) : Prop where
  thrown : ∀ c ∈ s.calls, ∀ w a, c.fate = .thrown w a → lost w c.valid a
  answered : ∀ c ∈ s.calls, ∀ w a b, c.fate = .answered w a b →
    ¬lost w c.valid a

theorem Filed.loses {lost : ω → Bool → α → Prop} (h : Filed E s)
    (hlost : ∀ w valid r a, E.closes w valid r a = none ↔ lost w valid a) :
    Loses lost s where
  thrown c hc w a hfate :=
    (hlost w c.valid c.input a).mp ((h.accounts c hc).of_thrown hfate)
  answered c hc w a b hfate hno := by
    have hnone := (hlost w c.valid c.input a).mpr hno
    rw [(h.accounts c hc).of_answered hfate] at hnone
    cases hnone

/-! ## What the owner keeps -/

/-- The owner is as `P` says, and was so whenever a call or an answer came. -/
structure Owned (P : ω → Prop) (s : Desk ω ρ κ α β) : Prop where
  owner : P s.owner
  calls : ∀ c ∈ s.calls, P c.owner ∧ ∀ w, c.fate.owner = some w → P w

theorem Owned.step {P : ω → Prop}
    (hP : ∀ w e w', P w → E.reacts w e = some w' → P w')
    (h : Owned P s) {e : Event ρ α ε} (ht : s.step E e = some t) :
    Owned P t := by
  cases e with
  | call r valid =>
      obtain ⟨c, -, hcowner, hmet, howner, hcalls, -, -⟩ := open_cases ht
      refine ⟨howner ▸ h.owner, ?_⟩
      rw [hcalls]
      intro d hd
      rcases List.mem_append.mp hd with hold | hnew
      · exact h.calls d hold
      · obtain rfl := List.mem_singleton.mp hnew
        exact ⟨hcowner ▸ h.owner, fun w hw => hmet w hw ▸ h.owner⟩
  | answer n a =>
      obtain ⟨c, d, hc, -, hdowner, -, -, hmet, howner, hcalls, -, -⟩ :=
        answer_cases ht
      refine ⟨howner ▸ h.owner, ?_⟩
      rw [hcalls]
      intro x hx
      rcases List.mem_or_eq_of_mem_set hx with hold | rfl
      · exact h.calls x hold
      · refine ⟨hdowner ▸ (h.calls c (List.mem_of_getElem? hc)).1,
          fun w hw => ?_⟩
        obtain rfl := Option.some.inj (hmet.symm.trans hw)
        exact h.owner
  | own e =>
      obtain ⟨w, hw, rfl⟩ := own_cases ht
      exact ⟨hP _ e w h.owner hw, h.calls⟩

theorem filed_owned_throughout {P : ω → Prop}
    (hP : ∀ w e w', P w → E.reacts w e = some w' → P w') {w : ω} (hw : P w)
    (evs : List (Event ρ α ε)) :
    Throughout (Desk.step E) (fun s => Filed E s ∧ Owned P s) { owner := w }
      evs :=
  throughout_of_eachStep (C := fun _ _ => True)
    (fun _ _ _ hs _ ht => ⟨hs.1.step ht, hs.2.step hP ht⟩)
    ⟨filed_new w, hw, nofun⟩ (eachStep_true _ evs)

/-- Where a result that has been told comes from. -/
theorem Filed.told_cases (h : Filed E s) {b : β} (hb : (n, b) ∈ s.told) :
    ∃ c, s.calls[n]? = some c ∧ c ∈ s.calls ∧ c.valid = true ∧
      ((∃ checked, E.opens c.owner c.input = .tell b checked) ∨
        ∃ w a, c.fate = .answered w a b ∧
          E.closes w c.valid c.input a = some b) := by
  obtain ⟨c, hc, hvalue⟩ := (h.told n b).mp hb
  obtain ⟨hvalid, hresult⟩ := Option.ite_none_right_eq_some.mp hvalue
  have hmem := List.mem_of_getElem? hc
  exact ⟨c, hc, hmem, hvalid, (h.accounts c hmem).of_result hresult⟩

end SelfPlugins.Errands
