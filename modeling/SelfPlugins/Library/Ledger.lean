import Mathlib.Data.Nat.Notation

/-!
# Ledgers of numbered objects

Objects are numbered in the order in which they are created, and the ledger
records which of them have been disposed of.  `held` says how many holders an
object has.  The account of a ledger is `Accounts`: what has been created is
either held once and still there, or has been disposed of exactly once.  The
rules below say what creating, disposing and both at once do to the account.
-/

namespace SelfPlugins

/-- The objects created so far are `0, …, created - 1`. -/
structure Ledger where
  created : ℕ := 0
  disposed : List ℕ := []
deriving DecidableEq

namespace Ledger

/-- A new object, with the number `created`. -/
def create (l : Ledger) : Ledger := { l with created := l.created + 1 }

/-- The end of an object. -/
def dispose (k : ℕ) (l : Ledger) : Ledger :=
  { l with disposed := k :: l.disposed }

/-- Each object created is held once or has been disposed of once, and not
both. -/
def Accounts (l : Ledger) (held : ℕ → ℕ) : Prop :=
  ∀ k, held k + l.disposed.count k = if k < l.created then 1 else 0

variable {l : Ledger} {held held' : ℕ → ℕ}

@[simp] theorem create_created : l.create.created = l.created + 1 := rfl

@[simp] theorem create_disposed : l.create.disposed = l.disposed := rfl

@[simp] theorem dispose_created (k : ℕ) :
    (l.dispose k).created = l.created := rfl

theorem accounts_empty : Accounts {} fun _ => 0 :=
  fun k => by simp

theorem Accounts.congr (h : Accounts l held) (hheld : ∀ k, held' k = held k) :
    Accounts l held' :=
  fun k => by rw [hheld]; exact h k

/-- What is held has not been disposed of. -/
theorem Accounts.not_disposed (h : Accounts l held) {k : ℕ}
    (hk : 0 < held k) : l.disposed.count k = 0 := by
  have hk' := h k
  split at hk' <;> omega

/-- What is not held any more has been disposed of. -/
theorem Accounts.disposed_once (h : Accounts l held) {k : ℕ}
    (hk : held k = 0) (hlt : k < l.created) : l.disposed.count k = 1 := by
  have hk' := h k
  rwa [if_pos hlt, hk, Nat.zero_add] at hk'

theorem Accounts.create (h : Accounts l held)
    (hheld : ∀ k, held' k = held k + if k = l.created then 1 else 0) :
    Accounts l.create held' := by
  intro k
  have hk := h k
  rw [hheld, create_disposed, create_created]
  by_cases hnew : k = l.created
  · subst hnew
    rw [if_neg (Nat.lt_irrefl _)] at hk
    rw [if_pos rfl, if_pos (Nat.lt_succ_self _)]
    omega
  · rw [if_neg hnew, Nat.add_zero, hk]
    by_cases hlt : k < l.created
    · rw [if_pos hlt, if_pos (Nat.lt_succ_of_lt hlt)]
    · rw [if_neg hlt, if_neg (by omega)]

theorem Accounts.dispose (h : Accounts l held) {j : ℕ}
    (hheld : ∀ k, held k = held' k + if k = j then 1 else 0) :
    Accounts (l.dispose j) held' := by
  intro k
  rw [dispose_created, ← h k, hheld]
  by_cases hj : k = j
  · subst hj
    simp only [Ledger.dispose, List.count_cons_self, if_true]
    omega
  · simp only [Ledger.dispose, List.count_cons_of_ne (Ne.symm hj), if_neg hj]
    omega

/-- An object that is disposed of at once is not held by anyone. -/
theorem Accounts.create_dispose (h : Accounts l held) :
    Accounts (l.create.dispose l.created) held :=
  (h.create fun _ => rfl).dispose fun _ => rfl

end Ledger

/-- Counting in a list in which one element is replaced. -/
theorem countP_set_add {α : Type*} (p : α → Bool) {xs : List α} {i : ℕ}
    {x : α} (hx : xs[i]? = some x) (y : α) :
    (xs.set i y).countP p + (if p x then 1 else 0) =
      xs.countP p + if p y then 1 else 0 := by
  obtain ⟨hi, rfl⟩ := List.getElem?_eq_some_iff.mp hx
  rw [List.countP_set hi]
  by_cases hp : p xs[i] = true
  · have hpos : 0 < xs.countP p :=
      List.countP_pos_iff.mpr ⟨xs[i], List.getElem_mem hi, hp⟩
    rw [if_pos hp]
    omega
  · rw [if_neg hp]
    omega

end SelfPlugins
