import Mathlib.Data.List.Perm.Basic
import SelfPlugins.Library.Runs

/-!
# The grasp gesture of the NAO

`NaoGraspGesture` keeps no queue of requests, but one callback, and one thread
for each call of `Execute`.  A call of `Execute` lets go of the callback of the
one before, and `MoveDone` calls the callback it finds and lets go of whatever
is there afterwards: also of the callback of an `Execute` that was called from
within.  A thread that throws leaves its callback waiting.

`grasp_accounted` says what becomes of the callbacks in any run, and
`grasp_own` when they are called for their own moves only.
-/

namespace SelfPlugins.Nao

open Runs

/-- Why a callback is let go of without a call: by the next `Execute`, by
`Abort`, or by the `MoveDone` from within which it was handed over. -/
inductive Lost
  | replaced
  | aborted
  | nested
deriving DecidableEq

/-- The calls of `Execute` are numbered.  `threads` and `dones` are those whose
thread has not run and those whose `MoveDone` is queued, `failed` those whose
thread has thrown; `asked` are those with a valid callback, and `told` those
whose callback has been called, each with the one whose `MoveDone` it was. -/
structure NaoGraspGesture where
  m_Callback : Option ℕ := none
  executed : ℕ := 0
  threads : List ℕ := []
  dones : List ℕ := []
  failed : List ℕ := []
  asked : List ℕ := []
  told : List (ℕ × ℕ) := []
  lost : List (ℕ × Lost) := []

/-- `nested` are the calls of `Execute` that a callback makes; `running` is what
`m_MoveOp.isRunning` says. -/
inductive GraspEvent
  | execute (valid : Bool)
  | abort (running : Bool)
  | thread (i : ℕ) (throws : Bool)
  | done (i : ℕ) (nested : List Bool)

namespace NaoGraspGesture

/-- `m_Callback.Reset()`, or an assignment. -/
def reset (cause : Lost) (s : NaoGraspGesture) : NaoGraspGesture :=
  { s with
    m_Callback := none
    lost := s.lost ++ s.m_Callback.toList.map fun n => (n, cause) }

def execute (s : NaoGraspGesture) (valid : Bool) : NaoGraspGesture :=
  let s := s.reset .replaced
  { s with
    m_Callback := if valid then some s.executed else none
    asked := if valid then s.asked ++ [s.executed] else s.asked
    threads := s.threads ++ [s.executed]
    executed := s.executed + 1 }

/-- The callback is gone even if stopping the robot throws. -/
def abort (running : Bool) (s : NaoGraspGesture) : NaoGraspGesture :=
  if s.m_Callback.isSome && running then s.reset .aborted else s

def moveThread (i : ℕ) (throws : Bool) (s : NaoGraspGesture) :
    Option NaoGraspGesture :=
  (s.threads[i]?).map fun k =>
    let s := { s with threads := s.threads.eraseIdx i }
    if throws then { s with failed := s.failed ++ [k] }
    else { s with dones := s.dones ++ [k] }

/-- The callback is called, and then let go of. -/
def call (n k : ℕ) (s : NaoGraspGesture) : NaoGraspGesture :=
  { s with m_Callback := none, told := s.told ++ [(n, k)] }

def moveDone (i : ℕ) (nested : List Bool) (s : NaoGraspGesture) :
    Option NaoGraspGesture :=
  (s.dones[i]?).bind fun k =>
    let s := { s with dones := s.dones.eraseIdx i }
    match s.m_Callback with
    | some n => some ((nested.foldl execute (s.call n k)).reset .nested)
    | none => if nested = [] then some s else none

def step (s : NaoGraspGesture) : GraspEvent → Option NaoGraspGesture
  | .execute valid => some (s.execute valid)
  | .abort running => some (s.abort running)
  | .thread i throws => s.moveThread i throws
  | .done i nested => s.moveDone i nested

/-- Each callback has been called, has been let go of or is waiting.  Callbacks
are called in the order of `Execute`, none of them before its own `Execute`; the
one that waits is that of the latest `Execute`, whose own move is under way or
has failed. -/
structure Accounted (s : NaoGraspGesture) : Prop where
  fates : (s.told.map Prod.fst ++ s.lost.map Prod.fst ++
    s.m_Callback.toList).Perm s.asked
  asked : s.asked.Nodup
  order : (s.told.map Prod.fst).Pairwise (· < ·)
  own : ∀ p ∈ s.told, p.2 ≤ p.1
  latest : ∀ n, s.m_Callback = some n → n + 1 = s.executed
  waiting : ∀ n, s.m_Callback = some n →
    n ∈ s.threads ∨ n ∈ s.dones ∨ n ∈ s.failed
  started : ∀ k ∈ s.asked ++ s.threads ++ s.dones, k < s.executed

variable {s t : NaoGraspGesture}

theorem accounted_new : Accounted {} where
  fates := List.Perm.refl _
  asked := List.nodup_nil
  order := List.Pairwise.nil
  own := nofun
  latest := nofun
  waiting := nofun
  started := nofun

namespace Accounted

theorem reset (h : Accounted s) (cause : Lost) : Accounted (s.reset cause) where
  fates := by
    refine List.Perm.trans ?_ h.fates
    simp [NaoGraspGesture.reset, Function.comp_def]
  asked := h.asked
  order := h.order
  own := h.own
  latest := nofun
  waiting := nofun
  started := h.started

theorem lt_executed (h : Accounted s) {k : ℕ}
    (hk : k ∈ s.asked ∨ k ∈ s.threads ∨ k ∈ s.dones) : k < s.executed :=
  h.started k (by simpa [or_assoc] using hk)

theorem execute (h : Accounted s) (valid : Bool) :
    Accounted (s.execute valid) := by
  have hr := h.reset .replaced
  have hstarted : ∀ k ∈ (s.execute valid).asked ++ (s.execute valid).threads ++
      (s.execute valid).dones, k < s.executed + 1 := by
    intro k hk
    have hlt := h.lt_executed (k := k)
    cases valid <;> simp [NaoGraspGesture.execute, NaoGraspGesture.reset] at hk
    · grind
    · grind
  cases valid with
  | false =>
      exact ⟨hr.fates, hr.asked, hr.order, hr.own, nofun, nofun, hstarted⟩
  | true =>
      refine ⟨?_, ?_, hr.order, hr.own, ?_, ?_, hstarted⟩
      · have hfates := hr.fates.append_right [s.executed]
        simpa [NaoGraspGesture.execute, NaoGraspGesture.reset] using hfates
      · have hnew : s.executed ∉ s.asked := fun hmem =>
          Nat.lt_irrefl _ (h.lt_executed (Or.inl hmem))
        exact List.nodup_append.mpr ⟨hr.asked, by simp,
          fun m hm k hk => by
            rw [List.mem_singleton.mp hk]
            exact fun heq => hnew (heq ▸ hm)⟩
      · intro n hn
        obtain rfl := Option.some.inj hn
        rfl
      · intro n hn
        obtain rfl := Option.some.inj hn
        exact Or.inl (List.mem_append_right _ List.mem_cons_self)

theorem foldl_execute (h : Accounted s) (nested : List Bool) :
    Accounted (nested.foldl NaoGraspGesture.execute s) := by
  induction nested generalizing s with
  | nil => exact h
  | cons valid nested ih => exact ih (h.execute valid)

theorem abort (h : Accounted s) (running : Bool) :
    Accounted (s.abort running) := by
  unfold NaoGraspGesture.abort
  split
  · exact h.reset .aborted
  · exact h

/-- The callbacks called before are those of earlier calls. -/
theorem told_lt (h : Accounted s) {n : ℕ} (hn : s.m_Callback = some n) :
    ∀ m ∈ s.told.map Prod.fst, m < n := by
  intro m hm
  have hnodup := h.fates.nodup_iff.mpr h.asked
  rw [hn, List.append_assoc] at hnodup
  have hne : m ≠ n := by
    rintro rfl
    exact (List.nodup_append.mp hnodup).2.2 m hm m (by simp) rfl
  have hmem : m ∈ s.asked := h.fates.subset (by simp [List.mem_append, hm])
  have hlt := h.lt_executed (Or.inl hmem)
  have hlatest := h.latest n hn
  omega

end Accounted

/-- The element at a place is apart from the others. -/
theorem mem_iff_eraseIdx {ks : List ℕ} {i k : ℕ} (hk : ks[i]? = some k)
    (n : ℕ) : n ∈ ks ↔ n = k ∨ n ∈ ks.eraseIdx i := by
  obtain ⟨hi, rfl⟩ := List.getElem?_eq_some_iff.mp hk
  rw [← (List.getElem_cons_eraseIdx_perm hi).mem_iff, List.mem_cons]

namespace Accounted

theorem moveThread (h : Accounted s) {i : ℕ} {throws : Bool}
    (ht : s.moveThread i throws = some t) : Accounted t := by
  obtain ⟨k, hk, rfl⟩ := Option.map_eq_some_iff.mp ht
  have hmem := mem_iff_eraseIdx hk
  have hlt := fun m => h.lt_executed (k := m)
  cases throws
  all_goals
    refine ⟨h.fates, h.asked, h.order, h.own, h.latest, ?_, ?_⟩
    · intro n hn
      have hplace := h.waiting n hn
      rw [hmem n] at hplace
      simp only [Bool.false_eq_true, if_false, if_true, List.mem_append,
        List.mem_singleton]
      grind
    · intro m hm
      simp only [Bool.false_eq_true, if_false, if_true, List.mem_append,
        List.mem_singleton] at hm
      grind

/-- The callback that waits is called by a `MoveDone`. -/
theorem call (h : Accounted s) {n i k : ℕ} (hn : s.m_Callback = some n)
    (hk : s.dones[i]? = some k) :
    Accounted (NaoGraspGesture.call n k
      { s with dones := s.dones.eraseIdx i }) where
  fates := by
    have hfates := h.fates
    rw [hn] at hfates
    refine List.Perm.trans ?_ hfates
    simp only [NaoGraspGesture.call, List.map_append, List.append_assoc]
    refine List.Perm.append_left _ ?_
    simpa using (List.perm_append_singleton n (s.lost.map Prod.fst)).symm
  asked := h.asked
  order := by
    simp only [NaoGraspGesture.call, List.map_append, List.pairwise_append]
    refine ⟨h.order, List.pairwise_singleton _ _, fun m hm n' hn' => ?_⟩
    rw [List.mem_singleton.mp hn']
    exact h.told_lt hn m hm
  own := by
    intro p hp
    rcases List.mem_append.mp hp with hold | hnew
    · exact h.own p hold
    · rw [List.mem_singleton.mp hnew]
      have hlatest := h.latest n hn
      have hlt := h.lt_executed (Or.inr (Or.inr (List.mem_of_getElem? hk)))
      rw [← hlatest] at hlt
      exact Nat.le_of_lt_succ hlt
  latest := nofun
  waiting := nofun
  started := by
    intro m hm
    refine h.started m ?_
    rcases List.mem_append.mp hm with hold | hdone
    · exact List.mem_append_left _ hold
    · exact List.mem_append_right _ (List.mem_of_mem_eraseIdx hdone)

theorem moveDone (h : Accounted s) {i : ℕ} {nested : List Bool}
    (ht : s.moveDone i nested = some t) : Accounted t := by
  obtain ⟨k, hk, ht⟩ := Option.bind_eq_some_iff.mp ht
  cases hn : s.m_Callback with
  | some n =>
      simp only [hn, Option.some.injEq] at ht
      subst ht
      exact ((h.call hn hk).foldl_execute nested).reset .nested
  | none =>
      simp only [hn] at ht
      obtain ⟨-, heq⟩ := Option.ite_none_right_eq_some.mp ht
      obtain rfl := Option.some.inj heq
      have hfates := h.fates
      rw [hn] at hfates
      refine ⟨hfates, h.asked, h.order, h.own, nofun, nofun, ?_⟩
      intro m hm
      have hmem := mem_iff_eraseIdx hk
      have hlt := h.lt_executed (k := m)
      simp only [List.mem_append] at hm
      grind

theorem step (h : Accounted s) {e : GraspEvent} (ht : s.step e = some t) :
    Accounted t := by
  cases e with
  | execute valid =>
      obtain rfl := Option.some.inj ht
      exact h.execute valid
  | abort running =>
      obtain rfl := Option.some.inj ht
      exact h.abort running
  | thread i throws => exact h.moveThread ht
  | done i nested => exact h.moveDone ht

end Accounted

/-- Whatever the order of the calls, the threads and the queued calls is. -/
theorem grasp_accounted (evs : List GraspEvent) :
    Throughout step Accounted {} evs :=
  throughout_of_eachStep (C := fun _ _ => True)
    (fun _ _ _ hs _ ht => hs.step ht) accounted_new (eachStep_true _ evs)

/-- `Execute` is called when nothing is under way, and not from within a
callback. -/
def Quiet (s : NaoGraspGesture) : GraspEvent → Prop
  | .execute _ => s.threads = [] ∧ s.dones = []
  | .done _ nested => nested = []
  | _ => True

instance (s : NaoGraspGesture) : ∀ e, Decidable (Quiet s e)
  | .execute _ => inferInstanceAs (Decidable (s.threads = [] ∧ s.dones = []))
  | .abort _ => isTrue trivial
  | .thread _ _ => isTrue trivial
  | .done _ nested => inferInstanceAs (Decidable (nested = []))

/-- What is under way is that of the latest `Execute`, and each callback has
been called for its own. -/
structure Own (s : NaoGraspGesture) : Prop where
  underWay : ∀ k, k ∈ s.threads ∨ k ∈ s.dones → k + 1 = s.executed
  told : ∀ p ∈ s.told, p.2 = p.1

theorem Own.step (h : Own s) (hs : Accounted s) {e : GraspEvent}
    (he : Quiet s e) (ht : s.step e = some t) : Own t := by
  cases e with
  | execute valid =>
      obtain rfl := Option.some.inj ht
      refine ⟨fun k hk => ?_, h.told⟩
      obtain ⟨hthreads, hdones⟩ := he
      have heq : k = s.executed := by
        simpa [NaoGraspGesture.execute, NaoGraspGesture.reset, hthreads,
          hdones] using hk
      exact congrArg (· + 1) heq
  | abort running =>
      obtain rfl := Option.some.inj ht
      unfold NaoGraspGesture.abort
      split
      · exact ⟨h.underWay, h.told⟩
      · exact h
  | thread i throws =>
      obtain ⟨k, hk, rfl⟩ := Option.map_eq_some_iff.mp ht
      have hmem := mem_iff_eraseIdx hk
      have hunder := h.underWay
      cases throws
      all_goals
        refine ⟨fun m hm => hunder m ?_, h.told⟩
        simp only [Bool.false_eq_true, if_false, if_true, List.mem_append,
          List.mem_singleton] at hm
        grind
  | done i nested =>
      obtain rfl : nested = [] := he
      obtain ⟨k, hk, ht⟩ := Option.bind_eq_some_iff.mp ht
      have herase : ∀ m, m ∈ s.threads ∨ m ∈ s.dones.eraseIdx i →
          m + 1 = s.executed :=
        fun m hm => h.underWay m (hm.imp_right List.mem_of_mem_eraseIdx)
      cases hn : s.m_Callback with
      | some n =>
          simp only [hn, Option.some.injEq] at ht
          subst ht
          refine ⟨herase, fun p hp => ?_⟩
          rcases List.mem_append.mp hp with hold | hnew
          · exact h.told p hold
          · rw [List.mem_singleton.mp hnew]
            have hlatest := hs.latest n hn
            have hunder := h.underWay k (Or.inr (List.mem_of_getElem? hk))
            exact Nat.succ.inj (hunder.trans hlatest.symm)
      | none =>
          simp only [hn, if_true] at ht
          obtain rfl := Option.some.inj ht
          exact ⟨herase, h.told⟩

/-- In a run whose calls of `Execute` come when nothing is under way, each
callback is called, if at all, by the `MoveDone` of its own move. -/
theorem grasp_own {evs : List GraspEvent} (h : EachStep step Quiet {} evs) :
    Throughout step (fun s => ∀ p ∈ s.told, p.2 = p.1) {} evs := by
  have hall : Throughout step (fun s => Accounted s ∧ Own s) {} evs :=
    throughout_of_eachStep (C := Quiet)
      (fun _ _ _ hs he ht => ⟨hs.1.step ht, hs.2.step hs.1 he ht⟩)
      ⟨accounted_new, nofun, nofun⟩ h
  exact hall.mono fun s hs => hs.2.told

/-- One grasp after the other. -/
theorem grasp_own_twice :
    Throughout step (fun s => ∀ p ∈ s.told, p.2 = p.1) {}
      [.execute true, .thread 0 false, .done 0 [], .execute true,
        .thread 0 false, .done 0 []] :=
  grasp_own (by decide)

/-- The second call of `Execute` is told of the first move. -/
example : (run step {} [.execute true, .execute true, .thread 0 false,
    .done 0 []]).map (fun s => (s.told, s.lost)) =
      some ([(1, 0)], [(0, .replaced)]) := rfl

end NaoGraspGesture

end SelfPlugins.Nao
