import Mathlib.Algebra.BigOperators.Group.List.Basic
import Mathlib.Algebra.GroupWithZero.Nat
import Mathlib.Data.Nat.Notation
import SelfPlugins.Library.Runs

/-!
# The streaming threads of the cameras

`NaoCamera`, `NaoDepthCamera`, `RemoteCamera` and `PointGreyCamera` poll their
images in a thread of the pool.  `OnStop` sets `m_StopThread`, at which the
thread leaves its loop, and waits for `m_ThreadStopped`, which the thread sets
as the last thing it does.  The classes differ in where they take the two flags
back: those of the NAO reset `m_StopThread` in `OnStart` and never reset
`m_ThreadStopped`, the other two never reset `m_StopThread` and reset
`m_ThreadStopped` when the thread is entered.

This module contains the classes, what is asked of them, and the rule by which
`OnStop` comes to an end.
-/

namespace SelfPlugins.Streaming

open Runs

/-- Where a thread is: in the pool, before it is entered; about to look at
`m_StopThread`; within the loop; behind it. -/
inductive Phase
  | waiting
  | checking
  | polling
  | leaving
deriving DecidableEq

/-- A thread.  `cycle` is the number of calls of `OnStop` before its `OnStart`,
`stopped` whether `OnStop` has been called since, and `failed` whether its
capture has failed. -/
structure StreamingThread where
  cycle : ℕ
  phase : Phase := .waiting
  stopped : Bool := false
  failed : Bool := false
deriving DecidableEq

/-- What the sensor has been told to do last: nothing or `OnStop`, which has
returned; `OnStart`; `OnStop`, which waits. -/
inductive Call
  | idle
  | started
  | stopping
deriving DecidableEq

/-- The state of a camera.  `pending` are the unanswered calls of `GetImage`, by
the cycle of the thread, `ended` is the number of threads that have ended. -/
structure Camera where
  m_StopThread : Bool := false
  m_ThreadStopped : Bool
  threads : List StreamingThread := []
  call : Call := .idle
  pending : List ℕ := []
  stops : ℕ := 0
  ended : ℕ := 0

/-- `OnStart` and `OnStop` are called, `OnStop` returns, a thread takes a step,
which may find the sensor paused and may fail, or an image comes for a call of
`GetImage`.  `β` is what `OnStart` depends on. -/
inductive CameraEvent (β : Type)
  | start (found : β)
  | stop
  | returns
  | thread (n : ℕ) (paused fails : Bool)
  | image (k : ℕ) (empty : Bool)

/-! ## What the classes share -/

namespace Camera

/-- `InvokeOnThread` -/
def invokeOnThread (s : Camera) : Camera :=
  { s with threads := s.threads ++ [{ cycle := s.stops }] }

/-- `OnStop`, up to its loop. -/
def onStop (s : Camera) : Camera :=
  { s with
    m_StopThread := true
    threads := s.threads.map fun t => { t with stopped := true }
    call := .stopping
    stops := s.stops + 1 }

/-- The loop of `OnStop` is left when `m_ThreadStopped` is set. -/
def returns (s : Camera) : Option Camera :=
  if s.call = .stopping ∧ s.m_ThreadStopped = true then
    some { s with call := .idle }
  else none

/-- One step of the `n`-th thread; `resets` is whether the class resets
`m_ThreadStopped` on entry. -/
def advance (resets : Bool) (n : ℕ) (t : StreamingThread) (fails : Bool)
    (s : Camera) : Camera :=
  match t.phase with
  | .waiting =>
      { s with
        m_ThreadStopped := s.m_ThreadStopped && !resets
        threads := s.threads.set n (if fails then
            { t with phase := .leaving, failed := true }
          else { t with phase := .checking }) }
  | .checking =>
      { s with
        threads := s.threads.set n
          { t with phase := if s.m_StopThread then .leaving else .polling } }
  | .polling =>
      { s with
        threads := s.threads.set n (if fails then
            { t with phase := .leaving, failed := true }
          else { t with phase := .checking }) }
  | .leaving =>
      { s with
        m_ThreadStopped := true
        threads := s.threads.eraseIdx n
        ended := s.ended + 1 }

/-- The calls of `OnStart` and `OnStop` alternate. -/
def start (onStart : Camera → Camera) (s : Camera) : Option Camera :=
  if s.call = .idle then some { onStart s with call := .started } else none

def stop (s : Camera) : Option Camera :=
  if s.call = .started then some (onStop s) else none

/-- One event, for a class whose threads do not call back. -/
def step {β : Type} (onStart : β → Camera → Camera) (resets : Bool)
    (s : Camera) : CameraEvent β → Option Camera
  | .start found => start (onStart found) s
  | .stop => stop s
  | .returns => returns s
  | .thread n _ fails =>
      (s.threads[n]?).map fun t => advance resets n t fails s
  | .image _ _ => none

/-- A thread polls until it is stopped or its capture fails, and `OnStop` does
not find `m_ThreadStopped` set while a thread is running or waiting to run. -/
structure Lawful (s : Camera) : Prop where
  polls : ∀ t ∈ s.threads, t.phase = .leaving →
    t.stopped = true ∨ t.failed = true
  stops : s.call = .stopping → s.m_ThreadStopped = true → s.threads = []

end Camera

open Streaming.Camera

/-! ## The classes -/

namespace NaoCamera

/-- The constructor, which leaves `m_ThreadStopped` to chance. -/
def new (undefined : Bool) : Camera := { m_ThreadStopped := undefined }

/-- `OnStart` -/
def onStart (s : Camera) : Camera :=
  invokeOnThread { s with m_StopThread := false }

/-- The thread, whose exceptions are caught, leaves `m_ThreadStopped` alone
until it ends. -/
def step : Camera → CameraEvent Unit → Option Camera :=
  Camera.step (fun _ => onStart) false

end NaoCamera

namespace NaoDepthCamera

/-- The constructor, which leaves `m_ThreadStopped` to chance. -/
def new (undefined : Bool) : Camera := { m_ThreadStopped := undefined }

/-- `OnStart` -/
def onStart (s : Camera) : Camera :=
  invokeOnThread { s with m_StopThread := false }

/-- The thread, whose exceptions are caught, leaves `m_ThreadStopped` alone
until it ends. -/
def step : Camera → CameraEvent Unit → Option Camera :=
  Camera.step (fun _ => onStart) false

end NaoDepthCamera

namespace RemoteCamera

def new : Camera := { m_ThreadStopped := true }

/-- `OnStart`, which looks for the camera service. -/
def onStart (found : Bool) (s : Camera) : Camera :=
  if found then invokeOnThread s else s

/-- `GetImage` is called within the loop, unless the sensor is paused. -/
def getImage (t : StreamingThread) (paused : Bool) (s : Camera) : Camera :=
  if t.phase = .polling ∧ paused = false then
    { s with pending := s.pending ++ [t.cycle] }
  else s

/-- The capture of the thread of the cycle has failed. -/
def fail (cycle : ℕ) (t : StreamingThread) : StreamingThread :=
  if t.cycle = cycle then { t with failed := true } else t

/-- `OnGetImage`, where an empty image means that the camera is gone, to the
thread that has asked for it. -/
def onGetImage (cycle : ℕ) (empty : Bool) (s : Camera) : Camera :=
  if empty then
    { s with m_StopThread := true, threads := s.threads.map (fail cycle) }
  else s

/-- The thread resets `m_ThreadStopped` on entry, and does not fail itself. -/
def step (s : Camera) : CameraEvent Bool → Option Camera
  | .thread n paused _ =>
      (s.threads[n]?).map fun t => advance true n t false (getImage t paused s)
  | .image k empty =>
      (s.pending[k]?).map fun cycle =>
        onGetImage cycle empty { s with pending := s.pending.eraseIdx k }
  | e => Camera.step onStart true s e

end RemoteCamera

namespace PointGreyCamera

/-- What the bus says: the number of cameras, unless that fails, and whether
the first can be opened. -/
structure Bus where
  numCamera : Option ℕ
  opens : Bool

def new : Camera := { m_ThreadStopped := true }

/-- `OnStart`, with its result. -/
def onStart (bus : Bus) (s : Camera) : Bool × Camera :=
  match bus.numCamera with
  | none => (false, s)
  | some 0 => (true, s)
  | some (_ + 1) => if bus.opens then (true, invokeOnThread s) else (false, s)

/-- The thread resets `m_ThreadStopped` on entry, and ends at any failure. -/
def step : Camera → CameraEvent Bus → Option Camera :=
  Camera.step (fun bus s => (onStart bus s).2) true

end PointGreyCamera

/-! ## The end of `OnStop` -/

/-- A step of a thread. -/
def CameraEvent.isThread {β : Type} : CameraEvent β → Bool
  | .thread _ _ _ => true
  | _ => false

/-- While `OnStop` waits, the threads take a bounded number of steps, and as
long as `OnStop` cannot return there is a thread to take one. -/
def OnStopEnds {β : Type} (step : Camera → CameraEvent β → Option Camera)
    (s : Camera) : Prop :=
  s.call = .stopping → ∀ es t, .returns ∉ es → run step s es = some t →
    es.countP CameraEvent.isThread ≤ 3 * s.threads.length ∧
      (t.m_ThreadStopped = true ∨ t.threads ≠ [])

/-- The steps a thread has to take once `m_StopThread` is set. -/
def StreamingThread.work (t : StreamingThread) : ℕ :=
  match t.phase with
  | .waiting => 3
  | .checking => 2
  | .polling => 3
  | .leaving => 1

namespace Camera

variable {s s' : Camera} {t : StreamingThread} {n : ℕ} {resets fails : Bool}

def work (s : Camera) : ℕ := (s.threads.map StreamingThread.work).sum

theorem work_le (s : Camera) : s.work ≤ 3 * s.threads.length := by
  unfold work
  induction s.threads with
  | nil => exact Nat.le_refl 0
  | cons t ts ih =>
      have ht : t.work ≤ 3 := by
        unfold StreamingThread.work
        split <;> omega
      rw [List.map_cons, List.sum_cons, List.length_cons]
      omega

/-- The work of a thread and that of the others. -/
theorem work_eq_add_eraseIdx {ts : List StreamingThread}
    (hn : ts[n]? = some t) :
    (ts.map StreamingThread.work).sum =
      t.work + ((ts.eraseIdx n).map StreamingThread.work).sum := by
  obtain ⟨hlt, rfl⟩ := List.getElem?_eq_some_iff.mp hn
  have hlen : n < (ts.map StreamingThread.work).length := by
    rwa [List.length_map]
  rw [← List.CommMonoid.add_sum_eraseIdx hlen, List.getElem_map,
    List.eraseIdx_map]

/-- A step of a thread brings it nearer to its end. -/
theorem work_advance (hs : s.m_StopThread = true)
    (hn : s.threads[n]? = some t) :
    (advance resets n t fails s).work + 1 ≤ s.work := by
  have hset : ∀ t' : StreamingThread, t'.work + 1 ≤ t.work →
      ((s.threads.set n t').map StreamingThread.work).sum + 1 ≤ s.work := by
    intro t' hle
    have hn' : (s.threads.set n t')[n]? = some t' :=
      List.getElem?_set_self (List.getElem?_eq_some_iff.mp hn).1
    rw [work, work_eq_add_eraseIdx hn, work_eq_add_eraseIdx hn',
      List.eraseIdx_set_eq]
    omega
  unfold advance
  split
  · rename_i hphase
    refine hset _ ?_
    cases fails <;> simp [StreamingThread.work, hphase]
  · rename_i hphase
    refine hset _ ?_
    simp [StreamingThread.work, hphase, hs]
  · rename_i hphase
    refine hset _ ?_
    cases fails <;> simp [StreamingThread.work, hphase]
  · rename_i hphase
    change ((s.threads.eraseIdx n).map StreamingThread.work).sum + 1 ≤ _
    have hone : t.work = 1 := by simp [StreamingThread.work, hphase]
    rw [work, work_eq_add_eraseIdx hn, hone]
    omega

/-- `OnStop` waits for something: `m_StopThread` is set meanwhile, and
`m_ThreadStopped` will be.  That of the NAO is not yet set for certain before
the first `OnStart`. -/
structure Ending (nao : Bool) (s : Camera) : Prop where
  stopping : s.call = .stopping → s.m_StopThread = true
  stopped : s.m_ThreadStopped = false →
    s.threads ≠ [] ∨ (nao = true ∧ s.call = .idle)

theorem Ending.advance {nao : Bool} (h : Ending nao s)
    (hn : s.threads[n]? = some t) :
    Ending nao (advance resets n t fails s) := by
  have hset : ∀ t', s.threads.set n t' ≠ [] := by
    intro t' hnil
    rw [List.set_eq_nil_iff] at hnil
    simp [hnil] at hn
  unfold Camera.advance
  split
  · exact ⟨h.stopping, fun _ => Or.inl (hset _)⟩
  · exact ⟨h.stopping, fun _ => Or.inl (hset _)⟩
  · exact ⟨h.stopping, fun _ => Or.inl (hset _)⟩
  · exact ⟨h.stopping, nofun⟩

theorem Ending.onStop {nao : Bool} (h : Ending nao s)
    (hcall : s.call = .started) : Ending nao (onStop s) := by
  refine ⟨fun _ => rfl, fun hflag => Or.inl ?_⟩
  rcases h.stopped hflag with hne | ⟨-, hidle⟩
  · exact fun hnil => hne (List.map_eq_nil_iff.mp hnil)
  · rw [hcall] at hidle
    cases hidle

theorem ending_returns {nao : Bool} (ht : returns s = some s') :
    Ending nao s' := by
  obtain ⟨⟨-, hflag⟩, ht⟩ := Option.ite_none_right_eq_some.mp ht
  obtain rfl := Option.some.inj ht
  exact ⟨nofun, fun hfalse => by rw [hflag] at hfalse; cases hfalse⟩

theorem ending_start {nao : Bool} {onStart : Camera → Camera}
    (honStart : (onStart s).m_ThreadStopped = false →
      (onStart s).threads ≠ []) (ht : start onStart s = some s') :
    Ending nao s' := by
  obtain ⟨-, ht⟩ := Option.ite_none_right_eq_some.mp ht
  obtain rfl := Option.some.inj ht
  exact ⟨nofun, fun hflag => Or.inl (honStart hflag)⟩

theorem ending_new : Ending false { m_ThreadStopped := true } :=
  ⟨nofun, nofun⟩

/-- An `OnStart` that starts a thread or does nothing. -/
theorem Ending.onStart (h : Ending false s)
    (honStart : s' = s ∨ s' = invokeOnThread s)
    (hflag : s'.m_ThreadStopped = false) : s'.threads ≠ [] := by
  rcases honStart with rfl | rfl
  · exact (h.stopped hflag).resolve_right fun hnao => nomatch hnao.1
  · exact List.append_ne_nil_of_right_ne_nil _ (List.cons_ne_nil _ _)

variable {β : Type} {onStart : β → Camera → Camera} {e : CameraEvent β}
  {nao : Bool}

theorem Ending.step (h : Ending nao s)
    (honStart : ∀ found, s.call = .idle →
      (onStart found s).m_ThreadStopped = false →
        (onStart found s).threads ≠ [])
    (ht : step onStart resets s e = some s') : Ending nao s' := by
  cases e with
  | start found =>
      have hidle := (Option.ite_none_right_eq_some.mp ht).1
      exact ending_start (honStart found hidle) ht
  | stop =>
      obtain ⟨hcall, ht⟩ := Option.ite_none_right_eq_some.mp ht
      obtain rfl := Option.some.inj ht
      exact h.onStop hcall
  | returns => exact ending_returns ht
  | thread n paused fails =>
      obtain ⟨t, hn, rfl⟩ := Option.map_eq_some_iff.mp ht
      exact h.advance hn
  | image k empty => cases ht

theorem advance_call : (advance resets n t fails s).call = s.call := by
  unfold advance
  split <;> rfl

/-- While `OnStop` waits, only the threads do anything. -/
theorem step_stopping (hcall : s.call = .stopping)
    (hs : s.m_StopThread = true) (he : e ≠ .returns)
    (ht : step onStart resets s e = some s') :
    s'.call = .stopping ∧ s'.work + (if e.isThread then 1 else 0) ≤ s.work := by
  cases e with
  | start found =>
      have hidle := (Option.ite_none_right_eq_some.mp ht).1
      rw [hcall] at hidle
      cases hidle
  | stop =>
      have hstarted := (Option.ite_none_right_eq_some.mp ht).1
      rw [hcall] at hstarted
      cases hstarted
  | returns => exact absurd rfl he
  | thread n paused fails =>
      obtain ⟨t, hn, rfl⟩ := Option.map_eq_some_iff.mp ht
      exact ⟨advance_call.trans hcall, work_advance hs hn⟩
  | image k empty => cases ht

/-- The rule for `OnStopEnds`. -/
theorem Ending.onStopEnds {step : Camera → CameraEvent β → Option Camera}
    (hstep : ∀ s e s', Ending nao s → step s e = some s' → Ending nao s')
    (hwork : ∀ s e s', s.call = .stopping → s.m_StopThread = true →
      e ≠ .returns → step s e = some s' →
        s'.call = .stopping ∧
          s'.work + (if e.isThread then 1 else 0) ≤ s.work)
    (h : Ending nao s) : OnStopEnds step s := by
  intro hcall es
  have hrun : ∀ s : Camera, Ending nao s → s.call = .stopping → ∀ t,
      .returns ∉ es → run step s es = some t →
        es.countP CameraEvent.isThread ≤ s.work ∧
          (t.m_ThreadStopped = true ∨ t.threads ≠ []) := by
    induction es with
    | nil =>
        intro s h hcall t _ ht
        obtain rfl := Option.some.inj ht
        refine ⟨Nat.zero_le _, ?_⟩
        cases hflag : s.m_ThreadStopped with
        | true => exact Or.inl rfl
        | false =>
            refine Or.inr ((h.stopped hflag).resolve_right fun hidle => ?_)
            rw [hcall] at hidle
            cases hidle.2
    | cons e es ih =>
        intro s h hcall t hreturns ht
        rw [run_cons] at ht
        obtain ⟨u, hu, ht⟩ := Option.bind_eq_some_iff.mp ht
        have he := (List.ne_of_not_mem_cons hreturns).symm
        have hes := List.not_mem_of_not_mem_cons hreturns
        obtain ⟨hcall', hle⟩ := hwork s e u hcall (h.stopping hcall) he hu
        obtain ⟨hcount, hend⟩ := ih u (hstep s e u h hu) hcall' t hes ht
        refine ⟨?_, hend⟩
        rw [List.countP_cons]
        omega
  intro t hreturns ht
  obtain ⟨hcount, hend⟩ := hrun s h hcall t hreturns ht
  exact ⟨Nat.le_trans hcount s.work_le, hend⟩

end Camera

end SelfPlugins.Streaming
