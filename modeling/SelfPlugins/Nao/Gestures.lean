import Mathlib.Data.Nat.Notation
import SelfPlugins.Library.Runs

/-!
# The worker gestures of the NAO

`NaoMoveGesture` and `NaoAnimateGesture` carry out the requests of their queue
one after the other: a worker thread makes the calls of the robot's services
and queues a call of `MoveDone` or `AnimateDone` on the main thread, which pops
the request and starts the next.  `Abort` empties the queue and leaves a worker
that is under way alone, so its `Done` may find other requests than its own.

`worker_gestures_iff` says in which runs the gestures nevertheless complete
their own requests.
-/

namespace SelfPlugins.Nao

open Runs

/-- A thread, with the request it was started for. -/
structure Worker (α : Type) where
  request : ℕ
  work : α

/-- The state of a gesture.  A request is the number of its call of `Execute`;
`queued` are the requests of the queued calls of `Done`, `completed` those whose
callbacks have been called. -/
structure WorkerGesture (α : Type) where
  requests : List ℕ := []
  workers : List (Worker α) := []
  queued : List ℕ := []
  executed : ℕ := 0
  completed : List ℕ := []
  aborted : List ℕ := []
  doneCalls : ℕ := 0

/-- The gesture is called, a worker ends, possibly by an exception of one of
the services, or the main thread gets to a queued `Done`.  `γ` are the choices
that are open when a request is started. -/
inductive GestureEvent (γ : Type)
  | execute (choice : γ)
  | abort (throws : Bool)
  | worker (n : ℕ) (throws : Bool)
  | done (n : ℕ) (choice : γ)

namespace WorkerGesture

variable {α : Type}

/-! ## The queue of `IGesture` -/

def pushRequest (s : WorkerGesture α) : WorkerGesture α :=
  { s with
    requests := s.requests ++ [s.executed]
    executed := s.executed + 1 }

/-- `PopRequest` completes the front request. -/
def popRequest (s : WorkerGesture α) : WorkerGesture α :=
  { s with
    requests := s.requests.tail
    completed := s.completed ++ s.requests.head?.toList }

/-- `PopAllRequests` completes all. -/
def popAllRequests (s : WorkerGesture α) : WorkerGesture α :=
  { s with
    requests := []
    completed := s.completed ++ s.requests
    aborted := s.aborted ++ s.requests }

/-- `InvokeOnThread`, for the active request. -/
def invokeOnThread (work : α) (s : WorkerGesture α) : WorkerGesture α :=
  match s.requests with
  | req :: _ => { s with workers := s.workers ++ [⟨req, work⟩] }
  | [] => s

/-- The end of the `n`-th worker, which is followed by a `Done` if it
`reports`. -/
def endWorker (n : ℕ) (reports : Bool) (s : WorkerGesture α) :
    Option (WorkerGesture α) :=
  (s.workers[n]?).map fun w =>
    { s with
      workers := s.workers.eraseIdx n
      queued := if reports then s.queued ++ [w.request] else s.queued }

/-- The main thread takes the `n`-th `Done` off its queue. -/
def takeDone (n : ℕ) (s : WorkerGesture α) : Option (WorkerGesture α) :=
  (s.queued[n]?).map fun _ => { s with queued := s.queued.eraseIdx n }

/-! ## What is asked of the gestures -/

/-- The requests for which a worker or a queued `Done` exists. -/
def active (s : WorkerGesture α) : List ℕ :=
  s.queued ++ s.workers.map Worker.request

/-- One worker or `Done` at most, and a request is being worked on. -/
structure Orderly (s : WorkerGesture α) : Prop where
  one : s.active.length ≤ 1
  served : s.requests ≠ [] → s.active ≠ []

variable {γ : Type}

/-- The request that an event makes. -/
def arriving (s : WorkerGesture α) : GestureEvent γ → List ℕ
  | .execute _ => [s.executed]
  | _ => []

/-- What an event is to complete: a `Done` the request of its worker, unless
that has been aborted, and `Abort` all requests, if it succeeds.  `skip` gives
the requests at the front of a queue for which nothing can be started. -/
def completedBy (aborts : Bool → Bool) (skip : γ → List ℕ → List ℕ)
    (s : WorkerGesture α) : GestureEvent γ → List ℕ
  | .execute choice => if s.requests = [] then skip choice [s.executed] else []
  | .abort throws => if aborts throws then s.requests else []
  | .worker _ _ => []
  | .done n choice =>
      match s.queued[n]? with
      | some req =>
          if req ∈ s.aborted then [] else req :: skip choice s.requests.tail
      | none => []

/-- Those of them that are aborted. -/
def abortedBy (aborts : Bool → Bool) (s : WorkerGesture α) :
    GestureEvent γ → List ℕ
  | .abort throws => if aborts throws then s.requests else []
  | .execute _ | .worker _ _ | .done _ _ => []

/-- A step from `s` to `t` pops just what the event is to complete. -/
structure Popped (done gone arrived : List ℕ) (s t : WorkerGesture α) :
    Prop where
  requests : s.requests ++ arrived = done ++ t.requests
  completed : t.completed = s.completed ++ done
  aborted : t.aborted = s.aborted ++ gone

/-- The law of a step. -/
def Pops (step : WorkerGesture α → GestureEvent γ → Option (WorkerGesture α))
    (aborts : Bool → Bool) (skip : γ → List ℕ → List ℕ)
    (s : WorkerGesture α) (e : GestureEvent γ) : Prop :=
  ∀ t, step s e = some t →
    Popped (completedBy aborts skip s e) (abortedBy aborts s e)
      (arriving s e) s t

end WorkerGesture

open WorkerGesture

/-! ## `NaoMoveGesture` -/

namespace Move

/-- `Execute` -/
def execute (s : WorkerGesture Unit) : WorkerGesture Unit :=
  if s.requests = [] then invokeOnThread () (pushRequest s) else pushRequest s

/-- `Abort`, which may fail before the requests are popped. -/
def abort (throws : Bool) (s : WorkerGesture Unit) : WorkerGesture Unit :=
  if s.requests = [] then s
  else if throws then s
  else popAllRequests s

/-- `MoveDone` -/
def moveDone (s : WorkerGesture Unit) : WorkerGesture Unit :=
  let s := popRequest { s with doneCalls := s.doneCalls + 1 }
  if s.requests = [] then s else invokeOnThread () s

/-- One event.  `MoveThread` catches an exception, and reports only if there
was none. -/
def step (s : WorkerGesture Unit) :
    GestureEvent Unit → Option (WorkerGesture Unit)
  | .execute _ => some (execute s)
  | .abort throws => some (abort throws s)
  | .worker n throws => endWorker n (!throws) s
  | .done n _ => (takeDone n s).map moveDone

end Move

/-! ## `NaoAnimateGesture` -/

namespace Animate

structure AnimationEntry where
  m_AnimId : String
  m_RequiredPosture : String

/-- What `ExecuteAnimation` depends on: the posture it reads for the `i`-th
animation, and a random number. -/
structure Choice where
  posture : ℕ → String
  rand : ℕ

/-- The animations for the posture. -/
def fitting (m_Animations : List AnimationEntry) (choice : Choice) :
    List AnimationEntry :=
  (m_Animations.zipIdx.filter fun (entry, i) =>
    entry.m_RequiredPosture = "" ∨
      entry.m_RequiredPosture = choice.posture i).map Prod.fst

mutual

/-- `ExecuteAnimation`; the `k`-th choice is for the `k`-th call. -/
def executeAnimation (m_Animations : List AnimationEntry)
    (choices : ℕ → Choice) (s : WorkerGesture String) : WorkerGesture String :=
  let anims := fitting m_Animations (choices 0)
  if h : 0 < anims.length then
    let entry := anims.get ⟨(choices 0).rand % anims.length, Nat.mod_lt _ h⟩
    invokeOnThread entry.m_AnimId s
  else animateDone m_Animations (fun k => choices (k + 1)) s
termination_by (s.requests.length, 1)

/-- `AnimateDone` -/
def animateDone (m_Animations : List AnimationEntry) (choices : ℕ → Choice)
    (s : WorkerGesture String) : WorkerGesture String :=
  let next := popRequest { s with doneCalls := s.doneCalls + 1 }
  if _h : next.requests = [] then next
  else executeAnimation m_Animations choices next
termination_by (s.requests.length, 0)
decreasing_by
  apply Prod.Lex.left
  have hne : s.requests ≠ [] := fun hnil => _h (by simp [next, popRequest, hnil])
  have hpos := List.length_pos_iff.mpr hne
  simp only [popRequest, List.length_tail]
  omega

end

/-- `Execute` -/
def execute (m_Animations : List AnimationEntry) (choices : ℕ → Choice)
    (s : WorkerGesture String) : WorkerGesture String :=
  if s.requests = [] then
    executeAnimation m_Animations choices (pushRequest s)
  else pushRequest s

/-- One event.  `AnimateThread` reports after an exception too, and `Abort`
calls no service. -/
def step (m_Animations : List AnimationEntry) (s : WorkerGesture String) :
    GestureEvent (ℕ → Choice) → Option (WorkerGesture String)
  | .execute choices => some (execute m_Animations choices s)
  | .abort _ => some (popAllRequests s)
  | .worker n _ => endWorker n true s
  | .done n choices => (takeDone n s).map (animateDone m_Animations choices)

end Animate

/-! ## What is started -/

section Starts

variable {α : Type} {s s' : WorkerGesture α}

/-- `s'` comes from `s` by completing the requests `done` from the front and
starting a worker for the one then in front, if there is any. -/
structure Starts (done : List ℕ) (s s' : WorkerGesture α) : Prop where
  active : s'.active = s.active ++ s'.requests.head?.toList
  requests : s.requests = done ++ s'.requests
  completed : s'.completed = s.completed ++ done
  aborted : s'.aborted = s.aborted
  executed : s'.executed = s.executed

theorem invokeOnThread_starts (work : α) (s : WorkerGesture α) :
    Starts [] s (invokeOnThread work s) := by
  unfold invokeOnThread
  split
  · rename_i req rest hreq
    refine ⟨?_, rfl, (List.append_nil _).symm, rfl, rfl⟩
    simp [active, hreq]
  · rename_i hreq
    refine ⟨?_, rfl, (List.append_nil _).symm, rfl, rfl⟩
    simp [hreq]

theorem head?_toList {β : Type} (l : List β) : l.head?.toList = l.take 1 := by
  cases l with
  | nil => rfl
  | cons x rest => rfl

/-- A `Done` that leaves no requests. -/
theorem popRequest_starts (h : (popRequest s).requests = []) :
    Starts (s.requests.take 1) s (popRequest s) := by
  refine ⟨?_, ?_, congrArg (s.completed ++ ·) (head?_toList s.requests), rfl,
    rfl⟩
  · rw [h]
    exact (List.append_nil _).symm
  · change s.requests = s.requests.take 1 ++ s.requests.tail
    rw [← List.drop_one, List.take_append_drop]

/-- A `Done` after which the next request is started. -/
theorem Starts.of_popRequest {done : List ℕ}
    (h : Starts done (popRequest s) s') :
    Starts (s.requests.take 1 ++ done) s s' where
  active := h.active
  requests := by
    have hrest : s.requests.tail = done ++ s'.requests := h.requests
    rw [List.append_assoc, ← hrest, ← List.drop_one, List.take_append_drop]
  completed := by
    rw [h.completed, popRequest, head?_toList, List.append_assoc]
  aborted := h.aborted
  executed := h.executed

/-- `doneCalls` only counts. -/
theorem Starts.of_doneCalls {done : List ℕ} {n : ℕ}
    (h : Starts done { s with doneCalls := n } s') : Starts done s s' :=
  ⟨h.active, h.requests, h.completed, h.aborted, h.executed⟩

theorem Move.moveDone_starts (s : WorkerGesture Unit) :
    Starts (s.requests.take 1 ++ []) s (Move.moveDone s) := by
  refine Starts.of_doneCalls (n := s.doneCalls + 1) ?_
  unfold Move.moveDone
  dsimp only
  split
  · rw [List.append_nil]
    exact popRequest_starts ‹_›
  · exact Starts.of_popRequest (s := { s with doneCalls := s.doneCalls + 1 })
      (invokeOnThread_starts () _)

end Starts

namespace Animate

variable {m_Animations : List AnimationEntry}

/-- The requests from the front for which no animation fits the posture. -/
def unfit (m_Animations : List AnimationEntry) (choices : ℕ → Choice) :
    List ℕ → List ℕ
  | [] => []
  | req :: rest =>
      if fitting m_Animations (choices 0) = [] then
        req :: unfit m_Animations (fun k => choices (k + 1)) rest
      else []

/-- The recursion of `ExecuteAnimation` and `AnimateDone`, for a queue of any
length. -/
theorem animate_starts (m_Animations : List AnimationEntry)
    (choices : ℕ → Choice) (s : WorkerGesture String) :
    Starts (unfit m_Animations choices s.requests) s
        (executeAnimation m_Animations choices s) ∧
      Starts (s.requests.take 1 ++ unfit m_Animations choices s.requests.tail) s
        (animateDone m_Animations choices s) := by
  induction hn : s.requests.length using Nat.strongRecOn
    generalizing choices s with
  | ind n ih =>
      have hdone : ∀ choices,
          Starts
            (s.requests.take 1 ++ unfit m_Animations choices s.requests.tail) s
            (animateDone m_Animations choices s) := by
        intro choices
        refine Starts.of_doneCalls (n := s.doneCalls + 1) ?_
        rw [animateDone]
        split
        · rename_i hrest
          have htail : s.requests.tail = [] := hrest
          rw [htail, unfit, List.append_nil]
          exact popRequest_starts hrest
        · rename_i hrest
          have hlt : s.requests.tail.length < n := by
            have hpos : 0 < s.requests.tail.length :=
              List.length_pos_iff.mpr hrest
            rw [List.length_tail] at hpos ⊢
            omega
          let u : WorkerGesture String :=
            { s with doneCalls := s.doneCalls + 1 }
          exact Starts.of_popRequest (s := u)
            (ih _ hlt choices (popRequest u) rfl).1
      refine ⟨?_, hdone choices⟩
      rw [executeAnimation]
      split
      · rename_i hfit
        have hnone : unfit m_Animations choices s.requests = [] := by
          cases s.requests with
          | nil => rfl
          | cons req rest => exact if_neg (List.length_pos_iff.mp hfit)
        rw [hnone]
        exact invokeOnThread_starts _ s
      · rename_i hfit
        have hempty : fitting m_Animations (choices 0) = [] :=
          List.length_eq_zero_iff.mp (Nat.eq_zero_of_not_pos hfit)
        have hall : unfit m_Animations choices s.requests =
            s.requests.take 1 ++
              unfit m_Animations (fun k => choices (k + 1)) s.requests.tail := by
          cases s.requests with
          | nil => rfl
          | cons req rest => exact if_pos hempty
        rw [hall]
        exact hdone _

/-- The calls of `AnimateDone` within the recursion pop a request each. -/
theorem animate_doneCalls (choices : ℕ → Choice) (s : WorkerGesture String) :
    (executeAnimation m_Animations choices s).doneCalls ≤
        s.doneCalls + max s.requests.length 1 ∧
      (animateDone m_Animations choices s).doneCalls ≤
        s.doneCalls + max s.requests.length 1 := by
  induction hn : s.requests.length using Nat.strongRecOn
    generalizing choices s with
  | ind n ih =>
      have hdone : ∀ choices, (animateDone m_Animations choices s).doneCalls ≤
          s.doneCalls + max n 1 := by
        intro choices
        rw [animateDone]
        split
        · exact Nat.add_le_add_left (Nat.le_max_right n 1) s.doneCalls
        · rename_i hrest
          have hlt : 0 < s.requests.tail.length ∧
              s.requests.tail.length + 1 = n := by
            have hpos : 0 < s.requests.tail.length :=
              List.length_pos_iff.mpr hrest
            rw [List.length_tail] at hpos ⊢
            omega
          have hnext := (ih s.requests.tail.length (by omega) choices
            (popRequest { s with doneCalls := s.doneCalls + 1 }) rfl).1
          dsimp only [popRequest] at hnext ⊢
          omega
      refine ⟨?_, hdone choices⟩
      rw [executeAnimation]
      split
      · unfold invokeOnThread
        split <;> exact Nat.le_add_right _ _
      · exact hdone _

end Animate

/-! ## The invariant -/

section Accounted

variable {α : Type} {s s' : WorkerGesture α} {n : ℕ}

/-- The requests are numbered, and those in the queue have not been aborted. -/
structure Numbered (s : WorkerGesture α) : Prop where
  fresh : ∀ r ∈ s.requests, r ∉ s.aborted
  queue : ∀ r ∈ s.requests, r < s.executed
  past : ∀ r ∈ s.aborted, r < s.executed

/-- What is active is the front request, or a request that has been aborted
since then while no other has been made. -/
structure Accounted (s : WorkerGesture α) : Prop extends Numbered s where
  active : s.active = s.requests.head?.toList ∨
    s.requests = [] ∧ ∃ r ∈ s.aborted, s.active = [r]

theorem Accounted.orderly (h : Accounted s) : s.Orderly := by
  refine ⟨?_, fun hne => ?_⟩
  · rcases h.active with hact | ⟨-, r, -, hact⟩
    · rw [hact]
      cases s.requests with
      | nil => exact Nat.zero_le 1
      | cons r rest => exact Nat.le_refl 1
    · rw [hact]
      exact Nat.le_refl 1
  · rcases h.active with hact | ⟨hnil, -⟩
    · obtain ⟨r, rest, hreq⟩ := List.exists_cons_of_ne_nil hne
      rw [hact, hreq]
      exact List.cons_ne_nil r []
    · exact absurd hnil hne

theorem accounted_start : Accounted ({} : WorkerGesture α) :=
  ⟨⟨nofun, nofun, nofun⟩, Or.inl rfl⟩

theorem Numbered.push (h : Numbered s) : Numbered (pushRequest s) where
  fresh := fun r hr => by
    rcases List.mem_append.mp hr with hr | hr
    · exact h.fresh r hr
    · intro hab
      rw [List.mem_singleton.mp hr] at hab
      exact Nat.lt_irrefl _ (h.past _ hab)
  queue := fun r hr => by
    rcases List.mem_append.mp hr with hr | hr
    · exact Nat.lt_succ_of_lt (h.queue r hr)
    · rw [List.mem_singleton.mp hr]
      exact Nat.lt_succ_self _
  past := fun r hr => Nat.lt_succ_of_lt (h.past r hr)

/-- A request behind others. -/
theorem Accounted.push (h : Accounted s) (hne : s.requests ≠ []) :
    Accounted (pushRequest s) := by
  obtain ⟨r, rest, hreq⟩ := List.exists_cons_of_ne_nil hne
  refine ⟨h.toNumbered.push, Or.inl ?_⟩
  have hact := h.active.resolve_right fun hnil => hne hnil.1
  rw [hreq] at hact
  simpa [pushRequest, hreq, WorkerGesture.active] using hact

theorem Numbered.starts {done : List ℕ} (h : Numbered s)
    (hs : Starts done s s') : Numbered s' := by
  have hsub : ∀ r ∈ s'.requests, r ∈ s.requests := fun r hr =>
    hs.requests ▸ List.mem_append_right done hr
  refine ⟨fun r hr => ?_, fun r hr => ?_, ?_⟩
  · rw [hs.aborted]
    exact h.fresh r (hsub r hr)
  · rw [hs.executed]
    exact h.queue r (hsub r hr)
  · rw [hs.aborted, hs.executed]
    exact h.past

/-- The front request may be started when nothing is active. -/
theorem Accounted.of_starts {done : List ℕ} (h : Numbered s)
    (hact : s.active = []) (hs : Starts done s s') : Accounted s' := by
  refine ⟨h.starts hs, Or.inl ?_⟩
  rw [hs.active, hact, List.nil_append]

/-- Starting a request while something is active makes two activities. -/
theorem not_orderly_invokeOnThread {work : α} (hact : s.active ≠ [])
    (hreq : s.requests ≠ []) : ¬(invokeOnThread work s).Orderly := by
  intro horderly
  obtain ⟨r, rest, hcons⟩ := List.exists_cons_of_ne_nil hreq
  have hone := horderly.one
  have hpos : 0 < s.active.length := List.length_pos_iff.mpr hact
  have htwo : (invokeOnThread work s).active.length = s.active.length + 1 := by
    simp [invokeOnThread, hcons, WorkerGesture.active, Nat.add_assoc]
  omega

/-- `PopAllRequests` leaves what is active to an aborted request. -/
theorem Accounted.abort (h : Accounted s) : Accounted (popAllRequests s) := by
  refine ⟨⟨nofun, nofun, fun r hr => ?_⟩, ?_⟩
  · rcases List.mem_append.mp hr with hr | hr
    · exact h.past r hr
    · exact h.queue r hr
  · change s.active = [] ∨ [] = [] ∧
      ∃ r ∈ s.aborted ++ s.requests, s.active = [r]
    rcases h.active with hact | ⟨hnil, r, hr, hact⟩
    · cases hreq : s.requests with
      | nil =>
          rw [hreq] at hact
          exact Or.inl hact
      | cons r rest =>
          rw [hreq] at hact
          exact Or.inr ⟨rfl, r, List.mem_append_right _ List.mem_cons_self,
            hact⟩
    · exact Or.inr ⟨rfl, r, List.mem_append_left _ hr, hact⟩

/-- Where there is one entry at most, the entry read is the only one. -/
theorem eq_singleton_of_getElem? {β : Type} {l : List β} {x : β}
    (hx : l[n]? = some x) (hle : l.length ≤ 1) : l = [x] ∧ n = 0 := by
  obtain ⟨hlt, rfl⟩ := List.getElem?_eq_some_iff.mp hx
  obtain rfl : n = 0 := by omega
  exact ⟨List.eq_getElem_of_length_eq_one l (by omega), rfl⟩

/-- A worker is the only activity. -/
theorem Accounted.sole_worker {w : Worker α} (h : Accounted s)
    (hw : s.workers[n]? = some w) :
    s.queued = [] ∧ s.workers = [w] ∧ n = 0 := by
  have hone := h.orderly.one
  rw [WorkerGesture.active, List.length_append, List.length_map] at hone
  have hlt : n < s.workers.length := (List.getElem?_eq_some_iff.mp hw).1
  exact ⟨List.length_eq_zero_iff.mp (by omega),
    eq_singleton_of_getElem? hw (by omega)⟩

/-- A queued `Done` is the only activity. -/
theorem Accounted.sole_done {r : ℕ} (h : Accounted s)
    (hr : s.queued[n]? = some r) :
    s.queued = [r] ∧ s.workers = [] ∧ n = 0 := by
  have hone := h.orderly.one
  rw [WorkerGesture.active, List.length_append, List.length_map] at hone
  have hlt : n < s.queued.length := (List.getElem?_eq_some_iff.mp hr).1
  obtain ⟨hqueued, hzero⟩ := eq_singleton_of_getElem? hr (by omega)
  exact ⟨hqueued, List.length_eq_zero_iff.mp (by omega), hzero⟩

/-- A worker that reports. -/
theorem Accounted.reports (h : Accounted s)
    (ht : endWorker n true s = some s') : Accounted s' := by
  obtain ⟨w, hw, rfl⟩ := Option.map_eq_some_iff.mp ht
  obtain ⟨hqueued, hworkers, rfl⟩ := h.sole_worker hw
  refine ⟨⟨h.fresh, h.queue, h.past⟩, ?_⟩
  have hact := h.active
  simpa [WorkerGesture.active, hqueued, hworkers] using hact

/-- A worker that does not report leaves nothing active. -/
theorem Accounted.silent (h : Accounted s)
    (ht : endWorker n false s = some s') :
    Numbered s' ∧ s'.active = [] ∧ s'.requests = s.requests := by
  obtain ⟨w, hw, rfl⟩ := Option.map_eq_some_iff.mp ht
  obtain ⟨hqueued, hworkers, rfl⟩ := h.sole_worker hw
  refine ⟨⟨h.fresh, h.queue, h.past⟩, ?_, rfl⟩
  simp [WorkerGesture.active, hqueued, hworkers]

/-- A `Done` that is taken leaves nothing active. -/
theorem Accounted.taken (h : Accounted s) (ht : takeDone n s = some s') :
    Numbered s' ∧ s'.active = [] := by
  obtain ⟨r, hr, rfl⟩ := Option.map_eq_some_iff.mp ht
  obtain ⟨hqueued, hworkers, rfl⟩ := h.sole_done hr
  refine ⟨⟨h.fresh, h.queue, h.past⟩, ?_⟩
  simp [WorkerGesture.active, hqueued, hworkers]

/-- The request of a queued `Done` is in front, or all have been aborted with
it. -/
theorem Accounted.own {r : ℕ} (h : Accounted s) (hr : s.queued[n]? = some r) :
    s.requests.take 1 = if r ∈ s.aborted then [] else [r] := by
  obtain ⟨hqueued, hworkers, rfl⟩ := h.sole_done hr
  have hsingle : s.active = [r] := by
    simp [WorkerGesture.active, hqueued, hworkers]
  rcases h.active with hact | ⟨hnil, q, hq, hact⟩
  · have hfront : s.requests.head? = some r :=
      Option.toList_eq_singleton_iff.mp (hact.symm.trans hsingle)
    have hnot : r ∉ s.aborted := h.fresh r (List.mem_of_mem_head? hfront)
    rw [if_neg hnot, ← head?_toList, hfront]
    rfl
  · obtain rfl : r = q := List.singleton_inj.mp (hsingle.symm.trans hact)
    rw [if_pos hq, hnil]
    rfl

end Accounted

/-! ## What a step pops -/

section Popped

variable {α γ : Type} {s s' t : WorkerGesture α} {n : ℕ}
  {aborts : Bool → Bool} {skip : γ → List ℕ → List ℕ} {choice : γ}

theorem Starts.popped {done : List ℕ} (h : Starts done s t) :
    Popped done [] [] s t where
  requests := (List.append_nil _).trans h.requests
  completed := h.completed
  aborted := h.aborted.trans (List.append_nil _).symm

/-- A step that pops nothing. -/
theorem Popped.none (hrequests : t.requests = s.requests)
    (hcompleted : t.completed = s.completed)
    (haborted : t.aborted = s.aborted) : Popped [] [] [] s t where
  requests := (List.append_nil _).trans hrequests.symm
  completed := hcompleted.trans (List.append_nil _).symm
  aborted := haborted.trans (List.append_nil _).symm

theorem popAllRequests_popped (s : WorkerGesture α) :
    Popped s.requests s.requests [] s (popAllRequests s) :=
  ⟨rfl, rfl, rfl⟩

/-- `Execute`: a request behind others, or the first one is started. -/
theorem execute_popped
    (hstart : Starts (skip choice (s.requests ++ [s.executed]))
      (pushRequest s) s') :
    Popped (completedBy aborts skip s (.execute choice))
      (abortedBy aborts s (.execute choice)) (arriving s (.execute choice)) s
      (if s.requests = [] then s' else pushRequest s) := by
  by_cases hreq : s.requests = []
  · rw [if_pos hreq, completedBy, if_pos hreq, abortedBy]
    rw [hreq] at hstart
    refine ⟨?_, hstart.completed,
      hstart.aborted.trans (List.append_nil _).symm⟩
    exact hstart.requests
  · rw [if_neg hreq, completedBy, if_neg hreq, abortedBy]
    exact ⟨rfl, (List.append_nil _).symm, (List.append_nil _).symm⟩

/-- A `Done` that is taken by the main thread pops the request of its worker,
unless that has been aborted, and those that cannot be started. -/
theorem Accounted.done_popped (h : Accounted s)
    (hskip : skip choice [] = []) (htake : takeDone n s = some t)
    (hstart : Starts (t.requests.take 1 ++ skip choice t.requests.tail) t s') :
    Popped (completedBy aborts skip s (.done n choice))
      (abortedBy aborts s (.done n choice)) (arriving s (.done n choice)) s
      s' := by
  obtain ⟨r, hr, rfl⟩ := Option.map_eq_some_iff.mp htake
  have hdone : completedBy aborts skip s (.done n choice) =
      s.requests.take 1 ++ skip choice s.requests.tail := by
    have hown := h.own hr
    rw [completedBy, hr]
    dsimp only
    by_cases hab : r ∈ s.aborted
    · rw [if_pos hab] at hown
      have hnil : s.requests = [] := by
        cases hreq : s.requests with
        | nil => rfl
        | cons q rest =>
            rw [hreq] at hown
            cases hown
      rw [if_pos hab, hnil, List.tail_nil, hskip]
      rfl
    · rw [if_neg hab] at hown
      rw [if_neg hab, hown, List.singleton_append]
  rw [hdone]
  have hpopped := hstart.popped
  exact ⟨hpopped.requests, hpopped.completed, hpopped.aborted⟩

end Popped

/-! ## `NaoMoveGesture` in its runs -/

namespace Move

/-- A request comes onto the empty queue when nothing is active, and no worker
fails whose request is still there. -/
def Clean (s : WorkerGesture Unit) : GestureEvent Unit → Prop
  | .execute _ => s.requests = [] → s.active = []
  | .abort _ => True
  | .worker _ throws => throws = true → s.requests = []
  | .done _ _ => True

variable {s s' : WorkerGesture Unit} {e : GestureEvent Unit}

theorem accounted_step (h : Accounted s) (hC : Clean s e)
    (ht : step s e = some s') : Accounted s' := by
  cases e with
  | execute choice =>
      obtain rfl := Option.some.inj ht
      unfold execute
      split
      · rename_i hreq
        exact Accounted.of_starts h.toNumbered.push (hC hreq)
          (invokeOnThread_starts () _)
      · exact h.push ‹_›
  | abort throws =>
      obtain rfl := Option.some.inj ht
      unfold abort
      split
      · exact h
      · split
        · exact h
        · exact h.abort
  | worker n throws =>
      cases throws with
      | false => exact h.reports ht
      | true =>
          obtain ⟨hnumbered, hact, hreq⟩ := h.silent ht
          refine ⟨hnumbered, Or.inl ?_⟩
          rw [hact, hreq, hC rfl]
          rfl
  | done n choice =>
      obtain ⟨t, htake, rfl⟩ := Option.map_eq_some_iff.mp ht
      obtain ⟨hnumbered, hact⟩ := h.taken htake
      exact Accounted.of_starts hnumbered hact (moveDone_starts t)

theorem not_orderly (h : Accounted s) (hC : ¬Clean s e)
    (ht : step s e = some s') : ¬s'.Orderly := by
  intro horderly
  cases e with
  | execute choice =>
      obtain rfl := Option.some.inj ht
      obtain ⟨hreq, hact⟩ := Classical.not_imp.mp hC
      rw [execute, if_pos hreq] at horderly
      exact not_orderly_invokeOnThread (s := pushRequest s) hact
        (List.append_ne_nil_of_right_ne_nil _ (List.cons_ne_nil _ _)) horderly
  | abort throws => exact hC trivial
  | worker n throws =>
      obtain ⟨rfl, hreq⟩ := Classical.not_imp.mp hC
      obtain ⟨-, hact, hsame⟩ := h.silent ht
      exact horderly.served (hsame ▸ hreq) hact
  | done n choice => exact hC trivial

/-- Any request can be started, and `Abort` fails if a service does. -/
def Own (s : WorkerGesture Unit) (e : GestureEvent Unit) : Prop :=
  Pops step (!·) (fun _ _ => []) s e

theorem own_of_accounted (h : Accounted s) (e : GestureEvent Unit) :
    Own s e := by
  intro t ht
  cases e with
  | execute choice =>
      obtain rfl := Option.some.inj ht
      exact execute_popped (invokeOnThread_starts () (pushRequest s))
  | abort throws =>
      obtain rfl := Option.some.inj ht
      by_cases hreq : s.requests = []
      · simpa [abort, completedBy, abortedBy, arriving, hreq]
          using Popped.none (s := s) rfl rfl rfl
      · cases throws with
        | true =>
            simpa [abort, completedBy, abortedBy, arriving, hreq]
              using Popped.none (s := s) rfl rfl rfl
        | false =>
            simpa [abort, completedBy, abortedBy, arriving, hreq]
              using popAllRequests_popped s
  | worker n throws =>
      obtain ⟨w, -, rfl⟩ := Option.map_eq_some_iff.mp ht
      exact Popped.none rfl rfl rfl
  | done n choice =>
      obtain ⟨u, htake, rfl⟩ := Option.map_eq_some_iff.mp ht
      exact h.done_popped rfl htake (moveDone_starts u)

theorem orderly_iff (es : List (GestureEvent Unit)) :
    Throughout step Orderly {} es ∧ EachStep step Own {} es ↔
      EachStep step Clean {} es := by
  have hiff : Throughout step Orderly {} es ↔ EachStep step Clean {} es :=
    throughout_iff_eachStep (I := Accounted) (L := fun _ _ => True)
      (fun _ h => h.orderly) (fun _ _ _ h _ hC ht => accounted_step h hC ht)
      (fun _ _ _ h _ hC ht => not_orderly h hC ht) accounted_start
      (eachStep_true _ es)
  refine ⟨fun h => hiff.mp h.1, fun hC => ⟨hiff.mpr hC, ?_⟩⟩
  exact eachStep_of_eachStep (I := Accounted)
    (fun _ _ _ h hC ht => accounted_step h hC ht)
    (fun _ e _ h _ _ => own_of_accounted h e) accounted_start hC

end Move

/-! ## `NaoAnimateGesture` in its runs -/

namespace Animate

/-- A request comes onto the empty queue when nothing is active, or when no
animation fits the posture. -/
def Clean (m_Animations : List AnimationEntry) (s : WorkerGesture String) :
    GestureEvent (ℕ → Choice) → Prop
  | .execute choices => s.requests = [] →
      s.active = [] ∨ fitting m_Animations (choices 0) = []
  | .abort _ => True
  | .worker _ _ => True
  | .done _ _ => True

variable {m_Animations : List AnimationEntry} {s s' : WorkerGesture String}
  {e : GestureEvent (ℕ → Choice)}

/-- Without a fitting animation the request is popped at once. -/
theorem executeAnimation_requests {choices : ℕ → Choice}
    (hfit : fitting m_Animations (choices 0) = [])
    (hrest : s.requests.tail = []) :
    (executeAnimation m_Animations choices s).requests = [] := by
  have hnone : ¬0 < (fitting m_Animations (choices 0)).length := by
    rw [hfit]
    exact Nat.lt_irrefl 0
  rw [executeAnimation, dif_neg hnone, animateDone]
  split
  · exact hrest
  · exact absurd hrest ‹_›

theorem executeAnimation_eq_invokeOnThread {choices : ℕ → Choice}
    (hfit : fitting m_Animations (choices 0) ≠ []) :
    ∃ anim, executeAnimation m_Animations choices s = invokeOnThread anim s := by
  rw [executeAnimation, dif_pos (List.length_pos_iff.mpr hfit)]
  exact ⟨_, rfl⟩

theorem accounted_step (h : Accounted s) (hC : Clean m_Animations s e)
    (ht : step m_Animations s e = some s') : Accounted s' := by
  cases e with
  | execute choices =>
      obtain rfl := Option.some.inj ht
      unfold execute
      split
      · rename_i hreq
        have hstarts := (animate_starts m_Animations choices (pushRequest s)).1
        rcases hC hreq with hact | hfit
        · exact Accounted.of_starts h.toNumbered.push hact hstarts
        · have hempty := executeAnimation_requests (s := pushRequest s) hfit
            (by rw [pushRequest, hreq]; rfl)
          refine ⟨h.toNumbered.push.starts hstarts, ?_⟩
          rw [hstarts.active, hstarts.aborted, hempty]
          have hact := h.active
          rw [hreq] at hact
          simpa [pushRequest, WorkerGesture.active] using hact
      · exact h.push ‹_›
  | abort throws =>
      obtain rfl := Option.some.inj ht
      exact h.abort
  | worker n throws => exact h.reports ht
  | done n choices =>
      obtain ⟨t, htake, rfl⟩ := Option.map_eq_some_iff.mp ht
      obtain ⟨hnumbered, hact⟩ := h.taken htake
      exact Accounted.of_starts hnumbered hact
        (animate_starts m_Animations choices t).2

theorem not_orderly (hC : ¬Clean m_Animations s e)
    (ht : step m_Animations s e = some s') : ¬s'.Orderly := by
  intro horderly
  cases e with
  | execute choices =>
      obtain rfl := Option.some.inj ht
      unfold Clean at hC
      push Not at hC
      obtain ⟨hreq, hact, hfit⟩ := hC
      rw [execute, if_pos hreq] at horderly
      obtain ⟨anim, hanim⟩ :=
        executeAnimation_eq_invokeOnThread (s := pushRequest s) hfit
      rw [hanim] at horderly
      exact not_orderly_invokeOnThread (s := pushRequest s) hact
        (List.append_ne_nil_of_right_ne_nil _ (List.cons_ne_nil _ _)) horderly
  | abort throws => exact hC trivial
  | worker n throws => exact hC trivial
  | done n choices => exact hC trivial

/-- Requests that no animation fits cannot be started, and `Abort` cannot
fail. -/
def Own (m_Animations : List AnimationEntry) (s : WorkerGesture String)
    (e : GestureEvent (ℕ → Choice)) : Prop :=
  Pops (step m_Animations) (fun _ => true) (unfit m_Animations) s e

theorem own_of_accounted (h : Accounted s) (e : GestureEvent (ℕ → Choice)) :
    Own m_Animations s e := by
  intro t ht
  cases e with
  | execute choices =>
      obtain rfl := Option.some.inj ht
      exact execute_popped
        (animate_starts m_Animations choices (pushRequest s)).1
  | abort throws =>
      obtain rfl := Option.some.inj ht
      exact popAllRequests_popped s
  | worker n throws =>
      obtain ⟨w, -, rfl⟩ := Option.map_eq_some_iff.mp ht
      exact Popped.none rfl rfl rfl
  | done n choices =>
      obtain ⟨u, htake, rfl⟩ := Option.map_eq_some_iff.mp ht
      exact h.done_popped rfl htake (animate_starts m_Animations choices u).2

theorem orderly_iff (m_Animations : List AnimationEntry)
    (es : List (GestureEvent (ℕ → Choice))) :
    Throughout (step m_Animations) Orderly {} es ∧
        EachStep (step m_Animations) (Own m_Animations) {} es ↔
      EachStep (step m_Animations) (Clean m_Animations) {} es := by
  have hiff : Throughout (step m_Animations) Orderly {} es ↔
      EachStep (step m_Animations) (Clean m_Animations) {} es :=
    throughout_iff_eachStep (I := Accounted) (L := fun _ _ => True)
      (fun _ h => h.orderly) (fun _ _ _ h _ hC ht => accounted_step h hC ht)
      (fun _ _ _ _ _ hC ht => not_orderly hC ht) accounted_start
      (eachStep_true _ es)
  refine ⟨fun h => hiff.mp h.1, fun hC => ⟨hiff.mpr hC, ?_⟩⟩
  exact eachStep_of_eachStep (I := Accounted)
    (fun _ _ _ h hC ht => accounted_step h hC ht)
    (fun _ e _ h _ _ => own_of_accounted h e) accounted_start hC

end Animate

/-! ## Both -/

/-- Both gestures complete their own requests throughout their clean runs, and
only those, and the recursion of `ExecuteAnimation` and `AnimateDone` ends after
as many calls as there are requests. -/
theorem worker_gestures_iff (m_Animations : List Animate.AnimationEntry) :
    (∀ es, Throughout Move.step Orderly {} es ∧
          EachStep Move.step Move.Own {} es ↔
        EachStep Move.step Move.Clean {} es) ∧
      (∀ es, Throughout (Animate.step m_Animations) Orderly {} es ∧
          EachStep (Animate.step m_Animations) (Animate.Own m_Animations)
            {} es ↔
        EachStep (Animate.step m_Animations) (Animate.Clean m_Animations)
          {} es) ∧
      ∀ choices s,
        (Animate.executeAnimation m_Animations choices s).doneCalls ≤
            s.doneCalls + max s.requests.length 1 ∧
          (Animate.animateDone m_Animations choices s).doneCalls ≤
            s.doneCalls + max s.requests.length 1 :=
  ⟨Move.orderly_iff, Animate.orderly_iff m_Animations,
    Animate.animate_doneCalls⟩

/-- The only request of the Move gesture is aborted while its worker is under
way, and another request is made: two workers are there, and the `MoveDone` of
the first pops the request of the second. -/
theorem not_worker_gestures :
    let es : List (GestureEvent Unit) := [.execute (), .abort false,
      .execute (), .worker 0 false, .done 0 ()]
    ¬Throughout Move.step Orderly {} es ∧
      ¬EachStep Move.step Move.Own {} es := by
  intro es
  constructor
  · intro h
    have hes : es = [.execute (), .abort false, .execute ()] ++
        [.worker 0 false, .done 0 ()] := rfl
    have hrun : (run Move.step {} [.execute (), .abort false, .execute ()]).map
        (fun s => s.active.length) = some 2 := by decide
    obtain ⟨s, hs, htwo⟩ := Option.map_eq_some_iff.mp hrun
    rw [hes] at h
    have hone := (h.of_run hs).1.one
    omega
  · intro h
    have hes : es = [.execute (), .abort false, .execute (), .worker 0 false] ++
        [.done 0 ()] := rfl
    have hrun : (run Move.step {}
        [.execute (), .abort false, .execute (), .worker 0 false]).map
        (fun s => (s.queued, s.aborted, s.completed)) =
        some ([0], [0], [0]) := by decide
    have hall : (run Move.step {} es).map WorkerGesture.completed =
        some [0, 1] := by decide
    obtain ⟨s, hs, hobs⟩ := Option.map_eq_some_iff.mp hrun
    simp only [Prod.mk.injEq] at hobs
    obtain ⟨hqueued, haborted, hbefore⟩ := hobs
    rw [hes] at h
    rw [hes, run_append, hs] at hall
    obtain ⟨t, ht, hcompleted⟩ : ∃ t, Move.step s (.done 0 ()) = some t ∧
        t.completed = [0, 1] := by
      simpa [run_cons, run_nil] using hall
    have hlast := ((h.after hs) t ht).1 t ht
    have hnone : completedBy (!·) (fun _ _ => []) s
        (.done 0 () : GestureEvent Unit) = [] := by
      simp [completedBy, hqueued, haborted]
    have hcalled := hlast.completed
    rw [hnone, hcompleted, hbefore] at hcalled
    exact absurd hcalled (by decide)

end SelfPlugins.Nao
