import Mathlib.Data.List.Nodup
import Mathlib.Data.List.Range
import SelfPlugins.Library.Amortised

/-!
# Serial workers

Requests come in at any time and are queued.  The first one is given to a
thread; when the thread has ended, whether or not by an exception, a call of
`done` takes the request off the queue and starts the thread of the next.  What
a thread does is a parameter, as are other events that act on what it works on.

`Held` is an assertion for every stage of a request, and `held_step` the rule
that proves it from what preparing, entering and each step of the work keep;
`Serving`, the instance without assertions, says that there is one thread at a
time.  `ordered_step` is about the order of the requests, and `drains` bounds
the steps a server takes.  A `Script` is a thread that makes a list of calls;
`Script.throughout` follows it by a sequential program.
-/

namespace SelfPlugins.Serial

open Runs

variable {ρ κ ω α β : Type*}

/-- How a step of the work comes out. -/
inductive Outcome (κ : Type*)
  | goesOn (k : κ)
  | finished
  | throws

/-- Which request is marked when its thread throws: none, the one the thread was
started for, or the one in front. -/
inductive Mark
  | none
  | own
  | front
deriving DecidableEq

/-- The work on a request of type `ρ`: what is done to the world `ω` before its
thread is started, when the thread is entered, and in each step of the thread,
which is at a place of type `κ`.  A blocked thread, which waits for a lock,
takes no step.  Other events may act on the world. -/
structure Work (ρ κ ω α β : Type*) where
  mark : Mark
  prepare : ρ → ω → ω
  enter : ρ → ω → κ × ω
  next : α → κ → ω → Outcome κ × ω
  other : β → ω → Option ω
  blocked : Option κ → ω → Bool := fun _ _ => false

/-- A request in the queue, with the number of requests before it. -/
structure Entry (ρ : Type*) where
  number : ℕ
  request : ρ
  error : Bool := false

/-- A thread, which is in the pool until it is somewhere. -/
structure Thread (ρ κ : Type*) where
  number : ℕ
  request : ρ
  place : Option κ := none

/-- The state of a server.  `dones` are the requests of the calls of `done` that
are queued, `thrown` those whose threads have thrown. -/
structure Server (ρ κ ω : Type*) where
  world : ω
  requests : List (Entry ρ) := []
  threads : List (Thread ρ κ) := []
  dones : List ℕ := []
  executed : List ρ := []
  completed : List (Entry ρ) := []
  thrown : List ℕ := []

inductive Event (ρ α β : Type*)
  | execute (r : ρ)
  | thread (n : ℕ) (a : α)
  | done (n : ℕ)
  | other (b : β)

namespace Server

/-- The first request of the queue is prepared and given to a thread. -/
def start (W : Work ρ κ ω α β) (s : Server ρ κ ω) : Server ρ κ ω :=
  match s.requests with
  | [] => s
  | e :: _ =>
      { s with
        world := W.prepare e.request s.world
        threads := s.threads ++ [⟨e.number, e.request, none⟩] }

def push (r : ρ) (s : Server ρ κ ω) : Server ρ κ ω :=
  { s with
    requests := s.requests ++ [⟨s.executed.length, r, false⟩]
    executed := s.executed ++ [r] }

def pop (s : Server ρ κ ω) : Server ρ κ ω :=
  { s with
    requests := s.requests.tail
    completed := s.completed ++ s.requests.head?.toList }

/-- The request is to be reported as failed. -/
def markError (m : Mark) (number : ℕ) (es : List (Entry ρ)) :
    List (Entry ρ) :=
  match m with
  | .none => es
  | .own => es.map fun e =>
      if e.number = number then { e with error := true } else e
  | .front => es.modifyHead fun e => { e with error := true }

/-- The `n`-th thread, which works on a request, has ended. -/
def endThread (n number : ℕ) (s : Server ρ κ ω) : Server ρ κ ω :=
  { s with
    threads := s.threads.eraseIdx n
    dones := s.dones ++ [number] }

/-- The `n`-th thread takes a step. -/
def advance (W : Work ρ κ ω α β) (n : ℕ) (a : α) (t : Thread ρ κ)
    (s : Server ρ κ ω) : Server ρ κ ω :=
  match t.place with
  | none =>
      let entered := W.enter t.request s.world
      { s with
        world := entered.2
        threads := s.threads.set n { t with place := some entered.1 } }
  | some k =>
      match W.next a k s.world with
      | (.goesOn k', w) =>
          { s with
            world := w
            threads := s.threads.set n { t with place := some k' } }
      | (.finished, w) => endThread n t.number { s with world := w }
      | (.throws, w) =>
          endThread n t.number
            { s with
              world := w
              requests := markError W.mark t.number s.requests
              thrown := s.thrown ++ [t.number] }

def step (W : Work ρ κ ω α β) (s : Server ρ κ ω) :
    Event ρ α β → Option (Server ρ κ ω)
  | .execute r =>
      some (if s.requests.isEmpty then start W (push r s) else push r s)
  | .thread n a =>
      (s.threads[n]?).bind fun t =>
        if W.blocked t.place s.world then none else some (advance W n a t s)
  | .done n =>
      (s.dones[n]?).map fun _ =>
        start W (pop { s with dones := s.dones.eraseIdx n })
  | .other b => (W.other b s.world).map fun w => { s with world := w }

end Server

open Serial.Server

/-! ## Assertions -/

/-- Assertions about the world: when no thread is at work, when the thread of a
request is in the pool, and when it is somewhere.  They may speak of the
requests served before. -/
structure Assertions (ρ κ ω : Type*) where
  idle : List ρ → ω → Prop
  pool : List ρ → ρ → ω → Prop
  inside : List ρ → ρ → κ → ω → Prop

/-- What the work has to keep. -/
structure Keeps (W : Work ρ κ ω α β) (A : Assertions ρ κ ω) : Prop where
  prepare : ∀ {rs r w}, A.idle rs w → A.pool rs r (W.prepare r w)
  enter : ∀ {rs r w}, A.pool rs r w → W.blocked none w = false →
    A.inside rs r (W.enter r w).1 (W.enter r w).2
  goesOn : ∀ {rs r a k k' w w'}, A.inside rs r k w →
    W.next a k w = (.goesOn k', w') → A.inside rs r k' w'
  finished : ∀ {rs r a k w w'}, A.inside rs r k w →
    W.next a k w = (.finished, w') → A.idle (rs ++ [r]) w'
  throws : ∀ {rs r a k w w'}, A.inside rs r k w →
    W.next a k w = (.throws, w') → A.idle (rs ++ [r]) w'
  other_idle : ∀ {rs b w w'}, A.idle rs w → W.other b w = some w' →
    A.idle rs w'
  other_pool : ∀ {rs r b w w'}, A.pool rs r w → W.other b w = some w' →
    A.pool rs r w'
  other_inside : ∀ {rs r k b w w'}, A.inside rs r k w →
    W.other b w = some w' → A.inside rs r k w'

variable {W : Work ρ κ ω α β} {A : Assertions ρ κ ω} {s t : Server ρ κ ω}
  {ev : Event ρ α β} {e : Entry ρ} {rest : List (Entry ρ)}

/-- A step of a thread is taken by one that is not blocked. -/
theorem step_thread {n : ℕ} {a : α} (ht : step W s (.thread n a) = some t) :
    ∃ th, s.threads[n]? = some th ∧ W.blocked th.place s.world = false ∧
      advance W n a th s = t := by
  obtain ⟨th, hth, ht⟩ := Option.bind_eq_some_iff.mp ht
  split at ht
  · cases ht
  · rename_i hblocked
    exact ⟨th, hth, Bool.eq_false_iff.mpr hblocked, Option.some.inj ht⟩

def Server.served (s : Server ρ κ ω) : List ρ :=
  s.completed.map Entry.request

/-- What the assertions say about the stage the first request is in. -/
inductive Stage (A : Assertions ρ κ ω) (s : Server ρ κ ω) (e : Entry ρ) :
    Prop
  | pool (hthreads : s.threads = [⟨e.number, e.request, none⟩])
      (hdones : s.dones = []) (h : A.pool s.served e.request s.world)
  | inside (k : κ) (hthreads : s.threads = [⟨e.number, e.request, some k⟩])
      (hdones : s.dones = []) (h : A.inside s.served e.request k s.world)
  | ended (hthreads : s.threads = []) (hdones : s.dones = [e.number])
      (h : A.idle (s.served ++ [e.request]) s.world)

/-- The assertions hold, and there is one thread or queued call of `done` at
most, which is there for the first request. -/
inductive Held (A : Assertions ρ κ ω) (s : Server ρ κ ω) : Prop
  | resting (hrequests : s.requests = []) (hthreads : s.threads = [])
      (hdones : s.dones = []) (h : A.idle s.served s.world)
  | busy (e : Entry ρ) (rest : List (Entry ρ))
      (hrequests : s.requests = e :: rest) (h : Stage A s e)

/-- What a request is, apart from its mark. -/
def Entry.key (e : Entry ρ) : ℕ × ρ := (e.number, e.request)

@[simp] theorem markError_keys (m : Mark) (n : ℕ) (es : List (Entry ρ)) :
    (markError m n es).map Entry.key = es.map Entry.key := by
  cases m with
  | none => rfl
  | own =>
      rw [markError, List.map_map]
      refine List.map_congr_left fun e _ => ?_
      simp only [Function.comp_apply]
      split <;> rfl
  | front =>
      cases es with
      | nil => rfl
      | cons e es => rfl

/-- Marking leaves the request in front where it is. -/
theorem markError_cons (m : Mark) (n : ℕ) (e : Entry ρ)
    (rest : List (Entry ρ)) :
    ∃ e' rest', markError m n (e :: rest) = e' :: rest' ∧
      e'.number = e.number ∧ e'.request = e.request := by
  have hkeys := markError_keys m n (e :: rest)
  cases hmark : markError m n (e :: rest) with
  | nil =>
      rw [hmark] at hkeys
      cases hkeys
  | cons e' rest' =>
      rw [hmark, List.map_cons, List.map_cons] at hkeys
      have hkey := (List.cons.inj hkeys).1
      exact ⟨e', rest', rfl, congrArg Prod.fst hkey, congrArg Prod.snd hkey⟩

/-! ## The rule -/

theorem start_cons (hrequests : s.requests = e :: rest) :
    start W s =
      { s with
        world := W.prepare e.request s.world
        threads := s.threads ++ [⟨e.number, e.request, none⟩] } := by
  rw [start, hrequests]

/-- The request in front is started when nothing is at work. -/
theorem held_start (hW : Keeps W A) (hrequests : s.requests = e :: rest)
    (hthreads : s.threads = []) (hdones : s.dones = [])
    (h : A.idle s.served s.world) : Held A (start W s) := by
  rw [start_cons hrequests]
  refine .busy e rest hrequests (.pool ?_ hdones (hW.prepare h))
  change s.threads ++ _ = _
  rw [hthreads, List.nil_append]

theorem Held.execute (hW : Keeps W A) (h : Held A s) (r : ρ) :
    Held A (if s.requests.isEmpty then start W (push r s) else push r s) := by
  cases h with
  | resting hrequests hthreads hdones h =>
      rw [hrequests, List.isEmpty_nil, if_pos rfl]
      have hpush : (push r s).requests =
          ⟨s.executed.length, r, false⟩ :: [] := by
        rw [push, hrequests, List.nil_append]
      exact held_start hW hpush hthreads hdones h
  | busy e rest hrequests h =>
      rw [hrequests, List.isEmpty_cons, if_neg Bool.false_ne_true]
      refine .busy e (rest ++ [⟨s.executed.length, r, false⟩]) ?_ ?_
      · rw [push, hrequests, List.cons_append]
      · cases h with
        | pool hthreads hdones h => exact .pool hthreads hdones h
        | inside k hthreads hdones h => exact .inside k hthreads hdones h
        | ended hthreads hdones h => exact .ended hthreads hdones h

/-- A step of the thread of the first request. -/
theorem held_advance (hW : Keeps W A) (hrequests : s.requests = e :: rest)
    {place : Option κ} (hthreads : s.threads = [⟨e.number, e.request, place⟩])
    (hdones : s.dones = [])
    (h : match place with
      | none => A.pool s.served e.request s.world
      | some k => A.inside s.served e.request k s.world)
    (hblocked : W.blocked place s.world = false) (a : α) :
    Held A (advance W 0 a ⟨e.number, e.request, place⟩ s) := by
  cases place with
  | none =>
      refine .busy e rest hrequests (.inside _ ?_ hdones (hW.enter h hblocked))
      change s.threads.set 0 _ = _
      rw [hthreads, List.set_cons_zero]
  | some k =>
      cases hnext : W.next a k s.world with
      | mk outcome w =>
          cases outcome with
          | goesOn k' =>
              simp only [advance, hnext]
              refine .busy e rest hrequests
                (.inside k' ?_ hdones (hW.goesOn h hnext))
              change s.threads.set 0 _ = _
              rw [hthreads, List.set_cons_zero]
          | finished =>
              simp only [advance, hnext]
              refine .busy e rest hrequests
                (.ended ?_ ?_ (hW.finished h hnext))
              · change s.threads.eraseIdx 0 = []
                rw [hthreads, List.eraseIdx_cons_zero]
              · change s.dones ++ [e.number] = [e.number]
                rw [hdones, List.nil_append]
          | throws =>
              simp only [advance, hnext]
              obtain ⟨e', rest', hmark, hnumber, hrequest⟩ :=
                markError_cons W.mark e.number e rest
              refine .busy e' rest' ?_ (.ended ?_ ?_ ?_)
              · change markError W.mark e.number s.requests = _
                rw [hrequests, hmark]
              · change s.threads.eraseIdx 0 = []
                rw [hthreads, List.eraseIdx_cons_zero]
              · change s.dones ++ [e.number] = [e'.number]
                rw [hdones, List.nil_append, hnumber]
              · rw [hrequest]
                exact hW.throws h hnext

/-- The request in front is taken off the queue, and the next is started. -/
theorem held_done (hW : Keeps W A) (hrequests : s.requests = e :: rest)
    (hthreads : s.threads = []) (hdones : s.dones = [e.number])
    (h : A.idle (s.served ++ [e.request]) s.world) :
    Held A (start W (pop { s with dones := s.dones.eraseIdx 0 })) := by
  have hserved : (pop { s with dones := s.dones.eraseIdx 0 }).served =
      s.served ++ [e.request] := by
    simp [pop, served, hrequests]
  have hempty : (pop { s with dones := s.dones.eraseIdx 0 }).dones = [] := by
    change s.dones.eraseIdx 0 = []
    rw [hdones, List.eraseIdx_cons_zero]
  have hrest : (pop { s with dones := s.dones.eraseIdx 0 }).requests =
      rest := by
    change s.requests.tail = rest
    rw [hrequests, List.tail_cons]
  rw [← hserved] at h
  cases rest with
  | nil =>
      rw [start, hrest]
      exact .resting hrest hthreads hempty h
  | cons e' rest => exact held_start hW hrest hthreads hempty h

/-- Every event keeps the assertions. -/
theorem held_step (hW : Keeps W A) (h : Held A s)
    (ht : step W s ev = some t) : Held A t := by
  cases ev with
  | execute r =>
      obtain rfl := Option.some.inj ht
      exact h.execute hW r
  | other b =>
      obtain ⟨w, hw, rfl⟩ := Option.map_eq_some_iff.mp ht
      cases h with
      | resting hrequests hthreads hdones h =>
          exact .resting hrequests hthreads hdones (hW.other_idle h hw)
      | busy e rest hrequests h =>
          refine .busy e rest hrequests ?_
          cases h with
          | pool hthreads hdones h =>
              exact .pool hthreads hdones (hW.other_pool h hw)
          | inside k hthreads hdones h =>
              exact .inside k hthreads hdones (hW.other_inside h hw)
          | ended hthreads hdones h =>
              exact .ended hthreads hdones (hW.other_idle h hw)
  | thread n a =>
      obtain ⟨th, hth, hblocked, rfl⟩ := step_thread ht
      have hsole : ∀ {th'}, s.threads = [th'] → n = 0 ∧ th = th' := by
        intro th' hthreads
        rw [hthreads] at hth
        obtain ⟨hlt, rfl⟩ := List.getElem?_eq_some_iff.mp hth
        obtain rfl : n = 0 := Nat.lt_one_iff.mp hlt
        exact ⟨rfl, rfl⟩
      cases h with
      | resting hrequests hthreads =>
          rw [hthreads] at hth
          cases hth
      | busy e rest hrequests h =>
          cases h with
          | pool hthreads hdones h =>
              obtain ⟨rfl, rfl⟩ := hsole hthreads
              exact held_advance hW hrequests hthreads hdones h hblocked a
          | inside k hthreads hdones h =>
              obtain ⟨rfl, rfl⟩ := hsole hthreads
              exact held_advance hW hrequests hthreads hdones h hblocked a
          | ended hthreads =>
              rw [hthreads] at hth
              cases hth
  | done n =>
      obtain ⟨number, hnumber, rfl⟩ := Option.map_eq_some_iff.mp ht
      cases h with
      | resting hrequests hthreads hdones h =>
          rw [hdones] at hnumber
          cases hnumber
      | busy e rest hrequests h =>
          cases h with
          | pool hthreads hdones h =>
              rw [hdones] at hnumber
              cases hnumber
          | inside k hthreads hdones h =>
              rw [hdones] at hnumber
              cases hnumber
          | ended hthreads hdones h =>
              have hlt := (List.getElem?_eq_some_iff.mp hnumber).1
              rw [hdones] at hlt
              obtain rfl : n = 0 := Nat.lt_one_iff.mp hlt
              exact held_done hW hrequests hthreads hdones h

/-! ## One at a time -/

/-- There is one thread or queued call of `done` at most, which is there for the
first request, and none without a request. -/
def Serving (s : Server ρ κ ω) : Prop :=
  Held (⟨fun _ _ => True, fun _ _ _ => True, fun _ _ _ _ => True⟩ :
    Assertions ρ κ ω) s

theorem keeps_true : Keeps W
    (⟨fun _ _ => True, fun _ _ _ => True, fun _ _ _ _ => True⟩ :
      Assertions ρ κ ω) := by
  constructor <;> intros <;> trivial

theorem Serving.step (h : Serving s) (ht : step W s ev = some t) :
    Serving t :=
  held_step keeps_true h ht

theorem serving_new (w : ω) : Serving ({ world := w } : Server ρ κ ω) :=
  .resting rfl rfl rfl trivial

/-- A thread that takes a step is the only one. -/
theorem Serving.thread (h : Serving s) {n : ℕ} {th : Thread ρ κ}
    (hth : s.threads[n]? = some th) :
    n = 0 ∧ s.threads = [th] ∧ s.dones = [] ∧
      ∃ e rest, s.requests = e :: rest ∧ th.number = e.number := by
  have hsole : ∀ {th'}, s.threads = [th'] → n = 0 ∧ th = th' := by
    intro th' hthreads
    rw [hthreads] at hth
    obtain ⟨hlt, rfl⟩ := List.getElem?_eq_some_iff.mp hth
    obtain rfl : n = 0 := Nat.lt_one_iff.mp hlt
    exact ⟨rfl, rfl⟩
  cases h with
  | resting _ hthreads => simp [hthreads] at hth
  | busy e rest hrequests h =>
      cases h with
      | pool hthreads hdones =>
          obtain ⟨rfl, rfl⟩ := hsole hthreads
          exact ⟨rfl, hthreads, hdones, e, rest, hrequests, rfl⟩
      | inside k hthreads hdones =>
          obtain ⟨rfl, rfl⟩ := hsole hthreads
          exact ⟨rfl, hthreads, hdones, e, rest, hrequests, rfl⟩
      | ended hthreads => simp [hthreads] at hth

/-- A call of `done` is made when no thread is left. -/
theorem Serving.done (h : Serving s) {n number : ℕ}
    (hnumber : s.dones[n]? = some number) :
    n = 0 ∧ s.threads = [] ∧ s.dones = [number] ∧
      ∃ e rest, s.requests = e :: rest := by
  cases h with
  | resting _ _ hdones => simp [hdones] at hnumber
  | busy e rest hrequests h =>
      cases h with
      | pool _ hdones => simp [hdones] at hnumber
      | inside k _ hdones => simp [hdones] at hnumber
      | ended hthreads hdones =>
          rw [hdones] at hnumber
          obtain ⟨hlt, rfl⟩ := List.getElem?_eq_some_iff.mp hnumber
          obtain rfl : n = 0 := Nat.lt_one_iff.mp hlt
          exact ⟨rfl, hthreads, hdones, e, rest, hrequests⟩

/-- A server that has a request can take a step, unless its thread is
blocked. -/
theorem Serving.progress (h : Serving s) (hrequests : s.requests ≠ [])
    (hfree : ∀ place, W.blocked place s.world = false) (a : α) :
    (Server.step W s (.thread 0 a)).isSome = true ∨
      (Server.step W s (.done 0)).isSome = true := by
  cases h with
  | resting hnil => exact absurd hnil hrequests
  | busy e rest _ h =>
      cases h with
      | pool hthreads =>
          exact Or.inl (by simp [Server.step, hthreads, hfree])
      | inside k hthreads =>
          exact Or.inl (by simp [Server.step, hthreads, hfree])
      | ended _ hdones => exact Or.inr (by simp [Server.step, hdones])

/-! ## The order of the requests -/

/-- The requests are completed in the order in which they came, and those are
marked whose threads have thrown, if the server marks any. -/
structure Ordered (W : Work ρ κ ω α β) (s : Server ρ κ ω) : Prop where
  numbers : (s.completed ++ s.requests).map Entry.number =
    List.range s.executed.length
  requests : (s.completed ++ s.requests).map Entry.request = s.executed
  thrown : ∀ n ∈ s.thrown, n < s.executed.length
  errors : ∀ e ∈ s.completed ++ s.requests,
    e.error = true ↔ W.mark ≠ .none ∧ e.number ∈ s.thrown

theorem ordered_new (w : ω) :
    Ordered W ({ world := w } : Server ρ κ ω) where
  numbers := rfl
  requests := rfl
  thrown := nofun
  errors := nofun

/-- The world and the threads do not matter. -/
theorem Ordered.congr (h : Ordered W s) (hrequests : t.requests = s.requests)
    (hcompleted : t.completed = s.completed)
    (hexecuted : t.executed = s.executed) (hthrown : t.thrown = s.thrown) :
    Ordered W t where
  numbers := by rw [hrequests, hcompleted, hexecuted]; exact h.numbers
  requests := by rw [hrequests, hcompleted, hexecuted]; exact h.requests
  thrown := by rw [hthrown, hexecuted]; exact h.thrown
  errors := by rw [hrequests, hcompleted, hthrown]; exact h.errors

theorem Ordered.start (h : Ordered W s) : Ordered W (start W s) := by
  unfold Server.start
  split
  · exact h
  · exact h.congr rfl rfl rfl rfl

theorem Ordered.push (h : Ordered W s) (r : ρ) : Ordered W (push r s) where
  numbers := by
    change (s.completed ++ (s.requests ++ [_])).map _ =
      List.range (s.executed ++ [r]).length
    rw [← List.append_assoc, List.map_append, h.numbers, List.length_append,
      List.length_singleton, List.range_succ]
    rfl
  requests := by
    change (s.completed ++ (s.requests ++ [_])).map _ = s.executed ++ [r]
    rw [← List.append_assoc, List.map_append, h.requests]
    rfl
  thrown := by
    intro n hn
    have hlt := h.thrown n hn
    change n < (s.executed ++ [r]).length
    rw [List.length_append, List.length_singleton]
    omega
  errors := by
    intro e he
    change e ∈ s.completed ++ (s.requests ++ [_]) at he
    rw [← List.append_assoc, List.mem_append, List.mem_singleton] at he
    rcases he with he | rfl
    · exact h.errors e he
    · refine ⟨nofun, fun hmark => ?_⟩
      exact absurd (h.thrown _ hmark.2) (Nat.lt_irrefl _)

theorem Ordered.pop (h : Ordered W s) : Ordered W (pop s) := by
  have hsame : (Server.pop s).completed ++ (Server.pop s).requests =
      s.completed ++ s.requests := by
    change s.completed ++ s.requests.head?.toList ++ s.requests.tail = _
    rw [List.append_assoc]
    cases s.requests with
    | nil => rfl
    | cons e rest => rfl
  constructor
  · rw [hsame]
    exact h.numbers
  · rw [hsame]
    exact h.requests
  · exact h.thrown
  · rw [hsame]
    exact h.errors

/-- Marking the request in front, which is the one the thread was started for,
marks no other. -/
theorem markError_front {m : Mark} (hm : m ≠ .none)
    (hrest : ∀ x ∈ rest, x.number ≠ e.number) :
    markError m e.number (e :: rest) = { e with error := true } :: rest := by
  cases m with
  | none => exact absurd rfl hm
  | own =>
      rw [markError, List.map_cons, if_pos rfl]
      congr 1
      refine (List.map_congr_left fun x hx => ?_).trans (List.map_id rest)
      rw [if_neg (hrest x hx), id]
  | front => rfl

theorem Ordered.throws (h : Ordered W s) (hrequests : s.requests = e :: rest)
    (ht : t.requests = markError W.mark e.number s.requests)
    (hcompleted : t.completed = s.completed)
    (hexecuted : t.executed = s.executed)
    (hthrown : t.thrown = s.thrown ++ [e.number]) : Ordered W t := by
  have hkeys : (t.completed ++ t.requests).map Entry.key =
      (s.completed ++ s.requests).map Entry.key := by
    rw [ht, hcompleted, List.map_append, List.map_append, markError_keys]
  have hnumbers : (t.completed ++ t.requests).map Entry.number =
      (s.completed ++ s.requests).map Entry.number := by
    have := congrArg (List.map Prod.fst) hkeys
    rwa [List.map_map, List.map_map] at this
  have hreqs : (t.completed ++ t.requests).map Entry.request =
      (s.completed ++ s.requests).map Entry.request := by
    have := congrArg (List.map Prod.snd) hkeys
    rwa [List.map_map, List.map_map] at this
  have hnodup : ((s.completed ++ e :: rest).map Entry.number).Nodup := by
    rw [← hrequests, h.numbers]
    exact List.nodup_range
  have hmem : e ∈ s.completed ++ s.requests := by
    rw [hrequests]
    exact List.mem_append_right _ List.mem_cons_self
  have hothers : ∀ x ∈ s.completed ++ rest, x.number ≠ e.number := by
    intro x hx heq
    rw [List.map_append, List.map_cons, List.nodup_middle,
      List.nodup_cons, ← List.map_append] at hnodup
    exact hnodup.1 (heq ▸ List.mem_map_of_mem hx)
  refine ⟨?_, ?_, ?_, ?_⟩
  · rw [hnumbers, hexecuted]
    exact h.numbers
  · rw [hreqs, hexecuted]
    exact h.requests
  · intro n hn
    rw [hexecuted]
    rw [hthrown, List.mem_append, List.mem_singleton] at hn
    rcases hn with hn | rfl
    · exact h.thrown n hn
    · have hrange := List.mem_map_of_mem (f := Entry.number) hmem
      rw [h.numbers] at hrange
      exact List.mem_range.mp hrange
  · intro x hx
    rw [hthrown]
    by_cases hmark : W.mark = .none
    · have hsame : t.requests = s.requests := by rw [ht, hmark]; rfl
      rw [hcompleted, hsame] at hx
      have := h.errors x hx
      simp [hmark] at this ⊢
      exact this
    · rw [ht, hcompleted, hrequests, markError_front hmark
        fun x hx => hothers x (List.mem_append_right _ hx),
        List.mem_append, List.mem_cons] at hx
      have hother : x ∈ s.completed ++ rest →
          (x.error = true ↔
            W.mark ≠ .none ∧ x.number ∈ s.thrown ++ [e.number]) := by
        intro hx
        have hmem' : x ∈ s.completed ++ s.requests := by
          rw [hrequests]
          rcases List.mem_append.mp hx with hx | hx
          · exact List.mem_append_left _ hx
          · exact List.mem_append_right _ (List.mem_cons_of_mem _ hx)
        rw [h.errors x hmem', List.mem_append, List.mem_singleton]
        simp [hothers x hx]
      rcases hx with hx | rfl | hx
      · exact hother (List.mem_append_left _ hx)
      · simp [hmark]
      · exact hother (List.mem_append_right _ hx)

theorem ordered_step (hserving : Serving s) (h : Ordered W s)
    (ht : step W s ev = some t) : Ordered W t := by
  cases ev with
  | execute r =>
      obtain rfl := Option.some.inj ht
      split
      · exact (h.push r).start
      · exact h.push r
  | other b =>
      obtain ⟨w, -, rfl⟩ := Option.map_eq_some_iff.mp ht
      exact h.congr rfl rfl rfl rfl
  | done n =>
      obtain ⟨-, -, rfl⟩ := Option.map_eq_some_iff.mp ht
      exact (h.congr (t := { s with dones := s.dones.eraseIdx n })
        rfl rfl rfl rfl).pop.start
  | thread n a =>
      obtain ⟨th, hth, -, rfl⟩ := step_thread ht
      unfold advance
      split
      · exact h.congr rfl rfl rfl rfl
      · rename_i k hplace
        split
        · exact h.congr rfl rfl rfl rfl
        · exact h.congr rfl rfl rfl rfl
        · obtain ⟨-, -, -, e, rest, hrequests, hnumber⟩ := hserving.thread hth
          rw [hnumber]
          exact h.throws hrequests rfl rfl rfl rfl

/-- Whatever the requests and their work, one is served at a time, and in the
order in which they came. -/
theorem ordered_throughout (W : Work ρ κ ω α β) (w : ω)
    (evs : List (Event ρ α β)) :
    Throughout (step W) (fun s => Serving s ∧ Ordered W s) { world := w }
      evs :=
  throughout_of_eachStep (C := fun _ _ => True)
    (fun _ _ _ hs _ ht => ⟨hs.1.step ht, ordered_step hs.1 hs.2 ht⟩)
    ⟨serving_new w, ordered_new w⟩ (eachStep_true _ evs)

/-! ## Draining the queue -/

/-- The steps a thread has to take are counted by `m`, and are `B` at most when
it is entered. -/
structure Bounded (W : Work ρ κ ω α β) (m : κ → ℕ) (B : ℕ) : Prop where
  enter : ∀ r w, m (W.enter r w).1 ≤ B
  goesOn : ∀ {a k k' w w'}, W.next a k w = (.goesOn k', w') → m k' + 1 ≤ m k
  pos : ∀ k, 1 ≤ m k

def Event.isExecute : Event ρ α β → Bool
  | .execute _ => true
  | _ => false

/-- A step of the server itself. -/
def Event.isWork : Event ρ α β → Bool
  | .thread _ _ => true
  | .done _ => true
  | _ => false

/-- The steps that are left for a thread and its call of `done`. -/
def Thread.left (m : κ → ℕ) (B : ℕ) (t : Thread ρ κ) : ℕ :=
  match t.place with
  | none => B + 2
  | some k => m k + 1

def Server.left (m : κ → ℕ) (B : ℕ) (s : Server ρ κ ω) : ℕ :=
  (s.requests.length - 1) * (B + 2) +
    (match s.threads with
    | [] => 0
    | t :: _ => t.left m B) + s.dones.length

variable {m : κ → ℕ} {B : ℕ}

theorem left_start (hrequests : s.requests = e :: rest)
    (hthreads : s.threads = []) (hdones : s.dones = []) :
    (start W s).left m B = (rest.length + 1) * (B + 2) := by
  rw [start_cons hrequests]
  simp only [Server.left, hrequests, hthreads, hdones, List.nil_append,
    List.length_cons, Nat.add_sub_cancel, List.length_nil, Nat.add_zero,
    Thread.left, Nat.succ_mul]

/-- A step of the thread leaves one step less. -/
theorem left_advance (hW : Bounded W m B) (a : α) {th : Thread ρ κ}
    (hthreads : s.threads = [th]) (hdones : s.dones = []) :
    (advance W 0 a th s).left m B + 1 ≤ s.left m B := by
  obtain ⟨number, request, place⟩ := th
  cases place with
  | none =>
      have hle := hW.enter request s.world
      simp only [advance, Server.left, Thread.left, hthreads, hdones,
        List.set_cons_zero, List.length_nil]
      omega
  | some k =>
      have hpos := hW.pos k
      cases hnext : W.next a k s.world with
      | mk outcome w =>
          cases outcome with
          | goesOn k' =>
              have hless := hW.goesOn hnext
              simp only [advance, hnext, Server.left, Thread.left, hthreads,
                hdones, List.set_cons_zero, List.length_nil]
              omega
          | finished =>
              simp only [advance, hnext, endThread, Server.left, Thread.left,
                hthreads, hdones, List.eraseIdx_cons_zero, List.nil_append,
                List.length_cons, List.length_nil]
              omega
          | throws =>
              have hlength := congrArg List.length
                (markError_keys W.mark number s.requests)
              rw [List.length_map, List.length_map] at hlength
              simp only [advance, hnext, endThread, Server.left, Thread.left,
                hthreads, hdones, List.eraseIdx_cons_zero, List.nil_append,
                List.length_cons, List.length_nil, hlength]
              omega

theorem left_step (hW : Bounded W m B) (h : Serving s)
    (ht : step W s ev = some t) :
    t.left m B + ev.isWork.toNat ≤
      s.left m B + (B + 2) * ev.isExecute.toNat := by
  cases ev with
  | execute r =>
      obtain rfl := Option.some.inj ht
      cases h with
      | resting hrequests hthreads hdones =>
          have hpush : (push r s).requests =
              ⟨s.executed.length, r, false⟩ :: [] := by
            rw [push, hrequests, List.nil_append]
          rw [hrequests, List.isEmpty_nil, if_pos rfl,
            left_start hpush hthreads hdones]
          simp [Event.isWork, Event.isExecute]
      | busy e rest hrequests =>
          rw [hrequests, List.isEmpty_cons, if_neg Bool.false_ne_true]
          simp only [Server.left, push, hrequests, List.cons_append,
            List.length_cons, List.length_append, List.length_nil,
            Event.isWork, Event.isExecute, Bool.toNat_false, Bool.toNat_true,
            Nat.add_sub_cancel, Nat.zero_add, Nat.add_zero, Nat.succ_mul,
            Nat.mul_one]
          omega
  | other b =>
      obtain ⟨w, -, rfl⟩ := Option.map_eq_some_iff.mp ht
      exact Nat.le_refl _
  | thread n a =>
      obtain ⟨th, hth, -, rfl⟩ := step_thread ht
      obtain ⟨rfl, hthreads, hdones, e, rest, hrequests, -⟩ := h.thread hth
      exact left_advance hW a hthreads hdones
  | done n =>
      obtain ⟨number, hnumber, rfl⟩ := Option.map_eq_some_iff.mp ht
      obtain ⟨rfl, hthreads, hdones, e, rest, hrequests⟩ := h.done hnumber
      have hempty :
          (pop { s with dones := s.dones.eraseIdx 0 }).dones = [] := by
        change s.dones.eraseIdx 0 = []
        rw [hdones, List.eraseIdx_cons_zero]
      have hrest : (pop { s with dones := s.dones.eraseIdx 0 }).requests =
          rest := by
        change s.requests.tail = rest
        rw [hrequests, List.tail_cons]
      have hleft : s.left m B = rest.length * (B + 2) + 1 := by
        simp [Server.left, hrequests, hthreads, hdones]
      rw [hleft]
      cases rest with
      | nil =>
          rw [Server.start, hrest]
          simp [Server.left, pop, hrequests, hthreads, hdones, Event.isWork]
      | cons e' rest =>
          rw [left_start hrest hthreads hempty]
          exact Nat.le_add_right _ _

/-- A server whose work is bounded takes a bounded number of steps for each
request. -/
theorem drains (hW : Bounded W m B) {w : ω} {evs : List (Event ρ α β)}
    (hrun : run (step W) { world := w } evs = some t) :
    evs.countP Event.isWork ≤ (B + 2) * evs.countP Event.isExecute := by
  have hkeep : ∀ (s : Server ρ κ ω) (ev : Event ρ α β) (t : Server ρ κ ω),
      Serving s → step W s ev = some t → Serving t :=
    fun s ev t hs ht => hs.step ht
  have hleft := amortised (f := fun s => s.left m B)
    (g := fun ev => ev.isWork.toNat) hkeep
    (fun s ev t hs ht => left_step hW hs ht) (serving_new w) hrun
  rw [total_toNat, total_mul, total_toNat] at hleft
  have hnew : Server.left m B ({ world := w } : Server ρ κ ω) = 0 := by
    simp [Server.left]
  rw [hnew] at hleft
  omega

/-! ## Scripts -/

/-- The members of a server and the calls its threads have made, each with
whether it has failed. -/
structure Logged (μ γ : Type*) where
  members : μ
  calls : List (γ × Bool) := []

/-- What comes of the failure of a call: it has none, the thread takes no notice
of it, or it is an exception. -/
inductive Failure
  | none
  | ignored
  | thrown
deriving DecidableEq

/-- A thread that makes a list of calls, which it draws up when it is entered
and which a call that throws cuts short. -/
structure Script (ρ μ γ : Type*) where
  mark : Mark
  prepare : ρ → μ → μ
  script : ρ → μ → List γ × μ
  failure : γ → Failure

variable {μ γ : Type*}

/-- How a call that fails or not comes out, and what is left to do then. -/
def Script.outcome (S : Script ρ μ γ) (c : γ) (cs : List γ) :
    Bool → Outcome (List γ)
  | false => .goesOn cs
  | true => if S.failure c = .thrown then .throws else .goesOn cs

/-- The work of a script; the input of a step says whether its call fails. -/
def Script.work (S : Script ρ μ γ) :
    Work ρ (List γ) (Logged μ γ) Bool Empty where
  mark := S.mark
  prepare r w := { w with members := S.prepare r w.members }
  enter r w :=
    let scripted := S.script r w.members
    (scripted.1, { w with members := scripted.2 })
  next fails k w :=
    match k with
    | [] => (.finished, w)
    | c :: cs =>
        let failed := fails && S.failure c != .none
        (S.outcome c cs failed, { w with calls := w.calls ++ [(c, failed)] })
  other b _ := b.elim

/-- The calls `cs`, with failures that are ignored only. -/
structure Passed (S : Script ρ μ γ) (cs : List γ) (block : List (γ × Bool)) :
    Prop where
  calls : block.map Prod.fst = cs
  ignored : ∀ c ∈ block, c.2 = true → S.failure c.1 = .ignored

/-- The calls of one request: the whole script, or its calls up to the first
that throws. -/
inductive Made (S : Script ρ μ γ) (script : List γ) : List (γ × Bool) → Prop
  | whole {block : List (γ × Bool)} (h : Passed S script block) :
      Made S script block
  | part {cs rest : List γ} {c : γ} {block : List (γ × Bool)}
      (h : script = cs ++ c :: rest) (hblock : Passed S cs block)
      (hthrow : S.failure c = .thrown) : Made S script (block ++ [(c, true)])

/-- What a sequential program does that serves the requests one after the
other. -/
inductive Served (S : Script ρ μ γ) (m₀ : μ) :
    List ρ → μ → List (γ × Bool) → Prop
  | nil : Served S m₀ [] m₀ []
  | snoc {rs : List ρ} {m : μ} {calls block : List (γ × Bool)} {r : ρ}
      (h : Served S m₀ rs m calls)
      (hblock : Made S (S.script r (S.prepare r m)).1 block) :
      Served S m₀ (rs ++ [r]) (S.script r (S.prepare r m)).2 (calls ++ block)

namespace Passed

variable {S : Script ρ μ γ} {cs ds : List γ} {block rest : List (γ × Bool)}

theorem nil : Passed S [] [] := ⟨rfl, nofun⟩

theorem append (h : Passed S cs block) (hrest : Passed S ds rest) :
    Passed S (cs ++ ds) (block ++ rest) where
  calls := by rw [List.map_append, h.calls, hrest.calls]
  ignored := by
    intro c hc hfailed
    rcases List.mem_append.mp hc with hc | hc
    · exact h.ignored c hc hfailed
    · exact hrest.ignored c hc hfailed

/-- None of the calls fails. -/
theorem of_success (S : Script ρ μ γ) (cs : List γ) :
    Passed S cs (cs.map fun c => (c, false)) where
  calls := by
    rw [List.map_map]
    exact List.map_id cs
  ignored := by
    intro c hc hfailed
    obtain ⟨d, -, rfl⟩ := List.mem_map.mp hc
    cases hfailed

/-- Calls that have not failed. -/
theorem eq_of_success (h : Passed S cs block)
    (hsuccess : ∀ c ∈ block, c.2 = false) :
    block = cs.map fun c => (c, false) := by
  have hsame : ∀ c ∈ block, c = (c.1, false) :=
    fun c hc => Prod.ext rfl (hsuccess c hc)
  calc
    block = block.map id := (List.map_id block).symm
    _ = block.map fun c => (c.1, false) := List.map_congr_left hsame
    _ = cs.map fun c => (c, false) := by
      rw [← h.calls, List.map_map]
      rfl

end Passed

/-- Where no call throws the whole script is made. -/
theorem Made.calls {S : Script ρ μ γ} {script : List γ}
    {block : List (γ × Bool)} (h : Made S script block)
    (hthrow : ∀ c, S.failure c ≠ .thrown) : block.map Prod.fst = script := by
  cases h with
  | whole h => exact h.calls
  | part _ _ h => exact absurd h (hthrow _)

/-- The calls made so far for a request of which `k` is left. -/
def Underway (S : Script ρ μ γ) (m₀ : μ) (rs : List ρ) (r : ρ) (k : List γ)
    (w : Logged μ γ) : Prop :=
  ∃ m calls cs block, Served S m₀ rs m calls ∧
    (S.script r (S.prepare r m)).1 = cs ++ k ∧ Passed S cs block ∧
    w = ⟨(S.script r (S.prepare r m)).2, calls ++ block⟩

/-- Between requests the server is where the sequential program is. -/
def scripted (S : Script ρ μ γ) (m₀ : μ) :
    Assertions ρ (List γ) (Logged μ γ) where
  idle rs w := Served S m₀ rs w.members w.calls
  pool rs r w := ∃ m, Served S m₀ rs m w.calls ∧ w.members = S.prepare r m
  inside := Underway S m₀

section

variable {S : Script ρ μ γ} {c : γ} {cs k : List γ} {a : Bool}

/-- A call after which the thread goes on has not failed, or its failure is
ignored. -/
theorem Script.goesOn_of_outcome
    (h : S.outcome c cs (a && S.failure c != .none) = .goesOn k) :
    k = cs ∧ Passed S [c] [(c, a && S.failure c != .none)] := by
  cases hfailed : a && S.failure c != .none with
  | false =>
      rw [hfailed] at h
      exact ⟨(Outcome.goesOn.inj h).symm, Passed.of_success S [c]⟩
  | true =>
      rw [hfailed, Script.outcome] at h
      split at h
      · cases h
      · rename_i hthrown
        refine ⟨(Outcome.goesOn.inj h).symm, rfl, ?_⟩
        rintro _ hc -
        obtain rfl := List.mem_singleton.mp hc
        cases hfailure : S.failure c with
        | none =>
            rw [hfailure, bne_self_eq_false, Bool.and_false] at hfailed
            cases hfailed
        | ignored => rfl
        | thrown => exact absurd hfailure hthrown

/-- A call that ends the thread has thrown. -/
theorem Script.throws_of_outcome {failed : Bool}
    (h : S.outcome c cs failed = .throws) :
    failed = true ∧ S.failure c = .thrown := by
  cases failed with
  | false => cases h
  | true =>
      rw [Script.outcome] at h
      split at h
      · rename_i hthrown
        exact ⟨rfl, hthrown⟩
      · cases h

theorem Script.outcome_ne_finished {failed : Bool} :
    S.outcome c cs failed ≠ .finished := by
  cases failed with
  | false => exact nofun
  | true =>
      rw [Script.outcome]
      split <;> exact nofun

end

theorem Script.keeps (S : Script ρ μ γ) (m₀ : μ) :
    Keeps S.work (scripted S m₀) where
  prepare := fun {rs r w} h => ⟨w.members, h, rfl⟩
  enter := by
    rintro rs r ⟨members, calls⟩ ⟨m, h, rfl⟩ -
    exact ⟨m, calls, [], [], h, rfl, .nil, by simp [Script.work]⟩
  goesOn := by
    rintro rs r a k k' w w' ⟨m, calls, cs, block, h, hscript, hblock, rfl⟩ hnext
    cases k with
    | nil => cases hnext
    | cons c k =>
        obtain ⟨houtcome, rfl⟩ := Prod.mk.inj hnext
        obtain ⟨rfl, hpassed⟩ := Script.goesOn_of_outcome houtcome
        refine ⟨m, calls, cs ++ [c], _, h, ?_, hblock.append hpassed, ?_⟩
        · rw [hscript, List.append_assoc, List.singleton_append]
        · rw [← List.append_assoc]
  finished := by
    rintro rs r a k w w' ⟨m, calls, cs, block, h, hscript, hblock, rfl⟩ hnext
    cases k with
    | nil =>
        obtain ⟨-, rfl⟩ := Prod.mk.inj hnext
        rw [List.append_nil] at hscript
        exact h.snoc (.whole (hscript ▸ hblock))
    | cons c k =>
        exact absurd (congrArg Prod.fst hnext) Script.outcome_ne_finished
  throws := by
    rintro rs r a k w w' ⟨m, calls, cs, block, h, hscript, hblock, rfl⟩ hnext
    cases k with
    | nil => cases hnext
    | cons c k =>
        obtain ⟨houtcome, rfl⟩ := Prod.mk.inj hnext
        obtain ⟨hfailed, hthrown⟩ := Script.throws_of_outcome houtcome
        change Served S m₀ (rs ++ [r]) _ (_ ++ [(c, a && S.failure c != .none)])
        rw [hfailed, List.append_assoc]
        exact h.snoc (.part hscript hblock hthrown)
  other_idle := fun {_ b} _ _ _ => b.elim
  other_pool := fun {_ _ b} _ _ _ => b.elim
  other_inside := fun {_ _ _ b} _ _ _ => b.elim

/-- A script takes a step for each call and one to end. -/
theorem Script.bounded (S : Script ρ μ γ) (n : ℕ)
    (hn : ∀ r m, (S.script r m).1.length ≤ n) :
    Bounded S.work (fun k => k.length + 1) (n + 1) where
  enter := fun r w => Nat.succ_le_succ (hn r w.members)
  goesOn := by
    intro a k k' w w' hnext
    cases k with
    | nil => cases hnext
    | cons c k =>
        obtain ⟨houtcome, -⟩ := Prod.mk.inj hnext
        obtain ⟨rfl, -⟩ := Script.goesOn_of_outcome houtcome
        exact Nat.le_refl _
  pos := fun k => Nat.succ_le_succ (Nat.zero_le _)

/-- A server at rest has made the calls of the sequential program, for all
requests it has been given. -/
theorem Held.served {S : Script ρ μ γ} {m₀ : μ}
    {s : Server ρ (List γ) (Logged μ γ)} (h : Held (scripted S m₀) s)
    (hordered : Ordered S.work s) (hrest : s.requests = []) :
    Served S m₀ s.executed s.world.members s.world.calls := by
  cases h with
  | busy e rest hrequests => rw [hrest] at hrequests; cases hrequests
  | resting _ _ _ h =>
      have hexecuted := hordered.requests
      rw [hrest, List.append_nil] at hexecuted
      rw [← hexecuted]
      exact h

/-- A sequential program can go on with further requests. -/
theorem Served.extend {S : Script ρ μ γ} {m₀ m : μ} {rs : List ρ}
    {calls : List (γ × Bool)} (h : Served S m₀ rs m calls) (todo : List ρ) :
    ∃ m' calls', Served S m₀ (rs ++ todo) m' calls' ∧ calls <+: calls' := by
  induction todo generalizing rs m calls with
  | nil => exact ⟨m, calls, by rwa [List.append_nil], List.prefix_refl _⟩
  | cons r todo ih =>
      obtain ⟨m', calls', hserved, hprefix⟩ :=
        ih (h.snoc (.whole (.of_success S _)))
      rw [List.append_assoc] at hserved
      exact ⟨m', calls', hserved, (List.prefix_append _ _).trans hprefix⟩

/-- The calls made so far are the first ones of a sequential program that serves
all requests there have been. -/
theorem Held.sequential {S : Script ρ μ γ} {m₀ : μ}
    {s : Server ρ (List γ) (Logged μ γ)} (h : Held (scripted S m₀) s)
    (hordered : Ordered S.work s) :
    ∃ m calls, Served S m₀ s.executed m calls ∧ s.world.calls <+: calls := by
  have hexecuted : s.served ++ s.requests.map Entry.request = s.executed := by
    rw [Server.served, ← List.map_append, hordered.requests]
  rw [← hexecuted]
  cases h with
  | resting _ _ _ h => exact h.extend _
  | busy e rest hrequests h =>
      cases h with
      | pool _ _ h =>
          obtain ⟨m, h, -⟩ := h
          exact h.extend _
      | inside k _ _ h =>
          obtain ⟨m, calls, cs, block, h, hscript, hblock, hworld⟩ := h
          -- The rest of the script may succeed.
          have hmade := Made.whole (hblock.append (.of_success S k))
          rw [← hscript] at hmade
          obtain ⟨m', calls', hserved, hprefix⟩ :=
            (h.snoc hmade).extend (rest.map Entry.request)
          rw [List.append_assoc] at hserved
          refine ⟨m', calls', by rwa [hrequests], ?_⟩
          refine List.IsPrefix.trans ?_ hprefix
          rw [hworld, ← List.append_assoc]
          exact List.prefix_append _ _
      | ended _ _ h =>
          obtain ⟨m', calls', hserved, hprefix⟩ :=
            h.extend (rest.map Entry.request)
          rw [List.append_assoc] at hserved
          exact ⟨m', calls', by rwa [hrequests], hprefix⟩

/-- The rule for every state of a run of a script. -/
theorem Script.throughout (S : Script ρ μ γ) (m₀ : μ)
    (evs : List (Event ρ Bool Empty)) :
    Throughout (step S.work)
      (fun s => Held (scripted S m₀) s ∧ Ordered S.work s)
      { world := { members := m₀ } } evs := by
  have hall : Throughout (step S.work)
      (fun s => Held (scripted S m₀) s ∧ Serving s ∧ Ordered S.work s)
      { world := { members := m₀ } } evs := by
    refine throughout_of_eachStep (C := fun _ _ => True) ?_
      ⟨.resting rfl rfl rfl .nil, serving_new _, ordered_new _⟩
      (eachStep_true _ evs)
    rintro s ev t ⟨hheld, hserving, hordered⟩ - ht
    exact ⟨held_step (S.keeps m₀) hheld ht, hserving.step ht,
      ordered_step hserving hordered ht⟩
  exact hall.mono fun _ hs => ⟨hs.1, hs.2.2⟩

end SelfPlugins.Serial
