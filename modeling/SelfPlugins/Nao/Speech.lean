import Mathlib.Data.List.Range
import SelfPlugins.Speech.Gesture

/-!
# The speech gesture of the NAO

`NaoSpeechGesture` speaks the requests of its queue one after the other.  A
thread makes the calls of the robot's services, any of which may fail, and
queues a call of `OnSpeechDone` on the main thread; that pops the request, and
starts the thread of the next or resumes the audio sensors.  `Abort` stops the
speech but leaves the queue to the thread, so that queue, thread and sensors
stay in step (`speech_in_step`).
-/

namespace SelfPlugins.Nao

open Runs Speech

/-- A request in the queue. -/
structure Spoken extends Request where
  m_bError : Bool := false
deriving DecidableEq

/-- The service call a thread is about to make. -/
inductive SpeechPhase
  | service
  | setLanguage
  | animated
  | say
deriving DecidableEq

/-- A `SpeechThread`. -/
structure SpeechThread where
  request : Request
  phase : SpeechPhase
deriving DecidableEq

/-- The state of the gesture.  `queued` are the requests of the queued calls of
`OnSpeechDone`, and `ended` are the requests whose threads have ended, with
whether the thread threw. -/
structure NaoSpeechGesture where
  requests : List Spoken := []
  m_Language : String := "English"
  threads : List SpeechThread := []
  queued : List Request := []
  pauses : ℕ := 0
  resumes : ℕ := 0
  executed : ℕ := 0
  completed : List Spoken := []
  ended : List (Request × Bool) := []

/-- The gesture is called, a thread comes to its next service call, or the main
thread gets to a queued `OnSpeechDone`.  `still` is whether the robot's extra
movement is disabled or the robot is at rest. -/
inductive SpeechEvent
  | execute (params : Params)
  | abort (throws : Bool)
  | thread (n : ℕ) (throws still : Bool)
  | speechDone (n : ℕ)

namespace NaoSpeechGesture

/-- The languages of the robot, as `Start` fills the map. -/
def m_Languages : List (String × String) :=
  [("en-US", "English"), ("es-ES", "Spanish"), ("ja-JP", "Japanese"),
    ("it-IT", "Italian"), ("de-DE", "German"), ("fr-FR", "French"),
    ("pt-BR", "Portuguese"), ("ko-KR", "Korean")]

/-! ## The gesture -/

/-- `PushRequest` -/
def pushRequest (params : Params) (s : NaoSpeechGesture) :
    NaoSpeechGesture :=
  { s with
    requests := s.requests ++ [{ id := s.executed, params := params }]
    executed := s.executed + 1 }

/-- `PopRequest` completes the front request. -/
def popRequest (s : NaoSpeechGesture) : NaoSpeechGesture :=
  { s with
    requests := s.requests.tail
    completed := s.completed ++ s.requests.head?.toList }

/-- `SpeechThread` is invoked on a thread, for the active request. -/
def invokeOnThread (s : NaoSpeechGesture) : NaoSpeechGesture :=
  match s.requests with
  | req :: _ => { s with threads := s.threads ++ [⟨req.toRequest, .service⟩] }
  | [] => s

/-- `Execute` -/
def execute (params : Params) (s : NaoSpeechGesture) : NaoSpeechGesture :=
  let pushed := pushRequest params s
  if s.requests = [] then
    invokeOnThread { pushed with pauses := pushed.pauses + 1 }
  else pushed

/-- `Abort`, which only makes service calls, and its result. -/
def abort (throws : Bool) (s : NaoSpeechGesture) : Bool × NaoSpeechGesture :=
  if s.requests = [] then (false, s) else (!throws, s)

/-- What a service call comes to: an exception, which ends the thread, the
next call with the language then set, or the end of the thread. -/
inductive Outcome
  | throws
  | next (phase : SpeechPhase) (m_Language : String)
  | ends

/-- `DoSpeechThread`, one service call at a time. -/
def doSpeechThread (t : SpeechThread) (throws still : Bool)
    (s : NaoSpeechGesture) : Outcome :=
  match t.phase with
  | .service => if throws then .throws else .next .setLanguage s.m_Language
  | .setLanguage =>
      match m_Languages.lookup t.request.params.language with
      | some language =>
          if language = s.m_Language then .next .animated s.m_Language
          else if throws then .throws
          else .next .animated language
      | none => .next .animated s.m_Language
  | .animated =>
      if still then .next .say s.m_Language
      else if throws then .throws
      else .next .say s.m_Language
  | .say => if throws then .throws else .ends

/-- The end of a thread, which threw or not: `OnSpeechDone` is queued. -/
def endThread (n : ℕ) (req : Request) (threw : Bool) (s : NaoSpeechGesture) :
    NaoSpeechGesture :=
  { s with
    threads := s.threads.eraseIdx n
    queued := s.queued ++ [req]
    ended := s.ended ++ [(req, threw)] }

/-- `a_pReq->m_bError = true` -/
def setError (req : Request) (s : NaoSpeechGesture) : NaoSpeechGesture :=
  { s with
    requests := s.requests.map fun r =>
      if r.id = req.id then { r with m_bError := true } else r }

/-- `SpeechThread`, up to the next service call. -/
def speechThread (n : ℕ) (t : SpeechThread) (throws still : Bool)
    (s : NaoSpeechGesture) : NaoSpeechGesture :=
  match doSpeechThread t throws still s with
  | .throws => endThread n t.request true (setError t.request s)
  | .next phase language =>
      { s with
        m_Language := language
        threads := s.threads.set n { t with phase := phase } }
  | .ends => endThread n t.request false s

/-- `OnSpeechDone` -/
def onSpeechDone (s : NaoSpeechGesture) : NaoSpeechGesture :=
  let s := popRequest s
  if s.requests = [] then { s with resumes := s.resumes + 1 }
  else invokeOnThread s

def step (s : NaoSpeechGesture) : SpeechEvent → Option NaoSpeechGesture
  | .execute params => some (execute params s)
  | .abort throws => some (abort throws s).2
  | .thread n throws still =>
      (s.threads[n]?).map fun t => speechThread n t throws still s
  | .speechDone n =>
      (s.queued[n]?).map fun _ =>
        onSpeechDone { s with queued := s.queued.eraseIdx n }

/-! ## What is kept -/

/-- A request with its error flag. -/
def Spoken.flag (req : Spoken) : Request × Bool :=
  (req.toRequest, req.m_bError)

/-- The requests for which a thread or a queued `OnSpeechDone` exists. -/
def active (s : NaoSpeechGesture) : List Request :=
  s.queued ++ s.threads.map SpeechThread.request

/-- The queue, the thread and the audio sensors are in step. -/
structure InStep (s : NaoSpeechGesture) : Prop where
  /-- One activity, for the front request, or none if there is no request. -/
  front : s.active = (s.requests.map Spoken.toRequest).head?.toList
  paused : s.pauses = s.resumes + if s.requests = [] then 0 else 1
  /-- Each request is in the queue or has been completed, once and in order. -/
  order : (s.completed ++ s.requests).map (fun req => req.id) =
    List.range s.executed
  /-- Each thread has ended once, in the order of the requests. -/
  threads : s.ended.map (fun e => e.1.id) = List.range s.ended.length
  /-- The completed requests are those of the first threads that have ended,
  with `m_bError` set if the thread threw. -/
  flags : s.completed.map Spoken.flag <+: s.ended

/-! ## The invariant -/

/-- Nothing is under way, the thread of the front request is, or its
`OnSpeechDone` is queued. -/
inductive Stage (s : NaoSpeechGesture) : Prop
  | idle (requests : s.requests = []) (threads : s.threads = [])
      (queued : s.queued = [])
      (ended : s.ended = s.completed.map Spoken.flag)
  | talking (req : Spoken) (rest : List Spoken) (phase : SpeechPhase)
      (requests : s.requests = req :: rest)
      (threads : s.threads = [⟨req.toRequest, phase⟩])
      (queued : s.queued = []) (clear : req.m_bError = false)
      (ended : s.ended = s.completed.map Spoken.flag)
  | done (req : Spoken) (rest : List Spoken)
      (requests : s.requests = req :: rest) (threads : s.threads = [])
      (queued : s.queued = [req.toRequest])
      (ended : s.ended = (s.completed ++ [req]).map Spoken.flag)

structure Speaking (s : NaoSpeechGesture) : Prop where
  stage : Stage s
  paused : s.pauses = s.resumes + if s.requests = [] then 0 else 1
  order : (s.completed ++ s.requests).map (fun req => req.id) =
    List.range s.executed
  clear : ∀ req ∈ s.requests.tail, req.m_bError = false

variable {s s' : NaoSpeechGesture}

theorem speaking_start (language : String) :
    Speaking { m_Language := language } :=
  ⟨.idle rfl rfl rfl rfl, rfl, rfl, nofun⟩

/-- The first part of a range is a range. -/
theorem eq_range_of_append {l l' : List ℕ} {n : ℕ}
    (h : l ++ l' = List.range n) : l = List.range l.length := by
  have hlen := congrArg List.length h
  rw [List.length_append, List.length_range] at hlen
  calc
    l = (l ++ l').take l.length := List.take_left.symm
    _ = (List.range n).take l.length := by rw [h]
    _ = List.range (min l.length n) := List.take_range
    _ = List.range l.length := by rw [Nat.min_eq_left (by omega)]

/-- Where requests are numbered in order, so are the flags of the first. -/
theorem flag_ids_of_append {l l' : List Spoken} {n : ℕ}
    (h : (l ++ l').map (fun req => req.id) = List.range n) :
    (l.map Spoken.flag).map (fun e => e.1.id) =
      List.range (l.map Spoken.flag).length := by
  have hids : (l.map Spoken.flag).map (fun e => e.1.id) =
      l.map fun req => req.id := List.map_map
  rw [List.map_append] at h
  rw [hids, eq_range_of_append h, List.length_map, List.length_map]

/-- The requests that follow the front are others. -/
theorem Speaking.ne_front {req : Spoken} {rest : List Spoken} (h : Speaking s)
    (hreq : s.requests = req :: rest) : ∀ r ∈ rest, r.id ≠ req.id := by
  intro r hr heq
  have hnodup := List.nodup_range (n := s.executed)
  rw [← h.order, hreq, List.map_append, List.map_cons] at hnodup
  have hrest := (List.nodup_cons.mp (List.nodup_append.mp hnodup).2.1).1
  exact hrest (heq ▸ List.mem_map_of_mem hr)

theorem Speaking.inStep (h : Speaking s) : InStep s := by
  cases h.stage with
  | idle hreq hthreads hqueued hended =>
      refine ⟨?_, h.paused, h.order, ?_, ?_⟩
      · simp [active, hreq, hthreads, hqueued]
      · rw [hended]
        exact flag_ids_of_append h.order
      · exact hended ▸ List.prefix_refl _
  | talking req rest phase hreq hthreads hqueued hclear hended =>
      refine ⟨?_, h.paused, h.order, ?_, ?_⟩
      · simp [active, hreq, hthreads, hqueued]
      · rw [hended]
        exact flag_ids_of_append h.order
      · exact hended ▸ List.prefix_refl _
  | done req rest hreq hthreads hqueued hended =>
      refine ⟨?_, h.paused, h.order, ?_, ?_⟩
      · simp [active, hreq, hthreads, hqueued]
      · have horder := h.order
        rw [hreq, List.append_cons] at horder
        rw [hended]
        exact flag_ids_of_append horder
      · rw [hended, List.map_append]
        exact List.prefix_append _ _

/-! ## The steps -/

/-- `Execute` on the empty queue starts the thread of the request. -/
theorem Speaking.execute (params : Params) (h : Speaking s) :
    Speaking (execute params s) := by
  have horder : (s.completed ++ (pushRequest params s).requests).map
      (fun req => req.id) = List.range (s.executed + 1) := by
    change (s.completed ++ (s.requests ++ [_])).map _ = _
    rw [← List.append_assoc, List.map_append, h.order, List.range_succ]
    rfl
  unfold NaoSpeechGesture.execute
  dsimp only
  split
  · rename_i hreq
    cases h.stage with
    | idle _ hthreads hqueued hended =>
        have hpaused := h.paused
        simp only [pushRequest, hreq] at horder
        simp only [invokeOnThread, pushRequest, hreq, hthreads]
        refine ⟨.talking _ _ _ rfl rfl hqueued rfl hended, ?_, horder, nofun⟩
        simpa [hreq] using hpaused
    | talking req rest phase hcons => simp [hreq] at hcons
    | done req rest hcons => simp [hreq] at hcons
  · rename_i hne
    have hpaused : s.pauses = s.resumes +
        if (pushRequest params s).requests = [] then 0 else 1 := by
      have hpush : (pushRequest params s).requests ≠ [] :=
        List.append_ne_nil_of_right_ne_nil _ (List.cons_ne_nil _ _)
      rw [if_neg hpush, h.paused, if_neg hne]
    have hclear : ∀ req ∈ (pushRequest params s).requests.tail,
        req.m_bError = false := by
      intro req hmem
      change req ∈ (s.requests ++ [_]).tail at hmem
      rw [List.tail_append_of_ne_nil hne] at hmem
      rcases List.mem_append.mp hmem with hmem | hmem
      · exact h.clear req hmem
      · rw [List.mem_singleton.mp hmem]
    refine ⟨?_, hpaused, horder, hclear⟩
    cases h.stage with
    | idle hreq => exact absurd hreq hne
    | talking req rest phase hreq hthreads hqueued hreqclear hended =>
        exact .talking req _ phase (congrArg (· ++ _) hreq) hthreads hqueued
          hreqclear hended
    | done req rest hreq hthreads hqueued hended =>
        exact .done req _ (congrArg (· ++ _) hreq) hthreads hqueued hended

/-- The front request is the only one to get the error of its thread. -/
theorem Speaking.setError_requests {req : Spoken} {rest : List Spoken}
    (h : Speaking s) (hreq : s.requests = req :: rest) :
    (setError req.toRequest s).requests =
      { req with m_bError := true } :: rest := by
  rw [setError, hreq, List.map_cons, if_pos rfl, List.cons.injEq]
  refine ⟨rfl, ?_⟩
  calc
    rest.map (fun r : Spoken =>
        if r.id = req.id then { r with m_bError := true } else r) =
        rest.map id :=
      List.map_congr_left fun r hr => if_neg (h.ne_front hreq r hr)
    _ = rest := List.map_id rest

/-- A thread is that of the front request. -/
theorem Speaking.thread {n : ℕ} {t : SpeechThread} (throws still : Bool)
    (h : Speaking s) (hn : s.threads[n]? = some t) :
    Speaking (speechThread n t throws still s) := by
  cases h.stage with
  | idle _ hthreads => simp [hthreads] at hn
  | done req rest _ hthreads => simp [hthreads] at hn
  | talking req rest phase hreq hthreads hqueued hreqclear hended =>
      have hlt := (List.getElem?_eq_some_iff.mp hn).1
      rw [hthreads] at hlt hn
      obtain rfl : n = 0 := Nat.lt_one_iff.mp hlt
      obtain rfl := Option.some.inj hn
      unfold speechThread
      split
      · have herror := h.setError_requests hreq
        refine ⟨.done { req with m_bError := true } rest herror ?_ ?_ ?_, ?_,
          ?_, ?_⟩
        · simp [endThread, setError, hthreads]
        · simp [endThread, setError, hqueued]
        · simp [endThread, setError, hended, Spoken.flag]
        · have hpaused := h.paused
          rw [hreq, if_neg (List.cons_ne_nil _ _)] at hpaused
          rw [endThread, herror, if_neg (List.cons_ne_nil _ _)]
          exact hpaused
        · have horder := h.order
          rw [hreq, List.map_append, List.map_cons] at horder
          rw [endThread, herror, List.map_append, List.map_cons]
          exact horder
        · have hclear := h.clear
          rw [hreq] at hclear
          rw [endThread, herror]
          exact hclear
      · rename_i next language _
        refine ⟨.talking req rest next hreq ?_ hqueued hreqclear hended,
          h.paused, h.order, h.clear⟩
        simp [hthreads]
      · refine ⟨.done req rest hreq ?_ ?_ ?_, h.paused, h.order, h.clear⟩
        · simp [endThread, hthreads]
        · simp [endThread, hqueued]
        · simp [endThread, hended, Spoken.flag, hreqclear]

/-- `OnSpeechDone` is that of the front request. -/
theorem Speaking.speechDone {n : ℕ} {req : Request} (h : Speaking s)
    (hn : s.queued[n]? = some req) :
    Speaking (onSpeechDone { s with queued := s.queued.eraseIdx n }) := by
  cases h.stage with
  | idle _ _ hqueued => simp [hqueued] at hn
  | talking req rest phase _ _ hqueued => simp [hqueued] at hn
  | done front rest hreq hthreads hqueued hended =>
      have hlt := (List.getElem?_eq_some_iff.mp hn).1
      rw [hqueued] at hlt
      obtain rfl : n = 0 := Nat.lt_one_iff.mp hlt
      have hpaused := h.paused
      have horder := h.order
      have hclear := h.clear
      rw [hreq] at hpaused horder hclear
      rw [List.append_cons] at horder
      cases rest with
      | nil =>
          simp only [onSpeechDone, popRequest, hreq, hqueued, List.tail_cons,
            if_true]
          exact ⟨.idle rfl hthreads rfl hended, hpaused, horder, nofun⟩
      | cons next rest =>
          have hnext : next.m_bError = false := hclear next List.mem_cons_self
          simp only [onSpeechDone, popRequest, hreq, hqueued, hthreads,
            List.tail_cons, if_neg (List.cons_ne_nil next rest),
            invokeOnThread]
          exact ⟨.talking next rest _ rfl rfl rfl hnext hended, hpaused,
            horder, fun r hr => hclear r (List.mem_cons_of_mem _ hr)⟩

theorem Speaking.step {e : SpeechEvent} (h : Speaking s)
    (ht : step s e = some s') : Speaking s' := by
  cases e with
  | execute params =>
      obtain rfl := Option.some.inj ht
      exact h.execute params
  | abort throws =>
      obtain rfl := Option.some.inj ht
      unfold abort
      split <;> exact h
  | thread n throws still =>
      obtain ⟨t, hn, rfl⟩ := Option.map_eq_some_iff.mp ht
      exact h.thread throws still hn
  | speechDone n =>
      obtain ⟨req, hn, rfl⟩ := Option.map_eq_some_iff.mp ht
      exact h.speechDone hn

/-- The queue, the thread and the audio sensors are in step in every state of
every run, whichever service calls fail. -/
theorem speech_in_step (language : String) (es : List SpeechEvent) :
    Throughout NaoSpeechGesture.step InStep { m_Language := language } es :=
  (throughout_of_eachStep (fun _ _ _ h _ ht => Speaking.step h ht)
    (speaking_start language) (eachStep_true _ es)).mono
      fun _ h => h.inStep

end NaoSpeechGesture

end SelfPlugins.Nao
