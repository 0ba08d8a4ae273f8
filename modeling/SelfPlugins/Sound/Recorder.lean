import Mathlib.Data.Int.Notation
import Mathlib.Data.List.Range
import SelfPlugins.Library.Amortised
import SelfPlugins.Sound.WinMicrophone

/-!
# The recording microphones

`LinuxMicrophone`, `SotaMicrophone`, `NaoMicrophone` and `RaspiMicrophone` have
`arecord` record for them and read its output in a thread of the pool.  They
differ in the command only.  `OnStart` takes back both flags of the thread,
`OnStop` sets `m_StopThread` and waits for `m_ThreadStopped`.  While the
microphone is paused the process is closed, and what has been read is sent by
the main thread.

`recording_throughout` says what holds in whatever order the calls, the thread
and the main thread take their steps, `onStop_ends` that `OnStop` does not wait
for ever.
The other results are about pauses: a process is opened for a start or after a
pause (`opened_le`), and a microphone that stays paused reads one buffer at most
and closes its process (`paused`).
-/

namespace SelfPlugins.Recorder

open Runs
open SoundCapture (AudioData)

/-- The format of the recording. -/
structure Config where
  m_RecordingHZ : ℕ := 16000
  m_RecordingBits : ℕ := 16

/-- What `ReceiveData` does next: enter the thread, test `m_StopThread`, test
`m_Paused`, open the process unless it is open, read from it, close it for a
pause, close it behind the loop, or set `m_ThreadStopped`. -/
inductive Phase
  | waiting
  | checking
  | deciding
  | opening
  | reading
  | closing
  | leaving
  | ending
deriving DecidableEq

/-- What the microphone has been told to do last: nothing or `OnStop`, which has
returned; `OnStart`; `OnStop`, which waits. -/
inductive Call
  | idle
  | started
  | stopping
deriving DecidableEq

/-- The thread is entered while a process is open, or reads from the `NULL` that
`popen` has returned. -/
inductive Failure
  | exception
  | noStream
deriving DecidableEq

/-- What the system answers: whether `popen` succeeds, and the output of the
process that `fread` finds. -/
structure Answer where
  opens : Bool := true
  output : List UInt8 := []

/-- The state of a microphone.  A process has the number of the processes opened
before it; `opened` holds their commands, `closed` the numbers of those that
have been closed, `heard` is what has been read.  `queue` holds the calls of
`SendingData` that wait for the main thread, `sent` what has been passed to
`SendData`. -/
structure Microphone where
  m_Stream : Option ℕ := none
  m_StopThread : Bool := false
  m_ThreadStopped : Bool := false
  m_Paused : ℤ := 0
  call : Call := .idle
  threads : List Phase := []
  opened : List String := []
  closed : List ℕ := []
  heard : List UInt8 := []
  queue : List AudioData := []
  sent : List AudioData := []
  failure : Option Failure := none

/-- The sensor manager starts and stops the microphone, others pause and resume
it, a thread takes a step, and the main thread makes the next call of
`SendingData`. -/
inductive Event
  | start
  | stop
  | returns
  | pause
  | resume
  | thread (n : ℕ) (answer : Answer)
  | sendingData

namespace Microphone

def onStart (s : Microphone) : Microphone :=
  { s with
    m_StopThread := false
    m_ThreadStopped := false
    threads := s.threads ++ [.waiting] }

/-- `OnStop`, up to its loop. -/
def onStop (s : Microphone) : Microphone :=
  { s with m_StopThread := true }

def onPause (s : Microphone) : Microphone :=
  { s with m_Paused := s.m_Paused + 1 }

def onResume (s : Microphone) : Microphone :=
  { s with m_Paused := s.m_Paused - 1 }

def popen (command : String) (ok : Bool) (s : Microphone) : Microphone :=
  if s.m_Stream = none ∧ ok = true then
    { s with
      m_Stream := some s.opened.length
      opened := s.opened ++ [command] }
  else s

def pclose (s : Microphone) : Microphone :=
  { s with
    m_Stream := none
    closed := s.closed ++ s.m_Stream.toList }

/-- `fread` fills the buffer as far as it can, and what has been read is queued
for the main thread. -/
def fread (cfg : Config) (output : List UInt8) (s : Microphone) :
    Microphone :=
  let buffer := output.take 4000
  { s with
    heard := s.heard ++ buffer
    queue := if buffer = [] then s.queue else
      s.queue ++ [⟨buffer, cfg.m_RecordingHZ, 1, cfg.m_RecordingBits⟩] }

def goto (n : ℕ) (p : Phase) (s : Microphone) : Microphone :=
  { s with threads := s.threads.set n p }

/-- One step of `ReceiveData`, in the `n`-th thread. -/
def receiveData (cfg : Config) (command : String) (n : ℕ) (answer : Answer)
    (s : Microphone) : Phase → Microphone
  | .waiting =>
      if s.m_Stream = none then goto n .checking s else
        { s with
          threads := s.threads.eraseIdx n
          failure := some .exception }
  | .checking => goto n (if s.m_StopThread then .leaving else .deciding) s
  | .deciding => goto n (if s.m_Paused ≤ 0 then .opening else .closing) s
  | .opening => goto n .reading (popen command answer.opens s)
  | .reading =>
      if s.m_Stream = none then { s with failure := some .noStream } else
        goto n .checking (fread cfg answer.output s)
  | .closing => goto n .checking (pclose s)
  | .leaving => goto n .ending (pclose s)
  | .ending =>
      { s with
        m_ThreadStopped := true
        threads := s.threads.eraseIdx n }

/-- `SendingData` -/
def sendingData (s : Microphone) : Option Microphone :=
  match s.queue with
  | [] => none
  | d :: rest => some { s with queue := rest, sent := s.sent ++ [d] }

/-- One event.  The calls of `OnStart` and `OnStop` alternate. -/
def act (cfg : Config) (command : String) (s : Microphone) :
    Event → Option Microphone
  | .start =>
      if s.call = .idle then some { onStart s with call := .started }
      else none
  | .stop =>
      if s.call = .started then some { onStop s with call := .stopping }
      else none
  | .returns =>
      if s.call = .stopping ∧ s.m_ThreadStopped = true then
        some { s with call := .idle }
      else none
  | .pause => some (onPause s)
  | .resume => some (onResume s)
  | .thread n answer =>
      (s.threads[n]?).map (receiveData cfg command n answer s)
  | .sendingData => sendingData s

/-- Nothing is said of what follows a failure. -/
def step (cfg : Config) (command : String) (s : Microphone) (e : Event) :
    Option Microphone :=
  if s.failure = none then act cfg command s e else none

end Microphone

/-! ## The classes -/

namespace LinuxMicrophone

def command (cfg : Config) : String :=
  "arecord -f S" ++ toString cfg.m_RecordingBits ++ "_LE -r " ++
    toString cfg.m_RecordingHZ

def step (cfg : Config) : Microphone → Event → Option Microphone :=
  Microphone.step cfg (command cfg)

end LinuxMicrophone

namespace SotaMicrophone

def command (cfg : Config) : String :=
  "arecord -f S" ++ toString cfg.m_RecordingBits ++ "_LE -r " ++
    toString cfg.m_RecordingHZ

def step (cfg : Config) : Microphone → Event → Option Microphone :=
  Microphone.step cfg (command cfg)

end SotaMicrophone

namespace NaoMicrophone

def command (cfg : Config) : String :=
  "arecord -f S" ++ toString cfg.m_RecordingBits ++ "_LE -r " ++
    toString cfg.m_RecordingHZ

def step (cfg : Config) : Microphone → Event → Option Microphone :=
  Microphone.step cfg (command cfg)

end NaoMicrophone

namespace RaspiMicrophone

/-- The two numbers are printed as unsigned ones. -/
def command (cfg : Config) (m_Device m_SubDevice : Int32) : String :=
  "arecord -D plughw:" ++ toString m_Device.toUInt32 ++ "," ++
    toString m_SubDevice.toUInt32 ++ " -f S" ++
    toString cfg.m_RecordingBits ++ "_LE -r " ++ toString cfg.m_RecordingHZ

def step (cfg : Config) (m_Device m_SubDevice : Int32) :
    Microphone → Event → Option Microphone :=
  Microphone.step cfg (command cfg m_Device m_SubDevice)

end RaspiMicrophone

/-! ## One thread at a time -/

namespace Microphone

variable {cfg : Config} {command : String} {s t : Microphone} {e : Event}
  {p q : Phase} {answer : Answer}

/-- The microphone has no thread, and no process either. -/
structure Resting (s : Microphone) : Prop where
  threads : s.threads = []
  stream : s.m_Stream = none
  call : s.call ≠ .started
  stopped : s.call = .stopping → s.m_ThreadStopped = true

/-- The microphone has one thread, which is at `p`. -/
structure Working (p : Phase) (s : Microphone) : Prop where
  threads : s.threads = [p]
  flag : s.m_ThreadStopped = false
  call : s.call ≠ .idle
  stop : s.m_StopThread = true ↔ s.call = .stopping
  late : p = .leaving ∨ p = .ending → s.call = .stopping
  stream : p = .waiting ∨ p = .ending → s.m_Stream = none

def InStep (s : Microphone) : Prop :=
  Resting s ∨ ∃ p, Working p s

theorem resting_new : Resting {} := ⟨rfl, rfl, nofun, nofun⟩

/-- The steps of a thread that is not entered while a process is open: from
where it is to where it goes on, if it does. -/
inductive Advance (cfg : Config) (command : String) (answer : Answer)
    (s : Microphone) : Phase → Option Phase → Microphone → Prop
  | enter : s.m_Stream = none →
      Advance cfg command answer s .waiting (some .checking)
        (goto 0 .checking s)
  | stopped : s.m_StopThread = true →
      Advance cfg command answer s .checking (some .leaving)
        (goto 0 .leaving s)
  | goesOn : s.m_StopThread = false →
      Advance cfg command answer s .checking (some .deciding)
        (goto 0 .deciding s)
  | records : s.m_Paused ≤ 0 →
      Advance cfg command answer s .deciding (some .opening)
        (goto 0 .opening s)
  | pauses : 0 < s.m_Paused →
      Advance cfg command answer s .deciding (some .closing)
        (goto 0 .closing s)
  | opens : Advance cfg command answer s .opening (some .reading)
      (goto 0 .reading (popen command answer.opens s))
  | reads : s.m_Stream ≠ none →
      Advance cfg command answer s .reading (some .checking)
        (goto 0 .checking (fread cfg answer.output s))
  | fails : s.m_Stream = none →
      Advance cfg command answer s .reading (some .reading)
        { s with failure := some .noStream }
  | closes : Advance cfg command answer s .closing (some .checking)
      (goto 0 .checking (pclose s))
  | leaves : Advance cfg command answer s .leaving (some .ending)
      (goto 0 .ending (pclose s))
  | ends : Advance cfg command answer s .ending none
      { s with
        m_ThreadStopped := true
        threads := s.threads.eraseIdx 0 }

theorem sendingData_some (ht : sendingData s = some t) :
    ∃ d rest, s.queue = d :: rest ∧
      t = { s with queue := rest, sent := s.sent ++ [d] } := by
  unfold sendingData at ht
  split at ht
  · cases ht
  · rename_i d rest hqueue
    exact ⟨d, rest, hqueue, (Option.some.inj ht).symm⟩

/-- What a step of the only thread does. -/
theorem Working.advance {n : ℕ} (h : Working p s)
    (ht : (s.threads[n]?).map (receiveData cfg command n answer s) = some t) :
    ∃ q, Advance cfg command answer s p q t := by
  obtain ⟨q, hq, rfl⟩ := Option.map_eq_some_iff.mp ht
  rw [h.threads] at hq
  obtain ⟨hlt, rfl⟩ := List.getElem?_eq_some_iff.mp hq
  obtain rfl : n = 0 := Nat.lt_one_iff.mp hlt
  change ∃ q, Advance cfg command answer s p q
    (receiveData cfg command 0 answer s p)
  cases p with
  | waiting =>
      have hnone := h.stream (Or.inl rfl)
      rw [receiveData, if_pos hnone]
      exact ⟨_, .enter hnone⟩
  | checking =>
      rw [receiveData]
      cases hstop : s.m_StopThread with
      | true => exact ⟨_, .stopped hstop⟩
      | false => exact ⟨_, .goesOn hstop⟩
  | deciding =>
      rw [receiveData]
      by_cases hle : s.m_Paused ≤ 0
      · rw [if_pos hle]
        exact ⟨_, .records hle⟩
      · rw [if_neg hle]
        exact ⟨_, .pauses (Int.not_le.mp hle)⟩
  | opening => exact ⟨_, .opens⟩
  | reading =>
      rw [receiveData]
      by_cases hnone : s.m_Stream = none
      · rw [if_pos hnone]
        exact ⟨_, .fails hnone⟩
      · rw [if_neg hnone]
        exact ⟨_, .reads hnone⟩
  | closing => exact ⟨_, .closes⟩
  | leaving => exact ⟨_, .leaves⟩
  | ending => exact ⟨_, .ends⟩

theorem popen_eq (command : String) (ok : Bool) (s : Microphone) :
    popen command ok s = s ∨ s.m_Stream = none ∧ popen command ok s =
      { s with
        m_Stream := some s.opened.length
        opened := s.opened ++ [command] } := by
  unfold popen
  split
  · rename_i h
    exact Or.inr ⟨h.1, rfl⟩
  · exact Or.inl rfl

/-- A thread that is to go on goes on to `q`. -/
theorem Working.goto (h : Working p s) (hthreads : t.threads = s.threads)
    (hflag : t.m_ThreadStopped = s.m_ThreadStopped) (hcall : t.call = s.call)
    (hstop : t.m_StopThread = s.m_StopThread)
    (hlate : q = .leaving ∨ q = .ending → s.call = .stopping)
    (hstream : q = .waiting ∨ q = .ending → t.m_Stream = none) :
    Working q (goto 0 q t) where
  threads := by
    change t.threads.set 0 q = [q]
    rw [hthreads, h.threads, List.set_cons_zero]
  flag := hflag.trans h.flag
  call := fun hidle => h.call (hcall ▸ hidle)
  stop := by
    change t.m_StopThread = true ↔ t.call = .stopping
    rw [hstop, hcall]
    exact h.stop
  late := fun hq => hcall.trans (hlate hq)
  stream := hstream

theorem Working.inStep {q : Option Phase} (h : Working p s)
    (ht : Advance cfg command answer s p q t) : InStep t := by
  cases ht with
  | enter hnone =>
      exact Or.inr ⟨_, h.goto rfl rfl rfl rfl (by simp) (by simp)⟩
  | stopped hstop =>
      have hcall := h.stop.mp hstop
      exact Or.inr ⟨_, h.goto rfl rfl rfl rfl (fun _ => hcall) (by simp)⟩
  | goesOn => exact Or.inr ⟨_, h.goto rfl rfl rfl rfl (by simp) (by simp)⟩
  | records => exact Or.inr ⟨_, h.goto rfl rfl rfl rfl (by simp) (by simp)⟩
  | pauses => exact Or.inr ⟨_, h.goto rfl rfl rfl rfl (by simp) (by simp)⟩
  | opens =>
      refine Or.inr ⟨.reading, ?_⟩
      rcases popen_eq command answer.opens s with hpopen | ⟨-, hpopen⟩
      · rw [hpopen]
        exact h.goto rfl rfl rfl rfl (by simp) (by simp)
      · rw [hpopen]
        exact h.goto rfl rfl rfl rfl (by simp) (by simp)
  | reads => exact Or.inr ⟨_, h.goto rfl rfl rfl rfl (by simp) (by simp)⟩
  | fails =>
      exact Or.inr ⟨_, h.threads, h.flag, h.call, h.stop, h.late, h.stream⟩
  | closes => exact Or.inr ⟨_, h.goto rfl rfl rfl rfl (by simp) (by simp)⟩
  | leaves =>
      have hcall := h.late (Or.inl rfl)
      exact Or.inr ⟨_, h.goto rfl rfl rfl rfl (fun _ => hcall) fun _ => rfl⟩
  | ends =>
      have hcall := h.late (Or.inr rfl)
      refine Or.inl ⟨?_, h.stream (Or.inr rfl), ?_, fun _ => rfl⟩
      · change s.threads.eraseIdx 0 = []
        rw [h.threads, List.eraseIdx_cons_zero]
      · change s.call ≠ .started
        rw [hcall]
        exact nofun

/-- What a step of the machine is. -/
theorem step_some (ht : step cfg command s e = some t) :
    s.failure = none ∧ act cfg command s e = some t :=
  Option.ite_none_right_eq_some.mp ht

/-- Without a thread only the calls and the main thread do anything. -/
theorem Resting.inStep (h : Resting s) (ht : act cfg command s e = some t) :
    InStep t := by
  cases e with
  | start =>
      obtain ⟨-, ht⟩ := Option.ite_none_right_eq_some.mp ht
      obtain rfl := Option.some.inj ht
      refine Or.inr ⟨.waiting, ?_, rfl, nofun, by simp [onStart], by simp,
        fun _ => h.stream⟩
      change s.threads ++ [.waiting] = [.waiting]
      rw [h.threads, List.nil_append]
  | stop =>
      obtain ⟨hcall, -⟩ := Option.ite_none_right_eq_some.mp ht
      exact absurd hcall h.call
  | returns =>
      obtain ⟨-, ht⟩ := Option.ite_none_right_eq_some.mp ht
      obtain rfl := Option.some.inj ht
      exact Or.inl ⟨h.threads, h.stream, nofun, nofun⟩
  | pause =>
      obtain rfl := Option.some.inj ht
      exact Or.inl ⟨h.threads, h.stream, h.call, h.stopped⟩
  | resume =>
      obtain rfl := Option.some.inj ht
      exact Or.inl ⟨h.threads, h.stream, h.call, h.stopped⟩
  | thread n answer =>
      rw [act, h.threads] at ht
      cases ht
  | sendingData =>
      obtain ⟨d, rest, -, rfl⟩ := sendingData_some ht
      exact Or.inl ⟨h.threads, h.stream, h.call, h.stopped⟩

theorem Working.inStep_act (h : Working p s)
    (ht : act cfg command s e = some t) : InStep t := by
  cases e with
  | start =>
      obtain ⟨hidle, -⟩ := Option.ite_none_right_eq_some.mp ht
      exact absurd hidle h.call
  | stop =>
      obtain ⟨-, ht⟩ := Option.ite_none_right_eq_some.mp ht
      obtain rfl := Option.some.inj ht
      exact Or.inr ⟨p, h.threads, h.flag, nofun, ⟨fun _ => rfl, fun _ => rfl⟩,
        fun _ => rfl, h.stream⟩
  | returns =>
      obtain ⟨⟨-, hflag⟩, -⟩ := Option.ite_none_right_eq_some.mp ht
      rw [h.flag] at hflag
      cases hflag
  | pause =>
      obtain rfl := Option.some.inj ht
      exact Or.inr ⟨p, h.threads, h.flag, h.call, h.stop, h.late, h.stream⟩
  | resume =>
      obtain rfl := Option.some.inj ht
      exact Or.inr ⟨p, h.threads, h.flag, h.call, h.stop, h.late, h.stream⟩
  | thread n answer =>
      obtain ⟨q, hq⟩ := h.advance ht
      exact h.inStep hq
  | sendingData =>
      obtain ⟨d, rest, -, rfl⟩ := sendingData_some ht
      exact Or.inr ⟨p, h.threads, h.flag, h.call, h.stop, h.late, h.stream⟩

theorem InStep.step (h : InStep s) (ht : step cfg command s e = some t) :
    InStep t := by
  rcases h with h | ⟨p, h⟩
  · exact h.inStep (step_some ht).2
  · exact h.inStep_act (step_some ht).2

/-- The thread is not entered while a process is open. -/
theorem InStep.failure (h : InStep s)
    (ht : Microphone.step cfg command s e = some t) :
    t.failure ≠ some .exception := by
  obtain ⟨hnone, ht⟩ := step_some ht
  have hsame : t.failure = s.failure → t.failure ≠ some .exception := by
    intro hsame
    rw [hsame, hnone]
    exact nofun
  cases e with
  | thread n answer =>
      rcases h with h | ⟨p, h⟩
      · rw [act, h.threads] at ht
        cases ht
      · obtain ⟨q, hq⟩ := h.advance ht
        cases hq with
        | opens =>
            apply hsame
            rcases popen_eq command answer.opens s with hpopen | ⟨-, hpopen⟩
            · rw [hpopen]; rfl
            · rw [hpopen]; rfl
        | fails => exact nofun
        | _ => exact hsame rfl
  | sendingData =>
      obtain ⟨d, rest, -, rfl⟩ := sendingData_some ht
      exact hsame rfl
  | pause =>
      obtain rfl := Option.some.inj ht
      exact hsame rfl
  | resume =>
      obtain rfl := Option.some.inj ht
      exact hsame rfl
  | _ =>
      obtain ⟨-, ht⟩ := Option.ite_none_right_eq_some.mp ht
      obtain rfl := Option.some.inj ht
      exact hsame rfl

/-! ## The processes and the sound -/

/-- Each process runs the command and, but for the one that is open, has been
closed once, in the order of their opening; what has been read is sent once and
in order, in pieces of the size of the buffer at most. -/
structure Booked (cfg : Config) (command : String) (s : Microphone) :
    Prop where
  processes : s.closed ++ s.m_Stream.toList = List.range s.opened.length
  commands : ∀ c ∈ s.opened, c = command
  sound : ((s.sent ++ s.queue).map AudioData.m_Data).flatten = s.heard
  pieces : ∀ d ∈ s.sent ++ s.queue, ∃ buffer, buffer ≠ [] ∧
    buffer.length ≤ 4000 ∧
      d = ⟨buffer, cfg.m_RecordingHZ, 1, cfg.m_RecordingBits⟩

theorem booked_new : Booked cfg command {} where
  processes := rfl
  commands := nofun
  sound := rfl
  pieces := nofun

theorem Booked.popen (h : Booked cfg command s) (ok : Bool) :
    Booked cfg command (popen command ok s) := by
  rcases popen_eq command ok s with hpopen | ⟨hnone, hpopen⟩
  · rw [hpopen]
    exact h
  · rw [hpopen]
    refine ⟨?_, fun c hc => ?_, h.sound, h.pieces⟩
    · have hclosed : s.closed = List.range s.opened.length := by
        simpa [hnone] using h.processes
      simp [hclosed, List.range_succ]
    · rcases List.mem_append.mp hc with hc | hc
      · exact h.commands c hc
      · exact List.mem_singleton.mp hc

theorem Booked.pclose (h : Booked cfg command s) :
    Booked cfg command (pclose s) where
  processes := by
    change s.closed ++ s.m_Stream.toList ++ [] = _
    rw [List.append_nil, h.processes]
    rfl
  commands := h.commands
  sound := h.sound
  pieces := h.pieces

theorem Booked.fread (h : Booked cfg command s) (output : List UInt8) :
    Booked cfg command (fread cfg output s) := by
  by_cases hnil : output.take 4000 = []
  · simp only [Microphone.fread, hnil, if_true, List.append_nil]
    exact ⟨h.processes, h.commands, h.sound, h.pieces⟩
  · simp only [Microphone.fread, if_neg hnil]
    refine ⟨h.processes, h.commands, ?_, fun d hd => ?_⟩
    · change ((s.sent ++ (s.queue ++ [_])).map AudioData.m_Data).flatten = _
      rw [← List.append_assoc, List.map_append, List.flatten_append, h.sound]
      simp
    · change d ∈ s.sent ++ (s.queue ++ [_]) at hd
      rw [← List.append_assoc, List.mem_append] at hd
      rcases hd with hd | hd
      · exact h.pieces d hd
      · exact ⟨_, hnil, List.length_take_le 4000 output,
          List.mem_singleton.mp hd⟩

theorem Booked.receiveData (h : Booked cfg command s) (n : ℕ)
    (answer : Answer) (p : Phase) :
    Booked cfg command (receiveData cfg command n answer s p) := by
  have hgoto : ∀ {u : Microphone} (q : Phase), Booked cfg command u →
      Booked cfg command (Microphone.goto n q u) :=
    fun q hu => ⟨hu.processes, hu.commands, hu.sound, hu.pieces⟩
  cases p with
  | waiting =>
      rw [Microphone.receiveData]
      split
      · exact hgoto _ h
      · exact ⟨h.processes, h.commands, h.sound, h.pieces⟩
  | opening => exact hgoto _ (h.popen answer.opens)
  | reading =>
      rw [Microphone.receiveData]
      split
      · exact ⟨h.processes, h.commands, h.sound, h.pieces⟩
      · exact hgoto _ (h.fread answer.output)
  | closing => exact hgoto _ h.pclose
  | leaving => exact hgoto _ h.pclose
  | ending => exact ⟨h.processes, h.commands, h.sound, h.pieces⟩
  | _ => exact hgoto _ h

theorem Booked.step (h : Booked cfg command s)
    (ht : step cfg command s e = some t) : Booked cfg command t := by
  have hact := (step_some ht).2
  cases e with
  | thread n answer =>
      obtain ⟨p, -, rfl⟩ := Option.map_eq_some_iff.mp hact
      exact h.receiveData n answer p
  | sendingData =>
      obtain ⟨d, rest, hqueue, rfl⟩ := sendingData_some hact
      have hsame : s.sent ++ [d] ++ rest = s.sent ++ s.queue := by
        rw [hqueue, List.append_assoc, List.singleton_append]
      refine ⟨h.processes, h.commands, ?_, ?_⟩
      · change ((s.sent ++ [d] ++ rest).map _).flatten = s.heard
        rw [hsame, h.sound]
      · change ∀ d' ∈ s.sent ++ [d] ++ rest, _
        rw [hsame]
        exact h.pieces
  | pause =>
      obtain rfl := Option.some.inj hact
      exact ⟨h.processes, h.commands, h.sound, h.pieces⟩
  | resume =>
      obtain rfl := Option.some.inj hact
      exact ⟨h.processes, h.commands, h.sound, h.pieces⟩
  | _ =>
      obtain ⟨-, hact⟩ := Option.ite_none_right_eq_some.mp hact
      obtain rfl := Option.some.inj hact
      exact ⟨h.processes, h.commands, h.sound, h.pieces⟩

end Microphone

open Recorder.Microphone

/-! ## All runs -/

/-- There is one thread at most, which is never entered while a process is open,
and when `OnStop` has returned there is neither a thread nor a process. -/
structure Kept (cfg : Config) (command : String) (s : Microphone) : Prop
    extends Booked cfg command s where
  one : s.threads.length ≤ 1
  entered : s.failure ≠ some .exception
  idle : s.call = .idle → s.threads = [] ∧ s.m_Stream = none

section Runs

variable {cfg : Config} {command : String} {s t : Microphone} {e : Event}
  {p : Phase} {answer : Answer} {es : List Event}

theorem kept_of_inStep (hbook : Booked cfg command s) (h : InStep s)
    (hfail : s.failure ≠ some .exception) : Kept cfg command s := by
  refine ⟨hbook, ?_, hfail, ?_⟩
  · rcases h with h | ⟨p, h⟩
    · simp [h.threads]
    · simp [h.threads]
  · intro hidle
    rcases h with h | ⟨p, h⟩
    · exact ⟨h.threads, h.stream⟩
    · exact absurd hidle h.call

/-- Whatever order the calls, the thread and the main thread take their steps
in. -/
theorem recording_throughout (cfg : Config) (command : String)
    (es : List Event) :
    Throughout (step cfg command) (Kept cfg command) {} es := by
  have hall : Throughout (step cfg command) (fun s => InStep s ∧
      Booked cfg command s ∧ s.failure ≠ some .exception) {} es := by
    refine throughout_of_eachStep (C := fun _ _ => True) ?_
      ⟨Or.inl resting_new, booked_new, nofun⟩ (eachStep_true _ es)
    rintro s e t ⟨hstep, hbook, -⟩ - ht
    exact ⟨hstep.step ht, hbook.step ht, hstep.failure ht⟩
  exact hall.mono fun s hs => kept_of_inStep hs.2.1 hs.1 hs.2.2

theorem inStep_of_reaches (h : Reaches (step cfg command) {} s) : InStep s :=
  invariant_of_reaches (fun _ _ _ hs => hs.step) (Or.inl resting_new) h

/-! ## The end of `OnStop` -/

def Event.isThread : Event → Bool
  | .thread _ _ => true
  | _ => false

/-- The steps a thread has to take once `m_StopThread` is set. -/
def Phase.work : Phase → ℕ
  | .waiting => 4
  | .checking => 3
  | .deciding => 6
  | .opening => 5
  | .reading => 4
  | .closing => 4
  | .leaving => 2
  | .ending => 1

/-- A weight of the place the thread is at. -/
def Microphone.weigh (w : Phase → ℕ) (s : Microphone) : ℕ :=
  match s.threads.head? with
  | none => 0
  | some p => w p

theorem weigh_goto (h : s.threads = [p]) (w : Phase → ℕ) (q : Phase) :
    (goto 0 q s).weigh w = w q := by
  rw [Microphone.weigh, goto, h, List.set_cons_zero, List.head?_cons]

theorem Microphone.Working.weigh_eq (h : Working p s) (w : Phase → ℕ) :
    s.weigh w = w p := by
  rw [Microphone.weigh, h.threads, List.head?_cons]

theorem Microphone.Resting.weigh_eq (h : Resting s) (w : Phase → ℕ) :
    s.weigh w = 0 := by
  rw [Microphone.weigh, h.threads, List.head?_nil]

theorem weigh_le {w : Phase → ℕ} {n : ℕ} (hle : ∀ p, w p ≤ n)
    (s : Microphone) : s.weigh w ≤ n := by
  unfold Microphone.weigh
  split
  · exact Nat.zero_le n
  · exact hle _

theorem weigh_mono {v w : Phase → ℕ} (n : ℕ) (hle : ∀ p, v p ≤ w p + n)
    (s : Microphone) : s.weigh v ≤ s.weigh w + n := by
  unfold Microphone.weigh
  split
  · exact Nat.zero_le _
  · exact hle _

def Microphone.work (s : Microphone) : ℕ := s.weigh Phase.work

theorem Phase.work_le (p : Phase) : p.work ≤ 6 := by
  cases p <;> decide

theorem Microphone.work_le (s : Microphone) : s.work ≤ 6 :=
  weigh_le Phase.work_le s

/-- `OnStop` waits, and its thread comes nearer to the end. -/
theorem Microphone.Working.work_advance {q : Option Phase} (h : Working p s)
    (hcall : s.call = .stopping) (hadvance : Advance cfg command answer s p q t)
    (hfail : t.failure = none) : t.work + 1 ≤ s.work := by
  have hgo : ∀ {u : Microphone} {r : Phase}, u.threads = s.threads →
      r.work + 1 ≤ p.work → (Microphone.goto 0 r u).work + 1 ≤ s.work := by
    intro u r hthreads hle
    rw [Microphone.work, Microphone.work, h.weigh_eq,
      weigh_goto (hthreads.trans h.threads)]
    exact hle
  cases hadvance with
  | goesOn hgoes => exact absurd (h.stop.mpr hcall) (by rw [hgoes]; exact nofun)
  | opens =>
      refine hgo ?_ (by decide)
      rcases popen_eq command answer.opens s with hpopen | ⟨-, hpopen⟩
      · rw [hpopen]
      · rw [hpopen]
  | fails => cases hfail
  | ends =>
      rw [Microphone.work, Microphone.work, h.weigh_eq]
      simp [Microphone.weigh, h.threads, Phase.work]
  | _ => exact hgo rfl (by decide)

/-- While `OnStop` waits, its thread takes six steps at most, and as long as
`OnStop` cannot return the thread can take one, unless it has failed. -/
def OnStopEnds (step : Microphone → Event → Option Microphone)
    (s : Microphone) : Prop :=
  s.call = .stopping → ∀ es t, (∀ e ∈ es, e ≠ .returns) →
    run step s es = some t → t.failure = none →
      es.countP Event.isThread ≤ 6 ∧
        (t.m_ThreadStopped = true ∨
          ∀ answer, (step t (.thread 0 answer)).isSome = true)

/-- While `OnStop` waits, only the thread and the main thread do anything. -/
theorem stopping_step (h : InStep s) (hcall : s.call = .stopping)
    (he : e ≠ .returns) (ht : step cfg command s e = some t) :
    t.call = .stopping ∧
      (t.failure = none → t.work + e.isThread.toNat ≤ s.work) := by
  have hact := (step_some ht).2
  cases e with
  | start =>
      obtain ⟨hidle, -⟩ := Option.ite_none_right_eq_some.mp hact
      rw [hcall] at hidle
      cases hidle
  | stop =>
      obtain ⟨hstarted, -⟩ := Option.ite_none_right_eq_some.mp hact
      rw [hcall] at hstarted
      cases hstarted
  | returns => exact absurd rfl he
  | pause =>
      obtain rfl := Option.some.inj hact
      exact ⟨hcall, fun _ => Nat.le_refl _⟩
  | resume =>
      obtain rfl := Option.some.inj hact
      exact ⟨hcall, fun _ => Nat.le_refl _⟩
  | sendingData =>
      obtain ⟨d, rest, -, rfl⟩ := sendingData_some hact
      exact ⟨hcall, fun _ => Nat.le_refl _⟩
  | thread n answer =>
      rcases h with h | ⟨p, h⟩
      · rw [act, h.threads] at hact
        cases hact
      · obtain ⟨q, hq⟩ := h.advance hact
        refine ⟨?_, h.work_advance hcall hq⟩
        cases hq with
        | opens =>
            rcases popen_eq command answer.opens s with hpopen | ⟨-, hpopen⟩
            · rw [hpopen]
              exact hcall
            · rw [hpopen]
              exact hcall
        | _ => exact hcall

/-- A run that ends without a failure has had none. -/
theorem eachStep_failure (hrun : run (step cfg command) s es = some t)
    (hfail : t.failure = none) :
    EachStep (step cfg command) (fun s e =>
      ∀ u, step cfg command s e = some u → u.failure = none) s es := by
  induction es generalizing s with
  | nil => trivial
  | cons e es ih =>
      intro u hu
      rw [run_cons, hu, Option.bind_some] at hrun
      refine ⟨fun v hv => ?_, ih hrun⟩
      obtain rfl : u = v := Option.some.inj (hu.symm.trans hv)
      cases es with
      | nil =>
          obtain rfl := Option.some.inj hrun
          exact hfail
      | cons f fs =>
          rw [run_cons] at hrun
          obtain ⟨w, hw, -⟩ := Option.bind_eq_some_iff.mp hrun
          exact (step_some hw).1

/-- `OnStop` comes to an end in any state that can be reached. -/
theorem onStop_ends (h : Reaches (step cfg command) {} s) :
    OnStopEnds (step cfg command) s := by
  intro hcall es t hreturns hrun hfail
  have hin := inStep_of_reaches h
  have hboth := eachStep_and (eachStep_of_forall_mem hreturns)
    (eachStep_failure hrun hfail)
  have hend : InStep t ∧ t.call = .stopping := by
    refine invariant_of_eachStep
      (I := fun s => InStep s ∧ s.call = .stopping) ?_ ⟨hin, hcall⟩ hboth hrun
    rintro s e t ⟨hs, hcall⟩ ⟨he, -⟩ ht
    exact ⟨hs.step ht, (stopping_step hs hcall he ht).1⟩
  have hwork : t.work + total (fun e => e.isThread.toNat) es ≤
      s.work + total (fun _ => 0) es := by
    refine amortised_of_eachStep
      (I := fun s => InStep s ∧ s.call = .stopping) ?_ ?_ ⟨hin, hcall⟩
      hboth hrun
    · rintro s e t ⟨hs, hcall⟩ ⟨he, -⟩ ht
      exact ⟨hs.step ht, (stopping_step hs hcall he ht).1⟩
    · rintro s e t ⟨hs, hcall⟩ ⟨he, hnone⟩ ht
      exact (stopping_step hs hcall he ht).2 (hnone t ht)
  refine ⟨?_, ?_⟩
  · rw [total_toNat, total_zero] at hwork
    have hle := s.work_le
    omega
  · rcases hend.1 with hrest | ⟨p, hworking⟩
    · exact Or.inl (hrest.stopped hend.2)
    · refine Or.inr fun answer => ?_
      simp [step, hfail, act, hworking.threads]

/-- The thread has passed its test of `m_StopThread` when `OnStop` is
called. -/
theorem onStop_ends_late :
    OnStopEnds (step {} "arecord")
      { m_StopThread := true, threads := [.deciding], call := .stopping } :=
  onStop_ends ⟨[.start, .thread 0 {}, .thread 0 {}, .stop], rfl⟩

/-! ## Pauses -/

def Event.isStart : Event → Bool
  | .start => true
  | _ => false

def Event.isPause : Event → Bool
  | .pause => true
  | _ => false

/-- The processes that a thread at `p` may yet open without a further pause. -/
def creditAt (s : Microphone) (p : Phase) : ℕ :=
  if p = .leaving ∨ p = .ending then 0
  else if s.m_Stream = none then
    if p = .opening ∧ 0 < s.m_Paused then 2 else 1
  else if p = .closing ∨ 0 < s.m_Paused then 1 else 0

def Microphone.credit (s : Microphone) : ℕ := s.weigh (creditAt s)

theorem credit_goto (h : s.threads = [p]) (q : Phase) :
    (goto 0 q s).credit = creditAt s q :=
  weigh_goto h _ q

@[simp] theorem goto_opened (n : ℕ) (q : Phase) :
    (goto n q s).opened = s.opened := rfl

/-- A step of the thread is paid for by what the thread has been credited. -/
theorem Microphone.Working.credit_advance {q : Option Phase}
    (h : Working p s) (hadvance : Advance cfg command answer s p q t) :
    t.opened.length + t.credit ≤ s.opened.length + s.credit := by
  have hthreads := h.threads
  rw [Microphone.credit, Microphone.credit, h.weigh_eq]
  change t.opened.length + t.credit ≤ _
  cases hadvance with
  | enter hnone =>
      rw [credit_goto hthreads]
      simp [creditAt, hnone]
  | stopped =>
      rw [credit_goto hthreads]
      simp [creditAt]
  | goesOn =>
      rw [credit_goto hthreads]
      simp [creditAt]
  | records hle =>
      rw [credit_goto hthreads]
      simp [creditAt, Int.not_lt.mpr hle]
  | pauses hlt =>
      rw [credit_goto hthreads]
      simp [creditAt, hlt]
  | opens =>
      rcases popen_eq command answer.opens s with hpopen | ⟨hnone, hpopen⟩
      · rw [hpopen, credit_goto hthreads, goto_opened]
        refine Nat.add_le_add_left ?_ _
        by_cases hnone : s.m_Stream = none
        · by_cases hlt : 0 < s.m_Paused <;> simp [creditAt, hnone, hlt]
        · simp [creditAt, hnone]
      · have hopened : (popen command answer.opens s).threads = [.opening] := by
          rw [hpopen]
          exact hthreads
        rw [credit_goto hopened, goto_opened, hpopen]
        by_cases hlt : 0 < s.m_Paused
        · simp [creditAt, hnone, hlt]
        · simp [creditAt, hnone, hlt]
  | reads hopen =>
      have hread : (fread cfg answer.output s).threads = [.reading] := hthreads
      rw [credit_goto hread]
      simp [creditAt, fread]
  | fails =>
      rw [Microphone.credit, Microphone.weigh, hthreads, List.head?_cons]
      exact Nat.le_refl _
  | closes =>
      have hclosed : (pclose s).threads = [.closing] := hthreads
      rw [credit_goto hclosed]
      simp [creditAt, pclose]
  | leaves =>
      have hclosed : (pclose s).threads = [.leaving] := hthreads
      rw [credit_goto hclosed]
      simp [creditAt, pclose]
  | ends =>
      simp [Microphone.credit, Microphone.weigh, hthreads]

/-- What a start and a pause are credited with. -/
def Event.cost (e : Event) : ℕ := e.isStart.toNat + e.isPause.toNat

theorem creditAt_pause (s : Microphone) (p : Phase) :
    creditAt (onPause s) p ≤ creditAt s p + 1 := by
  grind [creditAt, onPause]

theorem creditAt_resume (s : Microphone) (p : Phase) :
    creditAt (onResume s) p ≤ creditAt s p := by
  grind [creditAt, onResume]

theorem credit_step (h : InStep s) (ht : step cfg command s e = some t) :
    t.opened.length + t.credit ≤ s.opened.length + s.credit + e.cost := by
  have hact := (step_some ht).2
  cases e with
  | start =>
      obtain ⟨hidle, hact⟩ := Option.ite_none_right_eq_some.mp hact
      obtain rfl := Option.some.inj hact
      rcases h with h | ⟨p, h⟩
      · simp [Microphone.credit, Microphone.weigh, onStart, h.threads,
          h.stream, creditAt, Event.cost, Event.isStart]
      · exact absurd hidle h.call
  | stop =>
      obtain ⟨-, hact⟩ := Option.ite_none_right_eq_some.mp hact
      obtain rfl := Option.some.inj hact
      exact Nat.le_refl _
  | returns =>
      obtain ⟨-, hact⟩ := Option.ite_none_right_eq_some.mp hact
      obtain rfl := Option.some.inj hact
      exact Nat.le_refl _
  | pause =>
      obtain rfl := Option.some.inj hact
      have hcost : Event.cost .pause = 1 := rfl
      change s.opened.length + (onPause s).credit ≤ _
      rw [hcost, Nat.add_assoc]
      exact Nat.add_le_add_left (weigh_mono 1 (creditAt_pause s) s) _
  | resume =>
      obtain rfl := Option.some.inj hact
      exact Nat.add_le_add_left (weigh_mono 0 (creditAt_resume s) s) _
  | thread n answer =>
      rcases h with h | ⟨p, h⟩
      · rw [act, h.threads] at hact
        cases hact
      · obtain ⟨q, hq⟩ := h.advance hact
        exact h.credit_advance hq
  | sendingData =>
      obtain ⟨d, rest, -, rfl⟩ := sendingData_some hact
      exact Nat.le_refl _

/-- A process is opened for a start or after a pause, and one for each at most:
when the process ends by itself, no other is opened. -/
theorem opened_le (hrun : run (step cfg command) {} es = some s) :
    s.opened.length ≤ es.countP Event.isStart + es.countP Event.isPause := by
  have hcredit := amortised
    (f := fun s : Microphone => s.opened.length + s.credit)
    (g := fun _ => 0) (fun s e t hs => hs.step)
    (fun s e t hs ht => credit_step hs ht) (Or.inl resting_new) hrun
  rw [total_zero] at hcredit
  unfold Event.cost at hcredit
  rw [total_add, total_toNat, total_toNat] at hcredit
  have hnew : Microphone.credit {} = 0 := rfl
  simp only [hnew, List.length_nil] at hcredit
  omega

/-- A start, a pause and its end: the process has been opened twice. -/
theorem opened_le_twice :
    (["arecord", "arecord"] : List String).length ≤ 1 + 1 := by
  have hrun : (run (step {} "arecord") {}
      ([.start] ++ List.replicate 6 (.thread 0 {}) ++ [.pause] ++
        List.replicate 2 (.thread 0 {}) ++ [.resume] ++
        List.replicate 3 (.thread 0 {}))).map (fun s => s.opened) =
      some ["arecord", "arecord"] := rfl
  obtain ⟨s, hs, hopened⟩ := Option.map_eq_some_iff.mp hrun
  have hle := opened_le hs
  rw [hopened] at hle
  exact hle

/-- The steps a thread at `p` takes until it has closed its process, while the
microphone is paused. -/
def shutIn (s : Microphone) (p : Phase) : ℕ :=
  if s.m_Stream = none ∧ p ≠ .opening then 0
  else
    match p with
    | .opening => 5
    | .reading => 4
    | .checking => 3
    | .deciding => 2
    | .closing => 1
    | .leaving => 1
    | .waiting => 0
    | .ending => 0

theorem shutIn_le (s : Microphone) (p : Phase) : shutIn s p ≤ 5 := by
  unfold shutIn
  split
  · exact Nat.zero_le 5
  · split <;> decide

theorem Microphone.Working.stream_of_shutIn (h : Working p s)
    (hzero : shutIn s p = 0) : s.m_Stream = none := by
  by_contra hopen
  have hlate : p ≠ .waiting ∧ p ≠ .ending :=
    ⟨fun hp => hopen (h.stream (Or.inl hp)),
      fun hp => hopen (h.stream (Or.inr hp))⟩
  rw [shutIn.eq_def, if_neg fun hnone => hopen hnone.1] at hzero
  cases p <;> simp at hzero hlate

/-- What a thread that is paused may yet read, and open. -/
def Phase.unread : Phase → ℕ
  | .opening | .reading => 4000
  | _ => 0

def Phase.unopened : Phase → ℕ
  | .opening => 1
  | _ => 0

/-- What a step from `s` to `t` keeps of these three while the microphone is
paused; `n` is the number of steps of the thread. -/
structure Subsides (n : ℕ) (s t : Microphone) : Prop where
  shut : t.weigh (shutIn t) ≤ s.weigh (shutIn s) - n
  heard : t.heard.length + t.weigh Phase.unread ≤
    s.heard.length + s.weigh Phase.unread
  opened : t.opened.length + t.weigh Phase.unopened ≤
    s.opened.length + s.weigh Phase.unopened

/-- The thread goes on from `p` to `q`. -/
theorem Microphone.Working.subsides_goto {u : Microphone} (h : Working p s)
    (hthreads : u.threads = s.threads) (hshut : shutIn u q ≤ shutIn s p - 1)
    (hheard : u.heard.length + q.unread ≤ s.heard.length + p.unread)
    (hopened : u.opened.length + q.unopened ≤
      s.opened.length + p.unopened) :
    Subsides 1 s (Microphone.goto 0 q u) := by
  have hu := hthreads.trans h.threads
  constructor
  · rw [weigh_goto hu, h.weigh_eq]
    exact hshut
  · rw [weigh_goto hu, h.weigh_eq]
    exact hheard
  · rw [weigh_goto hu, h.weigh_eq]
    exact hopened

theorem Microphone.Working.subsides {r : Option Phase} (h : Working p s)
    (hadvance : Advance cfg command answer s p r t)
    (hpaused : 0 < s.m_Paused) : Subsides 1 s t := by
  cases hadvance with
  | enter hnone =>
      refine h.subsides_goto rfl ?_ (Nat.le_refl _) (Nat.le_refl _)
      simp [shutIn, hnone]
  | stopped =>
      refine h.subsides_goto rfl ?_ (Nat.le_refl _) (Nat.le_refl _)
      by_cases hnone : s.m_Stream = none <;> simp [shutIn, hnone]
  | goesOn =>
      refine h.subsides_goto rfl ?_ (Nat.le_refl _) (Nat.le_refl _)
      by_cases hnone : s.m_Stream = none <;> simp [shutIn, hnone]
  | records hle => exact absurd hpaused (Int.not_lt.mpr hle)
  | pauses =>
      refine h.subsides_goto rfl ?_ (Nat.le_refl _) (Nat.le_refl _)
      by_cases hnone : s.m_Stream = none <;> simp [shutIn, hnone]
  | opens =>
      rcases popen_eq command answer.opens s with hpopen | ⟨hnone, hpopen⟩
      · rw [hpopen]
        refine h.subsides_goto rfl ?_ (Nat.le_refl _) (Nat.le_add_right _ _)
        by_cases hnone : s.m_Stream = none <;> simp [shutIn, hnone]
      · rw [hpopen]
        refine h.subsides_goto rfl ?_ (Nat.le_refl _) ?_
        · simp [shutIn]
        · simp [Phase.unopened]
  | reads hopen =>
      refine h.subsides_goto rfl ?_ ?_ (Nat.le_refl _)
      · simp [shutIn, fread, hopen]
      · have hlen := List.length_take_le 4000 answer.output
        simp only [fread, List.length_append, Phase.unread]
        omega
  | fails hnone =>
      refine ⟨?_, Nat.le_refl _, Nat.le_refl _⟩
      change s.weigh (shutIn s) ≤ _
      rw [h.weigh_eq]
      simp [shutIn, hnone]
  | closes =>
      refine h.subsides_goto rfl ?_ (Nat.le_refl _) (Nat.le_refl _)
      simp [shutIn, pclose]
  | leaves =>
      refine h.subsides_goto rfl ?_ (Nat.le_refl _) (Nat.le_refl _)
      simp [shutIn, pclose]
  | ends =>
      have hnil : ∀ w : Phase → ℕ, Microphone.weigh w
          { s with
            m_ThreadStopped := true
            threads := s.threads.eraseIdx 0 } = 0 := by
        intro w
        simp [Microphone.weigh, h.threads]
      refine ⟨?_, ?_, ?_⟩
      · rw [hnil]
        exact Nat.zero_le _
      · rw [hnil]
        exact Nat.le_add_right _ _
      · rw [hnil]
        exact Nat.le_add_right _ _

theorem subsides_step (h : InStep s) (hpaused : 0 < s.m_Paused)
    (ht : step cfg command s e = some t) :
    Subsides e.isThread.toNat s t := by
  have hact := (step_some ht).2
  cases e with
  | start =>
      obtain ⟨hidle, hact⟩ := Option.ite_none_right_eq_some.mp hact
      obtain rfl := Option.some.inj hact
      rcases h with h | ⟨p, h⟩
      · constructor
        · simp [Microphone.weigh, onStart, h.threads, h.stream, shutIn]
        · simp [Microphone.weigh, onStart, h.threads, Phase.unread]
        · simp [Microphone.weigh, onStart, h.threads, Phase.unopened]
      · exact absurd hidle h.call
  | thread n answer =>
      rcases h with h | ⟨p, h⟩
      · rw [act, h.threads] at hact
        cases hact
      · obtain ⟨q, hq⟩ := h.advance hact
        exact h.subsides hq hpaused
  | sendingData =>
      obtain ⟨d, rest, -, rfl⟩ := sendingData_some hact
      exact ⟨Nat.le_refl _, Nat.le_refl _, Nat.le_refl _⟩
  | pause =>
      obtain rfl := Option.some.inj hact
      exact ⟨Nat.le_refl _, Nat.le_refl _, Nat.le_refl _⟩
  | resume =>
      obtain rfl := Option.some.inj hact
      exact ⟨Nat.le_refl _, Nat.le_refl _, Nat.le_refl _⟩
  | _ =>
      obtain ⟨-, hact⟩ := Option.ite_none_right_eq_some.mp hact
      obtain rfl := Option.some.inj hact
      exact ⟨Nat.le_refl _, Nat.le_refl _, Nat.le_refl _⟩

/-- The microphone is paused before each step. -/
def StaysPaused (s : Microphone) (_ : Event) : Prop := 0 < s.m_Paused

instance (s : Microphone) (e : Event) : Decidable (StaysPaused s e) :=
  inferInstanceAs (Decidable (0 < s.m_Paused))

/-- While the microphone stays paused, it reads one buffer at most and opens one
process at most, both for a pause that comes when the thread has found it
unpaused; after five steps of the thread no process is open. -/
theorem paused (h : Reaches (step cfg command) {} s)
    (hpaused : EachStep (step cfg command) StaysPaused s es)
    (hrun : run (step cfg command) s es = some t) :
    t.heard.length ≤ s.heard.length + 4000 ∧
      t.opened.length ≤ s.opened.length + 1 ∧
      (5 ≤ es.countP Event.isThread → t.m_Stream = none) := by
  have hin := inStep_of_reaches h
  have hkeep : ∀ s e t, InStep s → StaysPaused s e →
      step cfg command s e = some t → InStep t :=
    fun s e t hs _ ht => hs.step ht
  have hheard := amortised_of_eachStep (g := fun _ => 0)
    (c := fun _ => 0)
    (f := fun s : Microphone => s.heard.length + s.weigh Phase.unread)
    hkeep (fun s e t hs hp ht => (subsides_step hs hp ht).heard) hin hpaused
    hrun
  have hopened := amortised_of_eachStep (g := fun _ => 0)
    (c := fun _ => 0)
    (f := fun s : Microphone =>
      s.opened.length + s.weigh Phase.unopened)
    hkeep (fun s e t hs hp ht => (subsides_step hs hp ht).opened) hin hpaused
    hrun
  have hshut := countdown_of_eachStep
    (f := fun s : Microphone => s.weigh (shutIn s)) hkeep
    (fun s e t hs hp ht => (subsides_step hs hp ht).shut) hin hpaused hrun
  simp only [total_zero, total_toNat, Nat.add_zero] at hheard hopened hshut
  have hunread : s.weigh Phase.unread ≤ 4000 :=
    weigh_le (fun p => by cases p <;> decide) s
  have hunopened : s.weigh Phase.unopened ≤ 1 :=
    weigh_le (fun p => by cases p <;> decide) s
  have hfive : s.weigh (shutIn s) ≤ 5 := weigh_le (shutIn_le s) s
  refine ⟨?_, ?_, fun hsteps => ?_⟩
  · omega
  · omega
  · have hzero : t.weigh (shutIn t) = 0 := by omega
    rcases invariant_of_eachStep hkeep hin hpaused hrun with h | ⟨p, h⟩
    · exact h.stream
    · rw [h.weigh_eq] at hzero
      exact h.stream_of_shutIn hzero

/-- A pause that comes when the thread is about to open the process: the
process is opened, read once and closed. -/
theorem paused_late :
    let s : Microphone :=
      { m_Paused := 1, call := .started, threads := [.opening] }
    let t : Microphone :=
      { m_Paused := 1, call := .started, threads := [.checking],
        opened := ["arecord"], closed := [0], heard := [7],
        queue := [⟨[7], 16000, 1, 16⟩] }
    t.heard.length ≤ s.heard.length + 4000 ∧
      t.opened.length ≤ s.opened.length + 1 ∧ t.m_Stream = none := by
  intro s t
  have hreach : Reaches (step {} "arecord") {} s :=
    ⟨[.start, .thread 0 {}, .thread 0 {}, .thread 0 {}, .pause], rfl⟩
  have hpaused : EachStep (step {} "arecord") StaysPaused s
      (List.replicate 5 (.thread 0 { output := [7] })) := by decide
  have h := paused hreach hpaused (t := t) rfl
  exact ⟨h.1, h.2.1, h.2.2 (by decide)⟩

end Runs

end SelfPlugins.Recorder
