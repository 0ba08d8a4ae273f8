import Mathlib.Data.Int.Notation
import Mathlib.Data.Nat.Notation
import SelfPlugins.Library.Runs

/-!
# The microphone of Windows

`WinMicrophone` captures sound in a thread of the pool.  `OnStop` and the
destructor clear `m_CaptureAudio`, at which the thread leaves its loop, and wait
for `m_CaptureStopped`.  The thread sets that flag where it returns, but most of
the calls of the capture device throw where they fail, and so does
`shared_from_this` once the destructor has been entered.  The thread owns the
microphone while it passes on a block, so that the destructor may run in it.

The result of `QueryInterface` is not tested.  It is taken to succeed, so that
`pDSSN` is not null where `SetNotificationPositions` is called.

`stoppable_iff` says in which runs the waits come to an end and a later
`OnStart` starts a new capture.
-/

namespace SelfPlugins.SoundCapture

open Runs

/-- The format of the recording, and whether a queued call of `SendAudio` owns
the microphone, which depends on the delegates. -/
structure Config where
  m_RecordingHZ : ℕ := 16000
  m_RecordingChannels : ℕ := 1
  m_RecordingBits : ℕ := 16
  delegateOwns : Bool := true

/-- `wfx.nBlockAlign`, a `WORD`. -/
def Config.nBlockAlign (cfg : Config) : ℕ :=
  (cfg.m_RecordingBits % 65536 / 8) * (cfg.m_RecordingChannels % 65536) %
    65536

/-- `dscbDesc.dwBufferBytes`, a quarter of the `DWORD`
`wfx.nAvgBytesPerSec`. -/
def Config.dwBufferBytes (cfg : Config) : ℕ :=
  cfg.nBlockAlign * (cfg.m_RecordingHZ % 4294967296) % 4294967296 / 4

def Config.blockSize (cfg : Config) : ℕ :=
  cfg.dwBufferBytes / 2

structure AudioData where
  m_Data : List UInt8
  m_Rate : ℕ
  m_Channels : ℕ
  m_BPS : ℕ
deriving DecidableEq

/-- How the capture device answers a call.  `eventIndex` is the notification
that the thread has waited for, `locked` the bytes at an offset. -/
structure Device where
  ok : Bool
  eventIndex : ℕ := 0
  locked : ℕ → ℕ → List UInt8 := fun _ _ => []

/-- What the capture thread does next: enter `CaptureAudio` and create the
device, make one of the four calls that follow, test `m_CaptureAudio`, wait for
a notification, pass on the block that it has locked, unlock it and let go of
`spThis`, or wait in the destructor. -/
inductive Phase where
  | directSoundCaptureCreate
  | createCaptureBuffer
  | lock
  | setNotificationPositions
  | start
  | loop
  | waitForMultipleObjects
  | block (data : List UInt8)
  | unlock
  | destructor
deriving DecidableEq

/-- What has become of the owner of the microphone: it is doing nothing, it
waits in `OnStop`, it has let go of a microphone that is owned elsewhere, the
destructor waits, or the microphone is destroyed. -/
inductive Owner where
  | free
  | onStop
  | released
  | destructor
  | destroyed
deriving DecidableEq

/-- The microphone, with its capture thread, the queued calls of `SendAudio`,
the data sent, and whether an `OnStart` has started no capture although none was
running. -/
structure WinMicrophone where
  m_CaptureAudio : Bool := false
  m_CaptureStopped : Bool := true
  m_Paused : ℤ := 0
  thread : Option Phase := none
  owner : Owner := .free
  queued : List AudioData := []
  sent : List AudioData := []
  refused : Bool := false
deriving DecidableEq

namespace WinMicrophone

/-! ## Translated functions -/

/-- `OnStart`, with its result. -/
def onStart (s : WinMicrophone) : Bool × WinMicrophone :=
  if s.m_CaptureAudio then (false, s)
  else
    (true, { s with
      m_CaptureAudio := true
      m_CaptureStopped := false
      thread := some .directSoundCaptureCreate })

/-- `OnStop`, up to its loop. -/
def onStop (s : WinMicrophone) : WinMicrophone :=
  { s with m_CaptureAudio := false, owner := .onStop }

/-- A queued call of `SendAudio` owns the microphone. -/
def heldByQueue (cfg : Config) (s : WinMicrophone) : Bool :=
  cfg.delegateOwns && !s.queued.isEmpty

/-- Something other than its owner owns the microphone. -/
def held (cfg : Config) (s : WinMicrophone) : Bool :=
  decide (s.thread = some .unlock) || s.heldByQueue cfg

/-- The destructor, up to its loop. -/
def destroy (s : WinMicrophone) : WinMicrophone :=
  { s with m_CaptureAudio := false, owner := .destructor }

/-- An exception leaves `CaptureAudio`. -/
def throw (s : WinMicrophone) : WinMicrophone :=
  { s with thread := none }

/-- A call that throws if it fails. -/
def attempt (ok : Bool) (next : Phase) (s : WinMicrophone) : WinMicrophone :=
  if ok then { s with thread := some next } else s.throw

/-- `CaptureAudio` returns. -/
def leave (s : WinMicrophone) : WinMicrophone :=
  { s with m_CaptureStopped := true, thread := none }

/-- The next part of `CaptureAudio`. -/
def captureAudio (cfg : Config) (o : Device) (phase : Phase)
    (s : WinMicrophone) : WinMicrophone :=
  match phase with
  | .directSoundCaptureCreate =>
      if o.ok then { s with thread := some .createCaptureBuffer } else s.leave
  | .createCaptureBuffer => s.attempt o.ok .lock
  | .lock => s.attempt o.ok .setNotificationPositions
  | .setNotificationPositions => s.attempt o.ok .start
  | .start => s.attempt o.ok .loop
  | .loop =>
      if s.m_CaptureAudio then { s with thread := some .waitForMultipleObjects }
      else s.leave
  | .waitForMultipleObjects =>
      if s.m_Paused ≤ 0 then
        s.attempt o.ok (.block
          (o.locked (if o.eventIndex = 0 then cfg.blockSize else 0)
            cfg.blockSize))
      else { s with thread := some .loop }
  | .block data =>
      -- `shared_from_this` throws when no owner is left
      if s.owner = .destructor then s.throw
      else
        { s with
          queued := s.queued ++ [⟨data, cfg.m_RecordingHZ,
            cfg.m_RecordingChannels, cfg.m_RecordingBits⟩]
          thread := some .unlock }
  | .unlock =>
      -- `spThis` may be the last owner
      if s.owner = .released ∧ s.heldByQueue cfg = false then
        { s.destroy with thread := some .destructor }
      else { s with thread := some .loop }
  | .destructor => s

/-- The call of `SendAudio` at the head of the queue, with which an owner may
go.  It is not made when the microphone is gone. -/
def sendAudio (cfg : Config) (a_pData : AudioData) (rest : List AudioData)
    (s : WinMicrophone) : WinMicrophone :=
  let s := { s with queued := rest }
  if s.owner = .destructor ∨ s.owner = .destroyed then s
  else
    let s := { s with sent := s.sent ++ [a_pData] }
    if s.owner = .released ∧ s.held cfg = false then s.destroy else s

/-- The owner makes a call or lets go of the microphone, a wait returns, the
capture thread goes on, or the main thread gets to the first queued call of
`SendAudio`. -/
inductive Event where
  | onStart
  | onPause
  | onResume
  | onStop
  | destroy
  | returns
  | captureAudio (o : Device)
  | sendAudio

def step (cfg : Config) (s : WinMicrophone) : Event → Option WinMicrophone
  | .onStart =>
      if s.owner = .free then
        some { s.onStart.2 with
          refused := s.refused || (!s.onStart.1 && s.thread.isNone) }
      else none
  | .onPause =>
      if s.owner = .destroyed then none
      else some { s with m_Paused := s.m_Paused + 1 }
  | .onResume =>
      if s.owner = .destroyed then none
      else some { s with m_Paused := s.m_Paused - 1 }
  | .onStop => if s.owner = .free then some s.onStop else none
  | .destroy =>
      if s.owner = .free then
        some (if s.held cfg then { s with owner := .released } else s.destroy)
      else none
  | .returns =>
      if s.m_CaptureStopped then
        match s.owner with
        | .onStop => some { s with owner := .free }
        | .destructor => some { s with owner := .destroyed }
        | _ => none
      else none
  | .captureAudio o => s.thread.map fun phase => s.captureAudio cfg o phase
  | .sendAudio =>
      match s.queued with
      | [] => none
      | a_pData :: rest => some (s.sendAudio cfg a_pData rest)

/-! ## The law -/

/-- A step of the capture thread. -/
def Event.isCapture : Event → Bool
  | .captureAudio _ => true
  | _ => false

/-- The owner waits in `OnStop` or in the destructor. -/
def Waiting (s : WinMicrophone) : Prop :=
  s.owner = .onStop ∨ s.owner = .destructor

/-- When the capture thread has ended, `m_CaptureStopped` is set and an
`OnStart` starts a new capture; and it takes a few steps at most while it is
waited for. -/
structure Stoppable (cfg : Config) (s : WinMicrophone) : Prop where
  stopped : s.thread = none → s.m_CaptureStopped = true
  starts : s.refused = false
  ends : s.Waiting → ∀ es t, .returns ∉ es → run (step cfg) s es = some t →
    es.countP Event.isCapture ≤ 6

/-- The calls of the device return, apart from the first; the thread passes on
no block when the microphone is being destroyed, and is not the last to own it;
and `OnStart` is not called between a failure of the first call and the next
`OnStop`. -/
def Clean (cfg : Config) (s : WinMicrophone) : Event → Prop
  | .captureAudio o =>
      match s.thread with
      | some .createCaptureBuffer | some .lock | some .start
      | some .setNotificationPositions => o.ok = true
      | some .waitForMultipleObjects => s.m_Paused ≤ 0 → o.ok = true
      | some (.block _) => s.owner ≠ .destructor
      | some .unlock => s.owner = .released → s.heldByQueue cfg = true
      | _ => True
  | .onStart => s.thread = none → s.m_CaptureAudio = false
  | _ => True

variable {cfg : Config} {s t : WinMicrophone} {o : Device}

/-! ## The end of the thread -/

/-- The steps the thread has to take once `m_CaptureAudio` is cleared. -/
def work (s : WinMicrophone) : ℕ :=
  match s.thread with
  | none => 0
  | some .directSoundCaptureCreate => 6
  | some .createCaptureBuffer => 5
  | some .lock => 4
  | some .setNotificationPositions => 3
  | some .start => 2
  | some .loop => 1
  | some .waitForMultipleObjects => 4
  | some (.block _) => 3
  | some .unlock => 2
  | some .destructor => 0

theorem work_le (s : WinMicrophone) : s.work ≤ 6 := by
  unfold work
  split <;> omega

/-- The invariant: the flags say what the owner and the thread are doing. -/
structure Flags (s : WinMicrophone) : Prop where
  running : s.thread ≠ none → s.m_CaptureStopped = false
  waiting : s.Waiting → s.m_CaptureAudio = false
  idle : s.owner = .free → s.m_CaptureAudio = false → s.thread = none

theorem attempt_cases (ok : Bool) (next : Phase) (s : WinMicrophone) :
    s.attempt ok next = { s with thread := some next } ∨
      s.attempt ok next = { s with thread := none } := by
  cases ok with
  | false => exact Or.inr rfl
  | true => exact Or.inl rfl

/-- A step of the thread changes the thread and the queue, and sets
`m_CaptureStopped` only where the thread ends; or it runs the destructor. -/
theorem captureAudio_cases (cfg : Config) (o : Device) (phase : Phase)
    (s : WinMicrophone) :
    s.captureAudio cfg o phase = s.leave ∨
      (∃ thread queued,
        s.captureAudio cfg o phase = { s with thread, queued }) ∨
      s.captureAudio cfg o phase =
        { s.destroy with thread := some .destructor } := by
  have hattempt : ∀ ok next, ∃ thread queued,
      s.attempt ok next = { s with thread, queued } := by
    intro ok next
    rcases attempt_cases ok next s with h | h
    · exact ⟨_, s.queued, h⟩
    · exact ⟨_, s.queued, h⟩
  cases phase with
  | directSoundCaptureCreate =>
      cases hok : o.ok with
      | false => exact Or.inl (by simp [captureAudio, hok])
      | true =>
          exact Or.inr (Or.inl ⟨some .createCaptureBuffer, s.queued,
            by simp [captureAudio, hok]⟩)
  | createCaptureBuffer => exact Or.inr (Or.inl (hattempt _ _))
  | lock => exact Or.inr (Or.inl (hattempt _ _))
  | setNotificationPositions => exact Or.inr (Or.inl (hattempt _ _))
  | start => exact Or.inr (Or.inl (hattempt _ _))
  | loop =>
      unfold captureAudio
      dsimp only
      split
      · exact Or.inr (Or.inl ⟨_, s.queued, rfl⟩)
      · exact Or.inl rfl
  | waitForMultipleObjects =>
      unfold captureAudio
      dsimp only
      split
      · exact Or.inr (Or.inl (hattempt _ _))
      · exact Or.inr (Or.inl ⟨_, s.queued, rfl⟩)
  | block data =>
      unfold captureAudio
      dsimp only
      split
      · exact Or.inr (Or.inl ⟨_, s.queued, rfl⟩)
      · exact Or.inr (Or.inl ⟨_, _, rfl⟩)
  | unlock =>
      unfold captureAudio
      dsimp only
      split
      · exact Or.inr (Or.inr rfl)
      · exact Or.inr (Or.inl ⟨_, s.queued, rfl⟩)
  | destructor => exact Or.inr (Or.inl ⟨s.thread, s.queued, rfl⟩)

/-- The last owner is the thread itself only if the owner has let go. -/
theorem captureAudio_unlock (ho : s.owner ≠ .released) :
    s.captureAudio cfg o .unlock = { s with thread := some .loop } :=
  if_neg fun h => ho h.1

/-- Once `m_CaptureAudio` is cleared, each step brings the thread nearer to its
end. -/
theorem work_captureAudio {phase : Phase} (hthread : s.thread = some phase)
    (haudio : s.m_CaptureAudio = false) (howner : s.owner ≠ .released)
    (halive : s.thread ≠ some .destructor) :
    (s.captureAudio cfg o phase).work + 1 ≤ s.work ∧
      (s.captureAudio cfg o phase).thread ≠ some .destructor := by
  have hattempt : ∀ ok next, next ≠ .destructor →
      ({ s with thread := some next }).work + 1 ≤ s.work →
      (s.attempt ok next).work + 1 ≤ s.work ∧
        (s.attempt ok next).thread ≠ some .destructor := by
    intro ok next hnext hle
    cases ok with
    | false =>
        exact ⟨Nat.le_trans (Nat.succ_le_succ (Nat.zero_le _)) hle, nofun⟩
    | true => exact ⟨hle, fun h => hnext (Option.some.inj h)⟩
  cases phase with
  | directSoundCaptureCreate =>
      cases hok : o.ok <;> simp [captureAudio, work, leave, hok, hthread]
  | createCaptureBuffer => exact hattempt _ _ nofun (by simp [work, hthread])
  | lock => exact hattempt _ _ nofun (by simp [work, hthread])
  | setNotificationPositions =>
      exact hattempt _ _ nofun (by simp [work, hthread])
  | start => exact hattempt _ _ nofun (by simp [work, hthread])
  | loop => simp [captureAudio, work, leave, haudio, hthread]
  | waitForMultipleObjects =>
      unfold captureAudio
      dsimp only
      split
      · exact hattempt _ _ nofun (by simp [work, hthread])
      · simp [work, hthread]
  | block data =>
      unfold captureAudio
      dsimp only
      split
      · simp [work, throw, hthread]
      · simp [work, hthread]
  | unlock =>
      rw [captureAudio_unlock howner]
      simp [work, hthread]
  | destructor => exact absurd hthread halive

/-! ## Steps -/

/-- The call of `SendAudio` changes the queue and what has been sent, and may
enter the destructor of a microphone that its owner has let go of. -/
theorem sendAudio_cases (ht : s.step cfg .sendAudio = some t) :
    ∃ queued sent, t = { s with queued, sent } ∨
      (s.owner = .released ∧ t = { s with queued, sent }.destroy) := by
  cases hqueued : s.queued with
  | nil =>
      simp only [step, hqueued] at ht
      cases ht
  | cons a_pData rest =>
      simp only [step, hqueued] at ht
      obtain rfl := Option.some.inj ht
      unfold sendAudio
      dsimp only
      split
      · exact ⟨rest, s.sent, Or.inl rfl⟩
      · split
        · rename_i hlast
          exact ⟨rest, _, Or.inr ⟨hlast.1, rfl⟩⟩
        · exact ⟨rest, _, Or.inl rfl⟩

/-- The steps that neither start nor are of the thread leave it as it is.  They
keep the owner, let it go, enter a wait, or leave one. -/
theorem step_frame {e : Event} (hstart : e ≠ .onStart)
    (hcapture : e.isCapture = false) (ht : s.step cfg e = some t) :
    (t.thread = s.thread ∧ t.m_CaptureStopped = s.m_CaptureStopped ∧
      t.refused = s.refused) ∧
    ((t.owner = s.owner ∧ t.m_CaptureAudio = s.m_CaptureAudio) ∨
      t.owner = .released ∨ (t.Waiting ∧ t.m_CaptureAudio = false) ∨
      (¬t.Waiting ∧ s.m_CaptureStopped = true)) := by
  cases e with
  | onStart => exact absurd rfl hstart
  | onPause =>
      obtain ⟨-, ht⟩ := Option.ite_none_left_eq_some.mp ht
      obtain rfl := Option.some.inj ht
      exact ⟨⟨rfl, rfl, rfl⟩, Or.inl ⟨rfl, rfl⟩⟩
  | onResume =>
      obtain ⟨-, ht⟩ := Option.ite_none_left_eq_some.mp ht
      obtain rfl := Option.some.inj ht
      exact ⟨⟨rfl, rfl, rfl⟩, Or.inl ⟨rfl, rfl⟩⟩
  | onStop =>
      obtain ⟨-, ht⟩ := Option.ite_none_right_eq_some.mp ht
      obtain rfl := Option.some.inj ht
      exact ⟨⟨rfl, rfl, rfl⟩, Or.inr (Or.inr (Or.inl ⟨Or.inl rfl, rfl⟩))⟩
  | destroy =>
      obtain ⟨-, ht⟩ := Option.ite_none_right_eq_some.mp ht
      obtain rfl := Option.some.inj ht
      split
      · exact ⟨⟨rfl, rfl, rfl⟩, Or.inr (Or.inl rfl)⟩
      · exact ⟨⟨rfl, rfl, rfl⟩, Or.inr (Or.inr (Or.inl ⟨Or.inr rfl, rfl⟩))⟩
  | returns =>
      obtain ⟨hstopped, ht⟩ := Option.ite_none_right_eq_some.mp ht
      have hwaiting : ∀ owner : Owner, owner = .free ∨ owner = .destroyed →
          ¬Waiting { s with owner } := by
        rintro owner (rfl | rfl)
        · rintro (h | h) <;> cases h
        · rintro (h | h) <;> cases h
      split at ht
      · obtain rfl := Option.some.inj ht
        exact ⟨⟨rfl, rfl, rfl⟩, Or.inr (Or.inr (Or.inr
          ⟨hwaiting _ (Or.inl rfl), hstopped⟩))⟩
      · obtain rfl := Option.some.inj ht
        exact ⟨⟨rfl, rfl, rfl⟩, Or.inr (Or.inr (Or.inr
          ⟨hwaiting _ (Or.inr rfl), hstopped⟩))⟩
      · cases ht
  | captureAudio o => cases hcapture
  | sendAudio =>
      obtain ⟨queued, sent, rfl | ⟨-, rfl⟩⟩ := sendAudio_cases ht
      · exact ⟨⟨rfl, rfl, rfl⟩, Or.inl ⟨rfl, rfl⟩⟩
      · exact ⟨⟨rfl, rfl, rfl⟩, Or.inr (Or.inr (Or.inl ⟨Or.inr rfl, rfl⟩))⟩

/-! ## Waits -/

theorem Waiting.owner_ne {owner : Owner} (h : s.Waiting)
    (hstop : owner ≠ .onStop) (hdestructor : owner ≠ .destructor) :
    s.owner ≠ owner := by
  rcases h with howner | howner
  · rw [howner]
    exact hstop.symm
  · rw [howner]
    exact hdestructor.symm

/-- During a wait only the thread does anything. -/
structure Ending (s : WinMicrophone) : Prop where
  waiting : s.Waiting
  audio : s.m_CaptureAudio = false
  alive : s.thread ≠ some .destructor

theorem Ending.step {e : Event} (h : Ending s) (he : e ≠ .returns)
    (ht : s.step cfg e = some t) :
    Ending t ∧ t.work + (if e.isCapture then 1 else 0) ≤ s.work := by
  have hfree : s.owner ≠ .free := h.waiting.owner_ne nofun nofun
  cases e with
  | onStart => exact absurd (Option.ite_none_right_eq_some.mp ht).1 hfree
  | onPause =>
      obtain ⟨-, ht⟩ := Option.ite_none_left_eq_some.mp ht
      obtain rfl := Option.some.inj ht
      exact ⟨⟨h.waiting, h.audio, h.alive⟩, Nat.le_refl _⟩
  | onResume =>
      obtain ⟨-, ht⟩ := Option.ite_none_left_eq_some.mp ht
      obtain rfl := Option.some.inj ht
      exact ⟨⟨h.waiting, h.audio, h.alive⟩, Nat.le_refl _⟩
  | onStop => exact absurd (Option.ite_none_right_eq_some.mp ht).1 hfree
  | destroy => exact absurd (Option.ite_none_right_eq_some.mp ht).1 hfree
  | returns => exact absurd rfl he
  | captureAudio o =>
      obtain ⟨phase, hthread, rfl⟩ := Option.map_eq_some_iff.mp ht
      have hnext : (s.captureAudio cfg o phase).work + 1 ≤ s.work ∧
          (s.captureAudio cfg o phase).thread ≠ some .destructor :=
        work_captureAudio hthread h.audio (h.waiting.owner_ne nofun nofun)
          h.alive
      obtain ⟨hwork, halive⟩ := hnext
      rcases captureAudio_cases cfg o phase s with heq | ⟨thread, queued, heq⟩ |
        heq
      · rw [heq] at hwork halive ⊢
        exact ⟨⟨h.waiting, h.audio, halive⟩, hwork⟩
      · rw [heq] at hwork halive ⊢
        exact ⟨⟨h.waiting, h.audio, halive⟩, hwork⟩
      · rw [heq] at halive
        exact absurd rfl halive
  | sendAudio =>
      obtain ⟨queued, sent, rfl | ⟨hreleased, -⟩⟩ := sendAudio_cases ht
      · exact ⟨⟨h.waiting, h.audio, h.alive⟩, Nat.le_refl _⟩
      · exact absurd hreleased (h.waiting.owner_ne nofun nofun)

/-- During a wait the thread takes no more steps than it has to. -/
theorem Ending.countP_isCapture_le {es : List Event} (h : Ending s)
    (hreturns : .returns ∉ es)
    (ht : run (WinMicrophone.step cfg) s es = some t) :
    es.countP Event.isCapture ≤ s.work := by
  induction es generalizing s with
  | nil => exact Nat.zero_le _
  | cons e es ih =>
      rw [run_cons] at ht
      obtain ⟨u, hu, ht⟩ := Option.bind_eq_some_iff.mp ht
      obtain ⟨hu', hle⟩ :=
        h.step (List.ne_of_not_mem_cons hreturns).symm hu
      have hcount := ih hu' (List.not_mem_of_not_mem_cons hreturns) ht
      rw [List.countP_cons]
      omega

/-- A thread that waits in the destructor waits for itself. -/
theorem not_ends (hthread : s.thread = some .destructor)
    (hwaiting : s.Waiting) : ¬Stoppable cfg s := by
  intro hstop
  have hstep : s.step cfg (.captureAudio { ok := true }) = some s := by
    rw [step, hthread]
    rfl
  have hrun : ∀ n, run (step cfg) s
      (List.replicate n (.captureAudio { ok := true })) = some s := by
    intro n
    induction n with
    | zero => rfl
    | succ n ih =>
        rw [List.replicate_succ, run_cons, hstep]
        exact ih
  have hcount := hstop.ends hwaiting _ s
    (fun hmem => Event.noConfusion (List.eq_of_mem_replicate hmem)) (hrun 7)
  exact absurd hcount (by decide)

/-! ## The invariant -/

theorem Flags.step {e : Event} (h : Flags s) (ht : s.step cfg e = some t) :
    Flags t := by
  have hframe : e ≠ .onStart → e.isCapture = false → Flags t := by
    intro hstart hcapture
    obtain ⟨⟨hthread, hstopped, -⟩, ⟨howner, haudio⟩ | howner |
      ⟨hwaiting, haudio⟩ | ⟨hwaiting, hset⟩⟩ :=
        step_frame hstart hcapture ht
    · refine ⟨?_, ?_, ?_⟩
      · rw [hthread, hstopped]
        exact h.running
      · rw [Waiting, howner, haudio]
        exact h.waiting
      · rw [howner, haudio, hthread]
        exact h.idle
    · refine ⟨by rw [hthread, hstopped]; exact h.running, ?_, ?_⟩
      · intro hwaiting
        exact absurd howner (hwaiting.owner_ne nofun nofun)
      · intro hfree
        cases howner.symm.trans hfree
    · refine ⟨by rw [hthread, hstopped]; exact h.running, fun _ => haudio, ?_⟩
      intro hfree
      exact absurd hfree (hwaiting.owner_ne nofun nofun)
    · have hnone : s.thread = none := by
        by_contra hsome
        rw [h.running hsome] at hset
        cases hset
      exact ⟨by rw [hthread, hstopped]; exact h.running,
        fun hw => absurd hw hwaiting, fun _ _ => hthread.trans hnone⟩
  cases e with
  | onStart =>
      obtain ⟨hfree, ht⟩ := Option.ite_none_right_eq_some.mp ht
      obtain rfl := Option.some.inj ht
      unfold onStart
      split
      · exact ⟨h.running, h.waiting, h.idle⟩
      · refine ⟨fun _ => rfl, fun hwaiting => ?_, nofun⟩
        exact absurd hfree (hwaiting.owner_ne nofun nofun)
  | captureAudio o =>
      obtain ⟨phase, hthread, rfl⟩ := Option.map_eq_some_iff.mp ht
      have hsome : s.thread ≠ none := hthread ▸ Option.some_ne_none phase
      rcases captureAudio_cases cfg o phase s with heq | ⟨thread, queued, heq⟩ |
        heq
      · rw [heq]
        exact ⟨fun hne => absurd rfl hne, h.waiting, fun _ _ => rfl⟩
      · rw [heq]
        exact ⟨fun _ => h.running hsome, h.waiting,
          fun howner haudio => absurd (h.idle howner haudio) hsome⟩
      · rw [heq]
        exact ⟨fun _ => h.running hsome, fun _ => rfl, nofun⟩
  | _ => exact hframe nofun rfl

/-- The invariant of the good runs. -/
structure Sound (s : WinMicrophone) : Prop extends Flags s where
  stopped : s.thread = none → s.m_CaptureStopped = true
  starts : s.refused = false
  alive : s.thread ≠ some .destructor

theorem Sound.stoppable (h : Sound s) : Stoppable cfg s where
  stopped := h.stopped
  starts := h.starts
  ends := fun hwaiting _ _ hreturns ht =>
    Nat.le_trans (Ending.countP_isCapture_le
      ⟨hwaiting, h.waiting hwaiting, h.alive⟩ hreturns ht) s.work_le

/-- The thread is in `CaptureAudio` still, or has returned from it. -/
def Well (s : WinMicrophone) : Prop :=
  s.thread ≠ some .destructor ∧ (s.thread = none → s.m_CaptureStopped = true)

theorem well_attempt {ok : Bool} {next : Phase} (hok : ok = true)
    (hnext : next ≠ .destructor) : Well (s.attempt ok next) := by
  subst hok
  exact ⟨fun h => hnext (Option.some.inj h), nofun⟩

/-- A step of the thread that meets the condition. -/
theorem well_captureAudio {phase : Phase} (hthread : s.thread = some phase)
    (halive : s.thread ≠ some .destructor)
    (hC : Clean cfg s (.captureAudio o)) :
    Well (s.captureAudio cfg o phase) := by
  unfold Clean at hC
  rw [hthread] at hC
  cases phase with
  | directSoundCaptureCreate =>
      unfold captureAudio
      dsimp only
      split
      · exact ⟨nofun, nofun⟩
      · exact ⟨nofun, fun _ => rfl⟩
  | createCaptureBuffer => exact well_attempt hC nofun
  | lock => exact well_attempt hC nofun
  | setNotificationPositions => exact well_attempt hC nofun
  | start => exact well_attempt hC nofun
  | loop =>
      unfold captureAudio
      dsimp only
      split
      · exact ⟨nofun, nofun⟩
      · exact ⟨nofun, fun _ => rfl⟩
  | waitForMultipleObjects =>
      unfold captureAudio
      dsimp only
      split
      · rename_i hpaused
        exact well_attempt (hC hpaused) nofun
      · exact ⟨nofun, nofun⟩
  | block data =>
      unfold captureAudio
      dsimp only
      rw [if_neg hC]
      exact ⟨nofun, nofun⟩
  | unlock =>
      unfold captureAudio
      dsimp only
      rw [if_neg]
      · exact ⟨nofun, nofun⟩
      · rintro ⟨hreleased, hqueue⟩
        rw [hC hreleased] at hqueue
        cases hqueue
  | destructor => exact absurd hthread halive

/-- A step of the thread that does not meet the condition throws, or enters the
destructor. -/
theorem captureAudio_of_not_clean {phase : Phase}
    (hthread : s.thread = some phase) (hC : ¬Clean cfg s (.captureAudio o)) :
    s.captureAudio cfg o phase = s.throw ∨
      s.captureAudio cfg o phase =
        { s.destroy with thread := some .destructor } := by
  unfold Clean at hC
  rw [hthread] at hC
  cases phase with
  | directSoundCaptureCreate => exact absurd trivial hC
  | createCaptureBuffer => exact Or.inl (if_neg hC)
  | lock => exact Or.inl (if_neg hC)
  | setNotificationPositions => exact Or.inl (if_neg hC)
  | start => exact Or.inl (if_neg hC)
  | loop => exact absurd trivial hC
  | waitForMultipleObjects =>
      obtain ⟨hpaused, hok⟩ := Classical.not_imp.mp hC
      unfold captureAudio
      dsimp only
      rw [if_pos hpaused]
      exact Or.inl (if_neg hok)
  | block data => exact Or.inl (if_pos (Classical.not_not.mp hC))
  | unlock =>
      obtain ⟨hreleased, hqueue⟩ := Classical.not_imp.mp hC
      exact Or.inr (if_pos ⟨hreleased, Bool.not_eq_true _ ▸ hqueue⟩)
  | destructor => exact absurd trivial hC

theorem Sound.step {e : Event} (h : Sound s) (hC : Clean cfg s e)
    (ht : s.step cfg e = some t) : Sound t := by
  have hframe : e ≠ .onStart → e.isCapture = false → Sound t := by
    intro hstart hcapture
    obtain ⟨⟨hthread, hstopped, hrefused⟩, -⟩ := step_frame hstart hcapture ht
    refine ⟨h.toFlags.step ht, ?_, hrefused.trans h.starts, hthread ▸ h.alive⟩
    rw [hthread, hstopped]
    exact h.stopped
  have hflags := h.toFlags.step ht
  cases e with
  | onStart =>
      obtain ⟨-, ht⟩ := Option.ite_none_right_eq_some.mp ht
      obtain rfl := Option.some.inj ht
      cases haudio : s.m_CaptureAudio with
      | false =>
          refine ⟨hflags, ?_, ?_, ?_⟩
          · simp [onStart, haudio]
          · simp [onStart, haudio, h.starts]
          · simp [onStart, haudio]
      | true =>
          -- a capture is running, since `OnStart` is not called otherwise
          have hthread : s.thread ≠ none := fun hnone =>
            absurd (haudio.symm.trans (hC hnone)) nofun
          refine ⟨hflags, ?_, ?_, ?_⟩
          · simpa [onStart, haudio] using h.stopped
          · simpa [onStart, haudio, h.starts] using
              Option.ne_none_iff_isSome.mp hthread
          · simpa [onStart, haudio] using h.alive
  | captureAudio o =>
      obtain ⟨phase, hthread, rfl⟩ := Option.map_eq_some_iff.mp ht
      obtain ⟨halive, hstopped⟩ := well_captureAudio hthread h.alive hC
      refine ⟨hflags, hstopped, ?_, halive⟩
      rcases captureAudio_cases cfg o phase s with heq | ⟨_, _, heq⟩ | heq
      · rw [heq]
        exact h.starts
      · rw [heq]
        exact h.starts
      · rw [heq]
        exact h.starts
  | _ => exact hframe nofun rfl

theorem not_stoppable {e : Event} (h : Sound s) (hC : ¬Clean cfg s e)
    (ht : s.step cfg e = some t) : ¬Stoppable cfg t := by
  cases e with
  | onStart =>
      obtain ⟨hthread, haudio⟩ := Classical.not_imp.mp hC
      obtain ⟨-, ht⟩ := Option.ite_none_right_eq_some.mp ht
      obtain rfl := Option.some.inj ht
      intro hstop
      have hstarts := hstop.starts
      simp [onStart, Bool.ne_false_iff.mp haudio, hthread] at hstarts
  | captureAudio o =>
      obtain ⟨phase, hthread, rfl⟩ := Option.map_eq_some_iff.mp ht
      rcases captureAudio_of_not_clean hthread hC with heq | heq
      · rw [heq]
        intro hstop
        have hflag := h.running (hthread ▸ Option.some_ne_none phase)
        exact absurd (hflag.symm.trans (hstop.stopped rfl)) Bool.false_ne_true
      · rw [heq]
        exact not_ends rfl (Or.inr rfl)
  | _ => exact absurd trivial hC

/-! ## Runs -/

/-- Throughout a run the microphone can be stopped and started again, iff the
calls of the device return, apart from the first, no block is passed on while
the microphone is being destroyed, the thread is not the last to own it, and
`OnStart` is called after a failure of the first call only when `OnStop` has
been. -/
theorem stoppable_iff (cfg : Config) (es : List Event) :
    Throughout (step cfg) (Stoppable cfg) {} es ↔
      EachStep (step cfg) (Clean cfg) {} es :=
  throughout_iff_eachStep (I := Sound) (L := fun _ _ => True)
    (fun _ h => h.stoppable) (fun _ _ _ h _ hC ht => h.step hC ht)
    (fun _ _ _ h _ hC ht => not_stoppable h hC ht)
    ⟨⟨fun hne => absurd rfl hne, fun _ => rfl, fun _ _ => rfl⟩,
      fun _ => rfl, rfl, nofun⟩ (eachStep_true _ es)

/-- A capture buffer cannot be created, and `OnStop` waits for ever. -/
theorem not_always_stoppable :
    ¬∀ (cfg : Config) (es : List Event),
      Throughout (step cfg) (Stoppable cfg) {} es := by
  intro h
  have hrun : (run (step {}) {} [.onStart, .captureAudio { ok := true },
      .captureAudio { ok := false }, .onStop]).map
      (fun s => (s.thread, s.m_CaptureStopped)) = some (none, false) := by
    decide
  obtain ⟨t, ht, hobs⟩ := (h _ _).last hrun
  obtain ⟨hthread, hflag⟩ := Prod.mk.inj hobs
  exact absurd (hflag.symm.trans (ht.stopped hthread)) Bool.false_ne_true

/-- A microphone that is destroyed while it is recording. -/
example : (run (step {}) {} ([.onStart] ++ List.replicate 6
    (.captureAudio { ok := true }) ++ [.destroy, .captureAudio { ok := true },
      .captureAudio { ok := true }])).map
      (fun s => (s.thread, s.owner, s.m_CaptureStopped)) =
    some (none, .destructor, false) := by decide

/-- The owner lets go while the thread passes on a block, so that the thread runs
the destructor. -/
example : (run (step {}) {} ([.onStart] ++ List.replicate 8
    (.captureAudio { ok := true }) ++ [.destroy, .sendAudio,
      .captureAudio { ok := true }])).map
      (fun s => (s.thread, s.owner, s.m_CaptureStopped)) =
    some (some .destructor, .destructor, false) := by decide

end WinMicrophone

end SelfPlugins.SoundCapture
