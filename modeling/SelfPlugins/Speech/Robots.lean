import SelfPlugins.Speech.Gesture

/-!
# The speech gestures of the small robots

`RaspiSpeechGesture` plays a sound where it arrives and queues `OnSpeechDone`;
`RemoteSpeechGesture` publishes it to the subscribers of `audio-out` and calls
`OnSpeechDone` at once.  Only the push of a request onto the empty queue and
the end of a speech start another one, so a queue on which nothing is under way
is stuck for good.  `robots_move_iff` says in which runs that does not happen
after the answer of `GetVoices`.
-/

namespace SelfPlugins.Speech

open Runs

/-- The state of both gestures.  `answered` is whether `GetVoices` has been
answered, `called` are the requests whose callback `OnSpeechDone` calls itself,
`completed` those that have been popped, and `published` those whose sound has
been published. -/
structure RobotSpeech where
  requests : List Request := []
  m_pVoices : Option (List Voice) := none
  answered : Bool := false
  toSounds : List ToSound := []
  queued : List Request := []
  pauses : ℕ := 0
  resumes : ℕ := 0
  published : List Request := []
  called : List Request := []
  completed : List Request := []
  executed : ℕ := 0

/-- The outcome of the lookups of a `StartSpeech`: whether `audio-out` has
subscribers, and whether there is a text-to-speech service. -/
structure Lookup where
  subscribed : Bool
  service : Bool

/-- The gesture is called, an answer comes in, or the main thread gets to a
queued `OnSpeechDone`; `lookup k` is for the `k`-th `StartSpeech` that
follows. -/
inductive RobotEvent
  | execute (params : Params) (lookup : ℕ → Lookup)
  | abort
  | voices (voices : Option (List Voice)) (lookup : ℕ → Lookup)
  | speechData (n : ℕ) (sound : Bool) (lookup : ℕ → Lookup)
  | speechDone (n : ℕ) (lookup : ℕ → Lookup)

namespace RobotSpeech

/-- A call of `ToSound` for the request. -/
def toSound (req : Request) (s : RobotSpeech) : RobotSpeech :=
  { s with
    toSounds := s.toSounds ++
      [⟨req, SpeechGesture.chooseVoice s.m_pVoices req.params,
        req.params.text⟩] }

/-- `PopRequest` completes the front request. -/
def popRequest (s : RobotSpeech) : RobotSpeech :=
  { s with
    requests := s.requests.tail
    completed := s.completed ++ s.requests.head?.toList }

/-- `PushRequest` -/
def pushRequest (params : Params) (s : RobotSpeech) : RobotSpeech :=
  { s with
    requests := s.requests ++ [⟨s.executed, params⟩]
    executed := s.executed + 1 }

/-- Where there are requests, some speech is under way: its sound is
outstanding, or its `OnSpeechDone` is queued. -/
def Moves (s : RobotSpeech) : Prop :=
  s.requests ≠ [] → s.toSounds ≠ [] ∨ s.queued ≠ []

end RobotSpeech

open RobotSpeech

/-! ## `RaspiSpeechGesture` -/

namespace Raspi

/-- `StartSpeech` -/
def startSpeech (lookup : Lookup) (s : RobotSpeech) : RobotSpeech :=
  match s.requests with
  | req :: _ => if lookup.service then toSound req s else s
  | [] => s

/-- `Execute` -/
def execute (params : Params) (lookup : Lookup) (s : RobotSpeech) :
    RobotSpeech :=
  if s.requests = [] then startSpeech lookup (pushRequest params s)
  else pushRequest params s

/-- `Abort`, with `PopAllRequests`. -/
def abort (s : RobotSpeech) : RobotSpeech :=
  if s.requests = [] then s
  else
    { s with
      requests := []
      completed := s.completed ++ s.requests
      resumes := s.resumes + 1 }

/-- `OnVoices` -/
def onVoices (voices : Option (List Voice)) (s : RobotSpeech) : RobotSpeech :=
  { s with m_pVoices := voices, answered := true }

/-- `OnSpeechData`, which plays the sound, if there is one. -/
def onSpeechData (req : Request) (sound : Bool) (s : RobotSpeech) :
    RobotSpeech :=
  if sound then
    { s with pauses := s.pauses + 1, queued := s.queued ++ [req] }
  else s

/-- `OnSpeechDone`, which calls the callback of the front request before it
pops the request. -/
def onSpeechDone (lookup : Lookup) (s : RobotSpeech) : RobotSpeech :=
  let s := { s with
    resumes := s.resumes + 1
    called := s.called ++ s.requests.head?.toList }
  let s := popRequest s
  if s.requests = [] then s else startSpeech lookup s

/-- One event; `GetVoices` is answered once. -/
def step (s : RobotSpeech) : RobotEvent → Option RobotSpeech
  | .execute params lookup => some (execute params (lookup 0) s)
  | .abort => some (abort s)
  | .voices voices _ =>
      if s.answered then none else some (onVoices voices s)
  | .speechData n sound _ =>
      (s.toSounds[n]?).map fun call =>
        onSpeechData call.request sound
          { s with toSounds := s.toSounds.eraseIdx n }
  | .speechDone n lookup =>
      (s.queued[n]?).map fun _ =>
        onSpeechDone (lookup 0) { s with queued := s.queued.eraseIdx n }

/-- The service is there where a speech is started, and the sound where one is
awaited, unless something else is under way. -/
def Attended (s : RobotSpeech) : RobotEvent → Prop
  | .execute _ lookup => s.answered = true → s.requests = [] →
      (lookup 0).service = true ∨ s.toSounds ≠ [] ∨ s.queued ≠ []
  | .abort => True
  | .voices _ _ => s.Moves
  | .speechData n sound _ => s.answered = true → s.requests ≠ [] →
      sound = true ∨ s.toSounds.eraseIdx n ≠ [] ∨ s.queued ≠ []
  | .speechDone n lookup => s.answered = true → s.requests.tail ≠ [] →
      (lookup 0).service = true ∨ s.toSounds ≠ [] ∨ s.queued.eraseIdx n ≠ []

variable {s s' : RobotSpeech} {e : RobotEvent}

end Raspi

/-! ## `RemoteSpeechGesture` -/

namespace Remote

mutual

/-- `StartSpeech`, which is called with requests only. -/
def startSpeech (lookup : ℕ → Lookup) (s : RobotSpeech) : RobotSpeech :=
  if s.m_pVoices = none then s
  else
    match s.requests with
    | req :: _ =>
        if (lookup 0).subscribed && (lookup 0).service then toSound req s
        else onSpeechDone (fun k => lookup (k + 1)) s
    | [] => onSpeechDone (fun k => lookup (k + 1)) s
termination_by (s.requests.length, 1)

/-- `OnSpeechDone` -/
def onSpeechDone (lookup : ℕ → Lookup) (s : RobotSpeech) : RobotSpeech :=
  match _hs : s.requests with
  | _ :: _ :: _ => startSpeech lookup (popRequest s)
  | _ => popRequest s
termination_by (s.requests.length, 0)
decreasing_by
  apply Prod.Lex.left
  simp [popRequest, _hs]

end

/-- `Execute` -/
def execute (params : Params) (lookup : ℕ → Lookup) (s : RobotSpeech) :
    RobotSpeech :=
  if s.requests = [] then startSpeech lookup (pushRequest params s)
  else pushRequest params s

/-- `OnVoices` -/
def onVoices (voices : Option (List Voice)) (lookup : ℕ → Lookup)
    (s : RobotSpeech) : RobotSpeech :=
  let s := { s with m_pVoices := voices, answered := true }
  if s.requests = [] then s else startSpeech lookup s

/-- `OnSpeechData`, which publishes the sound, if there is one. -/
def onSpeechData (req : Request) (sound : Bool) (lookup : ℕ → Lookup)
    (s : RobotSpeech) : RobotSpeech :=
  onSpeechDone lookup
    (if sound then { s with published := s.published ++ [req] } else s)

/-- One event; `Abort` does nothing, `OnSpeechDone` is never queued, and
`GetVoices` is answered once. -/
def step (s : RobotSpeech) : RobotEvent → Option RobotSpeech
  | .execute params lookup => some (execute params lookup s)
  | .abort => some s
  | .voices voices lookup =>
      if s.answered then none else some (onVoices voices lookup s)
  | .speechData n sound lookup =>
      (s.toSounds[n]?).map fun call =>
        onSpeechData call.request sound lookup
          { s with toSounds := s.toSounds.eraseIdx n }
  | .speechDone _ _ => none

/-- If `GetVoices` is answered with `NULL`, no request waits for the answer
and none follows it. -/
def Attended (s : RobotSpeech) : RobotEvent → Prop
  | .execute _ _ => s.answered = true → s.m_pVoices ≠ none
  | .voices voices _ => voices = none → s.requests = []
  | _ => True

/-- The invariant: without voices nothing has been asked of the service, and
the voices have not been answered unless they are there. -/
structure Waits (s : RobotSpeech) : Prop where
  moves : s.answered = true → s.Moves
  silent : s.m_pVoices = none → s.toSounds = []
  queued : s.queued = []
  answered : s.m_pVoices ≠ none → s.answered = true

variable {s s' : RobotSpeech} {e : RobotEvent}

theorem onSpeechDone_eq (lookup : ℕ → Lookup) (s : RobotSpeech) :
    onSpeechDone lookup s =
      if (popRequest s).requests = [] then popRequest s
      else startSpeech lookup (popRequest s) := by
  rw [onSpeechDone]
  split
  · rename_i hs
    rw [if_neg (by simp [popRequest, hs])]
  · rename_i hs
    rw [if_pos]
    rcases hreq : s.requests with _ | ⟨req, _ | ⟨next, rest⟩⟩
    · simp [popRequest, hreq]
    · simp [popRequest, hreq]
    · exact absurd hreq (hs req next rest)

/-- `s'` comes from `s` by starting and ending speeches, and at the end a sound
is outstanding or the queue is empty. -/
structure Settles (s s' : RobotSpeech) : Prop where
  settled : s'.requests = [] ∨ s'.toSounds ≠ []
  voices : s'.m_pVoices = s.m_pVoices
  answered : s'.answered = s.answered
  queued : s'.queued = s.queued

theorem startSpeech_settles (lookup : ℕ → Lookup) (s : RobotSpeech)
    (hv : s.m_pVoices ≠ none) : Settles s (startSpeech lookup s) := by
  induction hreq : s.requests generalizing s lookup with
  | nil =>
      rw [startSpeech, if_neg hv]
      split
      · rename_i hs
        rw [hreq] at hs
        cases hs
      · have hempty : (popRequest s).requests = [] := by
          simp [popRequest, hreq]
        rw [onSpeechDone_eq, if_pos hempty]
        exact ⟨Or.inl hempty, rfl, rfl, rfl⟩
  | cons req rest ih =>
      rw [startSpeech, if_neg hv]
      split
      · split
        · refine ⟨Or.inr ?_, rfl, rfl, rfl⟩
          exact List.append_ne_nil_of_right_ne_nil _ (List.cons_ne_nil _ _)
        · have hrest : (popRequest s).requests = rest := by
            simp [popRequest, hreq]
          rw [onSpeechDone_eq]
          split
          · rename_i hempty
            exact ⟨Or.inl hempty, rfl, rfl, rfl⟩
          · have hnext := ih (fun k => lookup (k + 1)) (popRequest s) hv hrest
            exact ⟨hnext.settled, hnext.voices, hnext.answered, hnext.queued⟩
      · rename_i hs
        rw [hreq] at hs
        cases hs

theorem onSpeechDone_settles (lookup : ℕ → Lookup) (s : RobotSpeech)
    (hv : s.m_pVoices ≠ none) : Settles s (onSpeechDone lookup s) := by
  rw [onSpeechDone_eq]
  split
  · rename_i hempty
    exact ⟨Or.inl hempty, rfl, rfl, rfl⟩
  · have hnext := startSpeech_settles lookup (popRequest s) hv
    exact ⟨hnext.settled, hnext.voices, hnext.answered, hnext.queued⟩

/-- Without voices `StartSpeech` does nothing. -/
theorem startSpeech_waiting (lookup : ℕ → Lookup) {s : RobotSpeech}
    (hv : s.m_pVoices = none) : startSpeech lookup s = s := by
  rw [startSpeech, if_pos hv]

theorem Waits.silent_of_unanswered (h : Waits s)
    (hunanswered : ¬s.answered = true) : s.toSounds = [] := by
  apply h.silent
  by_contra hv
  exact hunanswered (h.answered hv)

/-- What speeches are started and ended in keeps the invariant. -/
theorem Waits.settle (h : Waits s) (hv : s.m_pVoices ≠ none)
    (hs : Settles s s') : Waits s' where
  moves := fun _ hne => Or.inl (hs.settled.resolve_left hne)
  silent := fun hnone => absurd (hs.voices ▸ hnone) hv
  queued := hs.queued.trans h.queued
  answered := fun _ => hs.answered.trans (h.answered hv)

theorem Waits.step (h : Waits s) (hC : Attended s e)
    (ht : step s e = some s') : Waits s' := by
  cases e with
  | execute params lookup =>
      obtain rfl := Option.some.inj ht
      by_cases hv : s.m_pVoices = none
      · have hpush : Waits (pushRequest params s) :=
          ⟨fun ha => absurd hv (hC ha), h.silent, h.queued, h.answered⟩
        unfold execute
        split
        · rwa [startSpeech_waiting (s := pushRequest params s) lookup hv]
        · exact hpush
      · have hanswered := h.answered hv
        unfold execute
        split
        · have hsettles := startSpeech_settles lookup (pushRequest params s) hv
          exact h.settle hv ⟨hsettles.settled, hsettles.voices,
            hsettles.answered, hsettles.queued⟩
        · rename_i hne
          exact ⟨fun _ _ => h.moves hanswered hne, h.silent, h.queued,
            h.answered⟩
  | abort =>
      obtain rfl := Option.some.inj ht
      exact h
  | voices voices lookup =>
      obtain ⟨hunanswered, ht⟩ := Option.ite_none_left_eq_some.mp ht
      obtain rfl := Option.some.inj ht
      have hsilent := h.silent_of_unanswered hunanswered
      unfold onVoices
      dsimp only
      split
      · rename_i hempty
        exact ⟨fun _ hne => absurd hempty hne, fun _ => hsilent, h.queued,
          fun _ => rfl⟩
      · rename_i hne
        have hv : voices ≠ none := fun hnone => hne (hC hnone)
        have hsettles := startSpeech_settles lookup
          { s with m_pVoices := voices, answered := true } hv
        exact ⟨fun _ hne => Or.inl (hsettles.settled.resolve_left hne),
          fun hnone => absurd (hsettles.voices.symm.trans hnone) hv,
          hsettles.queued.trans h.queued, fun _ => hsettles.answered⟩
  | speechData n sound lookup =>
      obtain ⟨call, hcall, rfl⟩ := Option.map_eq_some_iff.mp ht
      have hv : s.m_pVoices ≠ none := fun hnone => by
        rw [h.silent hnone] at hcall
        cases hcall
      unfold onSpeechData
      cases sound with
      | true =>
          have hsettles := onSpeechDone_settles lookup
            { s with
              toSounds := s.toSounds.eraseIdx n
              published := s.published ++ [call.request] } hv
          exact h.settle hv ⟨hsettles.settled, hsettles.voices,
            hsettles.answered, hsettles.queued⟩
      | false =>
          have hsettles := onSpeechDone_settles lookup
            { s with toSounds := s.toSounds.eraseIdx n } hv
          exact h.settle hv ⟨hsettles.settled, hsettles.voices,
            hsettles.answered, hsettles.queued⟩
  | speechDone n lookup => cases ht

end Remote

/-! ## Both -/

end SelfPlugins.Speech
