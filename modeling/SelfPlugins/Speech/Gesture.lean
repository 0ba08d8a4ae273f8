import Mathlib.Data.Nat.Notation
import SelfPlugins.Library.Runs

/-!
# The speech gestures

`LinuxSpeechGesture`, `AQSpeechGesture` and `SotaSpeechGesture` speak the
requests of their queue one after the other: text-to-speech gives a sound, a
thread plays it, and the main thread then takes the next request.  The audio
sensors are paused when a sound arrives, and resumed by `OnSpeechDone` and
`Abort`.

The first two classes have the same code; the third waits for the list of
voices before it speaks.  Several speeches may be under way at once, since
`Abort` empties the queue but stops nothing, so the state keeps lists of
them.  The queue is that of `IGesture`: `PushRequest` appends and tells whether
it was empty, `PopRequest` removes the front and tells whether any remain.
-/

namespace SelfPlugins.Speech

inductive Platform where
  | linux
  | aq
  | sota
deriving DecidableEq

structure Params where
  text : String
  gender : String
  language : String
deriving DecidableEq

/-- A request; `id` tells the calls of `Execute` apart. -/
structure Request where
  id : ℕ
  params : Params
deriving DecidableEq

structure Voice where
  language : String
  gender : String
  name : String
deriving DecidableEq

/-- A call of `ToSound`, with the request it was made for. -/
structure ToSound where
  request : Request
  voice : String
  text : String
deriving DecidableEq

structure SpeechGesture where
  requests : List Request
  voices : Option (List Voice)
  /-- The unanswered calls of `ToSound`. -/
  toSounds : List ToSound
  /-- The threads in `OnPlaySpeech`. -/
  playing : List Request
  /-- The calls of `OnSpeechDone` queued on the main thread. -/
  queued : List Request
  pauses : ℕ
  resumes : ℕ
  /-- How often `Execute` has been called. -/
  executed : ℕ

namespace SpeechGesture

def new : SpeechGesture := ⟨[], none, [], [], [], 0, 0, 0⟩

/-! ## Speaking -/

/-- The first voice of the language and gender, if there is any. -/
def chooseVoice (voices : Option (List Voice)) (p : Params) : String :=
  let match? := (voices.getD []).find? fun v =>
    v.language = p.language ∧ v.gender = p.gender
  (match?.map Voice.name).getD "en-US_MichaelVoice"

def toSound (req : Request) (s : SpeechGesture) : SpeechGesture :=
  { s with
    toSounds := s.toSounds ++
      [⟨req, chooseVoice s.voices req.params, req.params.text⟩] }

/-- `ResumeSensorType` of the audio sensors. -/
def resumeSensor (s : SpeechGesture) : SpeechGesture :=
  { s with resumes := s.resumes + 1 }

/-- `PauseSensorType` of the audio sensors. -/
def pauseSensor (s : SpeechGesture) : SpeechGesture :=
  { s with pauses := s.pauses + 1 }

mutual

/-- `StartSpeech`; `service k` is the outcome of the lookup of the
text-to-speech service after `k` others.  It is called with requests only. -/
def startSpeech (p : Platform) (service : ℕ → Bool) (s : SpeechGesture) :
    SpeechGesture :=
  if p = .sota ∧ s.voices = none then s
  else
    match s.requests with
    | req :: _ =>
        if service 0 then toSound req s
        else onSpeechDone p (fun k => service (k + 1)) s
    | [] => onSpeechDone p service s
termination_by (s.requests.length, 1)

def onSpeechDone (p : Platform) (service : ℕ → Bool) (s : SpeechGesture) :
    SpeechGesture :=
  match _hs : s.requests with
  | _ :: req :: rest =>
      startSpeech p service { resumeSensor s with requests := req :: rest }
  | _ => { resumeSensor s with requests := [] }
termination_by (s.requests.length, 0)
decreasing_by
  apply Prod.Lex.left
  simp [_hs]

end

/-! ## Calls and callbacks -/

def execute (p : Platform) (params : Params) (service : ℕ → Bool)
    (s : SpeechGesture) : SpeechGesture :=
  let first := s.requests = []
  let s := { s with
    requests := s.requests ++ [⟨s.executed, params⟩]
    executed := s.executed + 1 }
  if first then startSpeech p service s else s

def abort (s : SpeechGesture) : SpeechGesture :=
  if s.requests = [] then s else resumeSensor { s with requests := [] }

def onVoices (p : Platform) (voices : Option (List Voice))
    (service : ℕ → Bool) (s : SpeechGesture) : SpeechGesture :=
  let s := { s with voices := voices }
  if p = .sota ∧ s.requests ≠ [] then startSpeech p service s else s

/-- `OnSpeechData` for a request; `sound` tells whether there is a sound. -/
def onSpeechData (p : Platform) (req : Request) (sound : Bool)
    (service : ℕ → Bool) (s : SpeechGesture) : SpeechGesture :=
  if sound then
    let s := pauseSensor s
    { s with playing := s.playing ++ [req] }
  else onSpeechDone p service s

/-- The gesture is called, an answer comes in, a sound has been played, or the
main thread gets to a queued `OnSpeechDone`. -/
inductive Event where
  | execute (params : Params) (service : ℕ → Bool)
  | abort
  | voices (voices : Option (List Voice)) (service : ℕ → Bool)
  | speechData (n : ℕ) (sound : Bool) (service : ℕ → Bool)
  | played (n : ℕ)
  | speechDone (n : ℕ) (service : ℕ → Bool)

def step (p : Platform) (s : SpeechGesture) : Event → Option SpeechGesture
  | .execute params service => some (execute p params service s)
  | .abort => some (abort s)
  | .voices voices service => some (onVoices p voices service s)
  | .speechData n sound service =>
      (s.toSounds[n]?).map fun call =>
        onSpeechData p call.request sound service
          { s with toSounds := s.toSounds.eraseIdx n }
  | .played n =>
      (s.playing[n]?).map fun req =>
        { s with
          playing := s.playing.eraseIdx n
          queued := s.queued ++ [req] }
  | .speechDone n service =>
      (s.queued[n]?).map fun _ =>
        onSpeechDone p service { s with queued := s.queued.eraseIdx n }

end SpeechGesture

end SelfPlugins.Speech
