import Mathlib.Data.Rat.Defs
import Mathlib.Algebra.Order.Ring.Unbundled.Rat
import SelfPlugins.Speech.Gesture

/-!
# The speech gesture of Windows

`WinSpeechGesture` plays a speech while it comes in.  `StartSpeech` asks for a
stream of sound; the first chunk starts a playback thread, which waits for half
a second of sound, plays what there is, and has the main thread call
`OnSpeechDone`.  A stream that ends before any playback has that called, too.

Four flags and one sound serve all requests, and the callback of a stream does
not say which one it is.  The streams are numbered here in the order in which
they were asked for, and each chunk is kept with the number of its stream.

A text that is empty, or a missing service, lets `StartSpeech` complete the
request at once; such a request is called refused.
-/

namespace SelfPlugins.WinSpeech

open Speech (Voice)

/-- What the gesture uses of the sound it collects: its duration, the size of
its wave data, and half the size of the playing buffer for its format. -/
structure SoundFormat (Data : Type) where
  time : List Data → ℚ
  size : List Data → ℕ
  midPoint : List Data → ℕ

structure Params where
  text : String
  gender : String
  language : String
  emotion : String
deriving DecidableEq

/-- A request; `id` tells the calls of `Execute` apart, `aborted` is set by
`Abort` while the request is active. -/
structure Request where
  id : ℕ
  params : Params
  aborted : Bool
deriving DecidableEq

/-- A call of `ToSound` for a request, and whether NULL has been received. -/
structure Stream where
  request : ℕ
  voice : String
  text : String
  ended : Bool
deriving DecidableEq

/-- A completed request: the error flag handed to `PopRequest`, whether the
request had been refused, and whether its stream had ended. -/
structure Completion where
  request : Request
  error : Bool
  refused : Bool
  ended : Bool
deriving DecidableEq

/-- Where a thread in `PlayStreamedSound` is: at the head of the loop that
waits for sound, inside of it, behind it with the value of `bSoundReady`, or in
the loop that plays. -/
inductive Playback where
  | waiting
  | sleeping
  | leaving (soundReady : Bool)
  | playing (bytesPlayed midPoint : ℕ)
deriving DecidableEq

/-- `queued` counts the calls of `OnSpeechDone` queued on the main thread,
`executed` those of `Execute`. -/
structure WinSpeechGesture (Data : Type) where
  requests : List Request
  voiceReady : Bool
  voices : Option (List Voice)
  streamPlaying : Bool
  streamDone : Bool
  abortStream : Bool
  error : Bool
  sound : List (ℕ × Data)
  streams : List Stream
  playback : List Playback
  queued : ℕ
  completed : List Completion
  executed : ℕ
  pauses : ℕ
  resumes : ℕ
deriving DecidableEq

namespace WinSpeechGesture

variable {Data : Type}

def new : WinSpeechGesture Data where
  requests := []
  voiceReady := false
  voices := none
  streamPlaying := false
  streamDone := true
  abortStream := false
  error := false
  sound := []
  streams := []
  playback := []
  queued := 0
  completed := []
  executed := 0
  pauses := 0
  resumes := 0

/-! ## Starting and ending a speech -/

/-- The first character of the text is not NUL. -/
def hasText (p : Params) : Bool :=
  decide (p.text.toList.headD (Char.ofNat 0) ≠ Char.ofNat 0)

/-- The first voice of the language and gender, if there is any. -/
def chooseVoice (voices : Option (List Voice)) (p : Params) : String :=
  let match? := (voices.getD []).find? fun v =>
    v.language = p.language ∧ v.gender = p.gender
  (match?.map Voice.name).getD "en-US_AllisonVoice"

/-- The text with the tags of its emotion, which one voice understands. -/
def expressiveText (voice : String) (p : Params) : String :=
  if voice = "en-US_AllisonVoice" then
    if p.emotion = "Apology" then
      "<express-as type=\"Apology\">" ++ p.text ++ "</express-as>"
    else if p.emotion = "GoodNews" then
      "<express-as type=\"GoodNews\">" ++ p.text ++ "</express-as>"
    else p.text
  else p.text

/-- The end of `StartSpeech` for a text when the service is there. -/
def toSound (req : Request) (s : WinSpeechGesture Data) :
    WinSpeechGesture Data :=
  let voice := chooseVoice s.voices req.params
  { s with
    sound := []
    streamDone := false
    abortStream := false
    error := false
    streams := s.streams ++
      [⟨req.id, voice, expressiveText voice req.params, false⟩] }

/-- The stream last asked for is that of the request, and it has ended. -/
def ended (s : WinSpeechGesture Data) (req : Request) : Bool :=
  s.streams.getLast?.any fun st => st.request = req.id && st.ended

/-- The audio sensors are resumed if they have been paused. -/
def resumeSensor (s : WinSpeechGesture Data) : WinSpeechGesture Data :=
  if s.streamPlaying then
    { s with resumes := s.resumes + 1, streamPlaying := false }
  else s

/-- `OnSpeechDone` up to the return of `PopRequest`. -/
def endSpeech (refused : Bool) (s : WinSpeechGesture Data) :
    WinSpeechGesture Data :=
  let s := resumeSensor s
  match s.requests with
  | [] => s
  | req :: rest =>
      { s with
        requests := rest
        completed := s.completed ++ [⟨req, s.error, refused, ended s req⟩] }

/-- `StartSpeech` when the given requests are queued, and with it the calls of
`OnSpeechDone` and `StartSpeech` that follow a refused request; `service k` is
the outcome of the lookup of the service after `k` others. -/
def startFrom : List Request → (service : ℕ → Bool) → WinSpeechGesture Data →
    WinSpeechGesture Data
  | [], _, s => s
  | req :: rest, service, s =>
      if hasText req.params then
        if service 0 then toSound req s
        else startFrom rest (fun k => service (k + 1)) (endSpeech true s)
      else startFrom rest service (endSpeech true s)

def startSpeech (service : ℕ → Bool) (s : WinSpeechGesture Data) :
    WinSpeechGesture Data :=
  startFrom s.requests service s

def onSpeechDone (service : ℕ → Bool) (s : WinSpeechGesture Data) :
    WinSpeechGesture Data :=
  startSpeech service (endSpeech false s)

/-! ## Calls and callbacks -/

def execute (params : Params) (service : ℕ → Bool)
    (s : WinSpeechGesture Data) : WinSpeechGesture Data :=
  let first := s.requests = []
  let s := { s with
    requests := s.requests ++ [⟨s.executed, params, false⟩]
    executed := s.executed + 1 }
  if first ∧ s.voiceReady then startSpeech service s else s

/-- The request is marked for the record; the code only sets the flag. -/
def abort (s : WinSpeechGesture Data) : WinSpeechGesture Data :=
  { s with
    abortStream := true
    requests := match s.requests with
      | [] => []
      | req :: rest => { req with aborted := true } :: rest }

def onVoices (voices : Option (List Voice)) (service : ℕ → Bool)
    (s : WinSpeechGesture Data) : WinSpeechGesture Data :=
  let s := { s with voices := voices, voiceReady := true }
  if s.requests = [] then s else startSpeech service s

/-- `OnSpeechData` for a chunk, which comes from the stream `k`. -/
def onChunk (k : ℕ) (data : Data) (s : WinSpeechGesture Data) :
    WinSpeechGesture Data :=
  let s := if s.streamPlaying then s else { s with
    streamPlaying := true
    pauses := s.pauses + 1
    playback := s.playback ++ [.waiting] }
  { s with sound := s.sound ++ [(k, data)] }

/-- For the record, the stream `k` has ended. -/
def endStream (k : ℕ) (st : Stream) (s : WinSpeechGesture Data) :
    WinSpeechGesture Data :=
  { s with streams := s.streams.set k { st with ended := true } }

/-- `OnSpeechData` for NULL. -/
def onEnd (s : WinSpeechGesture Data) : WinSpeechGesture Data :=
  let s := { s with streamDone := true }
  if s.streamPlaying then s
  else { s with error := true, queued := s.queued + 1 }

/-! ## Playback -/

/-- The sound without the numbers of the streams. -/
def data (s : WinSpeechGesture Data) : List Data := s.sound.map Prod.snd

/-- One piece of `PlayStreamedSound` between two points at which the lock is
released; `none` is its end.  `ok` is set if DirectSound does what it is asked
for, `moved` if the playing position has crossed the middle of the buffer. -/
def play (f : SoundFormat Data) (ok moved : Bool) (s : WinSpeechGesture Data) :
    Playback → Option Playback
  | .waiting => some (if s.abortStream then .leaving false else .sleeping)
  | .sleeping =>
      some (if 1 / 2 ≤ f.time s.data ∨ s.streamDone then .leaving true
        else .waiting)
  | .leaving soundReady =>
      if soundReady ∧ !s.abortStream ∧ 0 < f.time s.data ∧ ok ∧
          0 < f.size s.data then
        some (.playing 0 (f.midPoint s.data))
      else none
  | .playing bytesPlayed midPoint =>
      let played := if moved then bytesPlayed + midPoint else bytesPlayed
      if ok ∧ played < f.size s.data then some (.playing played midPoint)
      else none

/-- A call from outside, a chunk or the end of a stream, a piece of a playback
thread, or a queued call of `OnSpeechDone`. -/
inductive Event (Data : Type) where
  | execute (params : Params) (service : ℕ → Bool)
  | abort
  | voices (voices : Option (List Voice)) (service : ℕ → Bool)
  | speechData (k : ℕ) (data : Option Data)
  | playback (n : ℕ) (ok moved : Bool)
  | speechDone (service : ℕ → Bool)

def step (f : SoundFormat Data) (s : WinSpeechGesture Data) :
    Event Data → Option (WinSpeechGesture Data)
  | .execute params service => some (execute params service s)
  | .abort => some (abort s)
  | .voices voices service => some (onVoices voices service s)
  | .speechData k data =>
      s.streams[k]?.bind fun st =>
        if st.ended then none
        else
          match data with
          | some d => some (onChunk k d s)
          | none => some (onEnd (endStream k st s))
  | .playback n ok moved =>
      s.playback[n]?.map fun p =>
        match play f ok moved s p with
        | some q => { s with playback := s.playback.set n q }
        | none => { s with
            playback := s.playback.eraseIdx n
            queued := s.queued + 1 }
  | .speechDone service =>
      if s.queued = 0 then none
      else some (onSpeechDone service { s with queued := s.queued - 1 })

end WinSpeechGesture

end SelfPlugins.WinSpeech
