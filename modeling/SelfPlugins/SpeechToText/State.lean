import Mathlib.Data.Rat.Defs
import Mathlib.Logic.Function.Basic
import SelfPlugins.Framework.WebClient

/-!
# Speech to text: the state

`SpeechToText` keeps one `Connection` for each recognition model, and each
connection has a web socket to the service.  Connections and sockets are
objects with an identity: they are kept in tables by the order of creation, so
that a destroyed connection or a replaced socket can still be spoken of.

`Send()` of a socket may report states before it returns, and the handlers may
call `Send()` again; `sends` is the stack of the calls that have not returned,
and `loop` tells what is left of `StartListening` or `RefreshConnections`
meanwhile.
-/

namespace SelfPlugins.Stt

abbrev ConnId := ℕ

abbrev SocketId := ℕ

/-- A callback for recognition results. -/
abbrev CallbackId := ℕ

structure SpeechAudioData where
  rate : ℤ
  level : ℚ
  pcm : String
deriving DecidableEq

/-- The message that announces audio; `rate` is the recording rate as `%u`
prints it. -/
structure StartMessage where
  rate : ℕ
  continuous : Bool
  maxAlternatives : ℤ
  interimResults : Bool
  wordConfidence : Bool
  timestamps : Bool
  inactivityTimeout : ℤ
deriving DecidableEq

inductive SocketMessage where
  | start (m : StartMessage)
  | stop
  | binary (pcm : String)
deriving DecidableEq

/-- A web socket.  `learningOptOut` and `model` are the parameters of its URL;
`queued` counts the state notifications that wait for the main thread.  The
socket is `lost` once `Send()` has returned false or the loss of the connection
has been handled, until `Send()` is called again. -/
structure Socket where
  owner : ConnId
  learningOptOut : Bool
  model : String
  state : ClientState
  queued : ℕ
  lost : Bool
  messages : List SocketMessage
deriving DecidableEq, Inhabited

/-- The handle of the one-shot reconnect timer; an armed one remembers the
socket it was armed for. -/
inductive TimerHandle where
  | reset
  | armed (socket : Option SocketId)
  | fired
deriving DecidableEq, Inhabited

structure Connection where
  recognizeModel : String
  language : String
  listenSocket : Option SocketId
  listenActive : Bool
  audioSent : Bool
  connected : Bool
  lastStartSent : ℚ
  recordingHZ : ℤ
  reconnecting : Bool
  reconnectTimer : TimerHandle
deriving Inhabited

/-- A new connection; the language is the model up to its first underscore. -/
def Connection.new (model : String) (now : ℚ) : Connection where
  recognizeModel := model
  language := String.ofList (model.toList.takeWhile (· ≠ '_'))
  listenSocket := none
  listenActive := false
  audioSent := false
  connected := false
  lastStartSent := now
  recordingHZ := -1
  reconnecting := false
  reconnectTimer := .reset

structure RecognizeResults where
  id : ℕ
  conn : ConnId
  language : String
  confidence : ℚ
  hasFinalResult : Bool
deriving DecidableEq

/-- The two places `Send()` is called at. -/
inductive Site where
  | create
  | reconnect
deriving DecidableEq

/-- A call of `Send()` that has not returned. -/
structure Send where
  conn : ConnId
  socket : SocketId
  site : Site
deriving DecidableEq

/-- What is left to do when the call of `Send()` returns: in `StartListening`
to add the connection and to start the other models, in `RefreshConnections`
to refresh the other connections. -/
inductive Loop where
  | idle
  | starting (c : ConnId) (models : List String)
  | refreshing (cs : List ConnId)
deriving DecidableEq

/-- The settings that are not changed while listening. -/
structure Settings where
  models : List String
  maxAlternatives : ℤ
  timestamps : Bool
  wordConfidence : Bool
  continous : Bool
  interium : Bool
  timeout : ℤ
  detectSilence : Bool
  silenceThreshold : ℚ

structure SpeechToText where
  settings : Settings
  learningOptOut : Bool
  isListening : Bool
  /-- The listen callback while it is valid. -/
  listenCallback : Option CallbackId
  connections : List ConnId
  resultList : List RecognizeResults
  /-- Is `m_spResultTimer` armed? -/
  resultTimer : Bool
  now : ℚ
  conn : ConnId → Connection
  nextConn : ConnId
  sockets : SocketId → Socket
  nextSocket : SocketId
  sends : List Send
  loop : Loop
  nextResult : ℕ
  /-- The calls of listen callbacks. -/
  delivered : List (CallbackId × Option RecognizeResults)
  /-- The results that were deleted. -/
  deleted : List RecognizeResults
  /-- The calls of `m_OnError`. -/
  errors : List String
  /-- The connections that stopped the service themselves. -/
  selfStops : List ConnId

namespace SpeechToText

def new (settings : Settings) : SpeechToText where
  settings := settings
  learningOptOut := true
  isListening := false
  listenCallback := none
  connections := []
  resultList := []
  resultTimer := false
  now := 0
  conn := fun _ => default
  nextConn := 0
  sockets := fun _ => default
  nextSocket := 0
  sends := []
  loop := .idle
  nextResult := 0
  delivered := []
  deleted := []
  errors := []
  selfStops := []

/-- The main thread is not inside of `Send()`. -/
def Idle (s : SpeechToText) : Prop := s.sends = [] ∧ s.loop = .idle

instance (s : SpeechToText) : Decidable s.Idle :=
  inferInstanceAs (Decidable (s.sends = [] ∧ s.loop = .idle))

def modifyConn (c : ConnId) (f : Connection → Connection)
    (s : SpeechToText) : SpeechToText :=
  { s with conn := Function.update s.conn c (f (s.conn c)) }

def modifySocket (k : SocketId) (f : Socket → Socket) (s : SpeechToText) :
    SpeechToText :=
  { s with sockets := Function.update s.sockets k (f (s.sockets k)) }

/-- Apply a change to `m_spListenSocket`, if there is one. -/
def onListenSocket (c : ConnId) (f : Socket → Socket) (s : SpeechToText) :
    SpeechToText :=
  match (s.conn c).listenSocket with
  | none => s
  | some k => modifySocket k f s

/-- `m_spListenSocket->GetState()`. -/
def listenState (s : SpeechToText) (c : ConnId) : ClientState :=
  match (s.conn c).listenSocket with
  | none => .closed
  | some k => (s.sockets k).state

end SpeechToText

end SelfPlugins.Stt
