import Mathlib.Logic.Function.Basic
import SelfPlugins.Framework.Json
import SelfPlugins.Framework.WebClient

/-!
# The telephony service

`Telephony` holds one web socket to the telephony gateway.  Commands go over it
as JSON texts; while a call is active, a timer sends the audio that waits in
`m_Outgoing` in binary frames of a fixed size.

`Send()` of a socket may report states before it returns, and the handlers may
call `Send()` again; `sends` is the stack of the calls that have not returned.
The environment keeps to the contract of the web clients: a client that is
closed or disconnected stays so until `Send()` is called, `Send()` leaves it
connecting or connected if it returns true, and closed or disconnected if it
returns false.
-/

namespace SelfPlugins.Nexmo

open Json (Value)

abbrev SocketId := ℕ

/-! ## The state -/

/-- What `AudioData::ParseAudioFormat` reads from the text of a format. -/
structure AudioFormat where
  freq : UInt32
  bps : UInt32
  channels : UInt32
deriving DecidableEq

/-- The credentials, what is parsed from `m_AudioOutFormat`, and the text of a
floating-point number. -/
structure Settings where
  user : String
  password : String
  audioOutFormat : Option AudioFormat
  realText : ℚ → String

/-- A byte of audio, with the number of the call it was accepted in. -/
structure Sample where
  byte : UInt8
  call : ℕ
deriving DecidableEq, Inhabited

/-- A binary frame: the audio, and the number of zeros that fill it up. -/
structure AudioFrame where
  data : List Sample
  padding : ℕ
deriving DecidableEq

/-- The bytes of the audio in a frame. -/
def AudioFrame.audio (f : AudioFrame) : List UInt8 := f.data.map Sample.byte

/-- What is sent for a frame. -/
def AudioFrame.bytes (f : AudioFrame) : List UInt8 :=
  f.audio ++ List.replicate f.padding 0

inductive Message where
  | handshake (selfId apiKey apiSecret : String)
  | dial (toNumber fromNumber : String)
  | answer (toNumber fromNumber : String)
  | hangUp
  | smsOutgoing (toNumber fromNumber message : String)
deriving DecidableEq

/-- What happens on the sockets: `Send()` is called, a state receiver is told
that the connection is closed or lost, something is sent, the server hangs up,
and `Disconnect` gives the socket up. -/
inductive Entry where
  | send (k : SocketId)
  | lost (k : SocketId)
  | text (k : SocketId) (m : Message)
  | binary (k : SocketId) (f : AudioFrame)
  | hungUp
  | disconnect (k : SocketId)
deriving DecidableEq

/-- An answer has been sent. -/
def Entry.isAnswer : Entry → Bool
  | .text _ (.answer _ _) => true
  | _ => false

/-- The number of calls that have been answered. -/
def calls (log : List Entry) : ℕ := log.countP Entry.isAnswer

/-- A web socket; `queued` counts the state notifications that wait for the
main thread. -/
structure Socket where
  state : ClientState
  queued : ℕ
deriving DecidableEq, Inhabited

/-- The handle of the one-shot reconnect timer. -/
inductive TimerHandle where
  | reset
  | armed
  | fired
deriving DecidableEq, Inhabited

structure Telephony where
  settings : Settings
  /-- Is `m_OnCommand` valid? -/
  onCommand : Bool
  /-- Is `m_OnAudioOut` valid? -/
  onAudioOut : Bool
  connection : Option SocketId
  connected : Bool
  inCall : Bool
  myNumber : String
  telephonySelfId : String
  reconnectTimer : TimerHandle
  outgoing : List (List Sample)
  /-- Is `m_spSendTimer` held? -/
  sendTimer : Bool
  nSendBytes : ℕ
  sockets : SocketId → Socket
  nextSocket : SocketId
  sends : List SocketId
  /-- The calls of `m_OnCommand`. -/
  commands : List Value
  /-- The calls of `m_OnAudioOut`. -/
  audioOut : List (List UInt8)
  log : List Entry

namespace Telephony

/-- `FRAME_SIZE`, in samples. -/
def frameSize : UInt32 := 320

def new (settings : Settings) : Telephony where
  settings := settings
  onCommand := false
  onAudioOut := false
  connection := none
  connected := false
  inCall := false
  myNumber := ""
  telephonySelfId := ""
  reconnectTimer := .reset
  outgoing := []
  sendTimer := false
  nSendBytes := (frameSize * 2).toNat
  sockets := fun _ => default
  nextSocket := 0
  sends := []
  commands := []
  audioOut := []
  log := []

def modifySocket (k : SocketId) (f : Socket → Socket) (s : Telephony) :
    Telephony :=
  { s with sockets := Function.update s.sockets k (f (s.sockets k)) }

/-! ## Sending -/

/-- `m_spConnection->SendText`. -/
def sendText (m : Message) (s : Telephony) : Telephony :=
  match s.connection with
  | none => s
  | some k => { s with log := s.log ++ [.text k m] }

def close (k : SocketId) (s : Telephony) : Telephony :=
  modifySocket k (fun x => { x with state := x.state.close }) s

/-- The call of `Send()` begins. -/
def beginSend (k : SocketId) (s : Telephony) : Telephony :=
  { s with
    sends := k :: s.sends
    log := s.log ++ [.send k] }

def startSendTimer (s : Telephony) : Telephony :=
  match s.settings.audioOutFormat with
  | none => s
  | some format =>
      { s with
        nSendBytes := (frameSize * (format.bps / 8) * format.channels).toNat
        sendTimer := true }

/-- The loop of `OnSendAudioData`, for frames of `n` bytes: a frame takes what
it can hold from the front of the queue. -/
def fillFrame {α : Type*} (n : ℕ) (frame : List α) :
    List (List α) → List α × List (List α)
  | [] => (frame, [])
  | data :: rest =>
      if frame.length < n then
        let remaining := n - frame.length
        let bytes := min data.length remaining
        if bytes = data.length then
          fillFrame n (frame ++ data.take bytes) rest
        else
          fillFrame n (frame ++ data.take bytes) (data.drop bytes :: rest)
      else (frame, data :: rest)
termination_by queue => queue.flatten.length + queue.length
decreasing_by
  · simp only [List.flatten_cons, List.length_append, List.length_cons]
    omega
  · simp only [List.flatten_cons, List.length_append, List.length_cons,
      List.length_drop]
    have hbytes : bytes = remaining := by omega
    omega

def onSendAudioData (s : Telephony) : Telephony :=
  match s.connection with
  | some k =>
      if s.inCall then
        let (data, rest) := fillFrame s.nSendBytes [] s.outgoing
        { s with
          outgoing := rest
          log := s.log ++ [.binary k ⟨data, s.nSendBytes - data.length⟩] }
      else { s with sendTimer := false }
  | none => { s with sendTimer := false }

/-! ## Connecting -/

def onReconnect (s : Telephony) : Telephony :=
  match s.connection with
  | none => s
  | some k =>
      if s.reconnectTimer = .reset then
        { s with
          reconnectTimer := .armed
          connected := false }
      else if (s.sockets k).state.isDown then
        beginSend k { s with reconnectTimer := .reset }
      else close k s

/-- `Connect`, up to the call of `Send()`. -/
def connect (selfId : String) (onCommand onAudioOut : Bool) (s : Telephony) :
    Telephony :=
  match s.connection with
  | some _ => s
  | none =>
      if s.settings.user = "" ∨ s.settings.password = "" then s
      else
        let k := s.nextSocket
        beginSend k (modifySocket k (fun _ => ⟨.closed, 0⟩)
          { s with
            telephonySelfId := selfId
            onCommand := onCommand
            onAudioOut := onAudioOut
            connection := some k
            nextSocket := k + 1 })

/-- What follows a call of `Send()`, in `Connect` and in `OnReconnect`. -/
def afterSend (ok : Bool) (s : Telephony) : Telephony :=
  if ok then
    sendText (.handshake s.telephonySelfId s.settings.user s.settings.password)
      s
  else onReconnect s

def dial (number : String) (s : Telephony) : Telephony :=
  sendText (.dial number s.myNumber) s

def answer (fromNumber toNumber : String) (s : Telephony) : Telephony :=
  match s.connection with
  | none => s
  | some _ =>
      startSendTimer
        { sendText (.answer toNumber fromNumber) s with inCall := true }

def hangUp (s : Telephony) : Telephony :=
  match s.connection with
  | none => s
  | some _ => { sendText .hangUp s with inCall := false }

/-- `Text`, which sends a short message. -/
def textMessage (number message : String) (s : Telephony) : Telephony :=
  sendText (.smsOutgoing number s.myNumber message) s

def disconnect (s : Telephony) : Telephony :=
  match s.connection with
  | none => s
  | some k =>
      { close k s with
        connection := none
        connected := false
        inCall := false
        log := s.log ++ [.disconnect k] }

/-- Audio is accepted in a call only. -/
def sendAudioIn (audio : List UInt8) (s : Telephony) : Telephony :=
  if s.connection.isSome ∧ s.inCall then
    { s with outgoing := s.outgoing ++ [audio.map (⟨·, calls s.log⟩)] }
  else s

/-! ## The callbacks of the sockets -/

/-- A frame from the server; a text is modelled after it has been parsed. -/
inductive Frame where
  | text (json : Option Value)
  | binary (data : List UInt8)
  | other

/-- The commands `OnListenMessage` acts on.  A member of the wrong type raises
an exception, which ends the callback. -/
def onCommandReceived (json : Value) (s : Telephony) : Telephony :=
  match (json.get? "command").bind (Value.asString? s.settings.realText) with
  | none => s
  | some command =>
      if command = "ack" then
        match json.read? "my_number" (Value.asString? s.settings.realText)
            s.myNumber with
        | none => s
        | some number => { s with myNumber := number }
      else if command = "hang_up" then
        { s with
          inCall := false
          log := s.log ++ [.hungUp] }
      else s

def onListenMessage (frame : Frame) (s : Telephony) : Telephony :=
  match frame with
  | .text (some json) =>
      onCommandReceived json
        (if s.onCommand then { s with commands := s.commands ++ [json] } else s)
  | .text none => s
  | .binary data =>
      if s.onAudioOut ∧ 0 < data.length then
        { s with audioOut := s.audioOut ++ [data] }
      else s
  | .other => s

/-- `OnListenState`, called by the socket `k`. -/
def onListenState (k : SocketId) (s : Telephony) : Telephony :=
  if s.connection = some k then
    if (s.sockets k).state.isDown then onReconnect { s with connected := false }
    else if (s.sockets k).state = .connected then { s with connected := true }
    else s
  else s

/-- The state receiver of the socket `k` is called; a loss is recorded. -/
def receiveState (k : SocketId) (s : Telephony) : Telephony :=
  onListenState k
    (if (s.sockets k).state.isDown then { s with log := s.log ++ [.lost k] }
    else s)

/-! ## Steps -/

/-- A call from outside, an action of the environment of the sockets, or the
expiry of a timer. -/
inductive Event where
  | connect (selfId : String) (onCommand onAudioOut : Bool)
  | dial (number : String)
  | answer (fromNumber toNumber : String)
  | hangUp
  | textMessage (number message : String)
  | disconnect
  | sendAudioIn (audio : List UInt8)
  | frame (k : SocketId) (f : Frame)
  | socket (k : SocketId) (st : ClientState)
  | notify (k : SocketId)
  | sendNotifies (st : ClientState)
  | sendReturns (ok : Bool) (st : ClientState)
  | reconnectTimer
  | sendTimer

/-- The state of a socket changes by itself, and a notification is queued.  A
socket that is down stays down, unless `Send()` is in progress for it. -/
def socketChanges (k : SocketId) (st : ClientState) (s : Telephony) :
    Option Telephony :=
  if k < s.nextSocket ∧
      ((s.sockets k).state.isDown → st.isDown ∨ k ∈ s.sends) then
    some (modifySocket k (fun x => ⟨st, x.queued + 1⟩) s)
  else none

/-- The main thread calls the state receiver of a socket. -/
def notify (k : SocketId) (s : Telephony) : Option Telephony :=
  if s.sends = [] ∧ 0 < (s.sockets k).queued then
    some (receiveState k
      (modifySocket k (fun x => { x with queued := x.queued - 1 }) s))
  else none

/-- The innermost call of `Send()` reports a state before it returns. -/
def sendNotifies (st : ClientState) (s : Telephony) : Option Telephony :=
  match s.sends with
  | [] => none
  | k :: _ =>
      some (receiveState k (modifySocket k (fun x => { x with state := st }) s))

/-- What `Send()` may return, and leave the client in. -/
def sendContract (ok : Bool) (st : ClientState) : Bool :=
  if ok then st.isOpen else st.isDown

/-- The innermost call of `Send()` returns. -/
def sendReturns (ok : Bool) (st : ClientState) (s : Telephony) :
    Option Telephony :=
  match s.sends with
  | [] => none
  | k :: rest =>
      if sendContract ok st then
        some (afterSend ok
          (modifySocket k (fun x => { x with state := st })
            { s with sends := rest }))
      else none

/-- A call on the main thread, which is not inside of `Send()`. -/
def whenIdle (f : Telephony → Telephony) (s : Telephony) : Option Telephony :=
  if s.sends = [] then some (f s) else none

def step (s : Telephony) : Event → Option Telephony
  | .connect selfId onCommand onAudioOut =>
      whenIdle (connect selfId onCommand onAudioOut) s
  | .dial number => whenIdle (dial number) s
  | .answer fromNumber toNumber => whenIdle (answer fromNumber toNumber) s
  | .hangUp => whenIdle hangUp s
  | .textMessage number message => whenIdle (textMessage number message) s
  | .disconnect => whenIdle disconnect s
  | .sendAudioIn audio => whenIdle (sendAudioIn audio) s
  | .frame k f =>
      if k < s.nextSocket then whenIdle (onListenMessage f) s else none
  | .socket k st => socketChanges k st s
  | .notify k => notify k s
  | .sendNotifies st => sendNotifies st s
  | .sendReturns ok st => sendReturns ok st s
  | .reconnectTimer =>
      if s.reconnectTimer = .armed then
        whenIdle onReconnect { s with reconnectTimer := .fired }
      else none
  | .sendTimer => if s.sendTimer then whenIdle onSendAudioData s else none

end Telephony

end SelfPlugins.Nexmo
