import SelfPlugins.SpeechToText.State

/-!
# Speech to text: the functions and the step relation

The functions of `SpeechToText` and `SpeechToText::Connection`.  A function
that calls `Send()` ends with the call: what follows it is the business of
`sendReturns`, where the site of the call tells how to go on.

The environment keeps to the contract of the web clients: a client that is
closed or disconnected stays so until `Send()` is called, `Send()` leaves it
connecting or connected if it returns true, and closed or disconnected if it
returns false.  A state change queues a notification, unless `Send()` reports it
at once; the state receiver looks at the state the socket has when it is called.
-/

namespace SelfPlugins.Stt

namespace SpeechToText

/-! ## Sending -/

/-- The recording rate as `%u` prints it. -/
def printedRate (hz : ℤ) : ℕ := (BitVec.ofInt 32 hz).toNat

def sendMessage (m : SocketMessage) (k : Socket) : Socket :=
  { k with messages := k.messages ++ [m] }

def close (k : Socket) : Socket := { k with state := k.state.close }

def sendStart (c : ConnId) (s : SpeechToText) : SpeechToText :=
  let start : StartMessage :=
    { rate := printedRate (s.conn c).recordingHZ
      continuous := s.settings.continous
      maxAlternatives := s.settings.maxAlternatives
      interimResults := s.settings.interium
      wordConfidence := s.settings.wordConfidence
      timestamps := s.settings.timestamps
      inactivityTimeout := s.settings.timeout }
  modifyConn c (fun x => { x with lastStartSent := s.now })
    (onListenSocket c (sendMessage (.start start)) s)

def sendStop (c : ConnId) (s : SpeechToText) : SpeechToText :=
  if (s.conn c).listenActive then
    modifyConn c (fun x => { x with
      lastStartSent := s.now
      listenActive := false })
      (onListenSocket c (sendMessage .stop) s)
  else s

/-- The call of `Send()` begins. -/
def beginSend (c : ConnId) (site : Site) (s : SpeechToText) : SpeechToText :=
  match (s.conn c).listenSocket with
  | none => s
  | some k =>
      modifySocket k (fun x => { x with lost := false })
        { s with sends := ⟨c, k, site⟩ :: s.sends }

/-- `LISTEN_TIMEOUT`, in seconds. -/
def listenTimeout : ℚ := 60

/-- The first part of `SendAudio`: the first clip on a socket is announced. -/
def announce (c : ConnId) (clip : SpeechAudioData) (s : SpeechToText) :
    SpeechToText :=
  if (s.conn c).recordingHZ < 0 then
    sendStart c (modifyConn c (fun x => { x with recordingHZ := clip.rate }) s)
  else s

/-- The second part of `SendAudio`.  Nothing is queued while the server is not
listening, since `ENABLE_AUDIO_QUEUE` is off. -/
def sendClip (c : ConnId) (clip : SpeechAudioData) (s : SpeechToText) :
    SpeechToText :=
  if !s.settings.detectSilence ∨ s.settings.silenceThreshold ≤ clip.level then
    if (s.conn c).listenActive then
      modifyConn c (fun x => { x with audioSent := true })
        (onListenSocket c (sendMessage (.binary clip.pcm)) s)
    else s
  else if (s.conn c).audioSent then
    modifyConn c (fun x => { x with audioSent := false }) (sendStop c s)
  else s

/-- The third part of `SendAudio`: the server should be listening by now. -/
def checkListening (c : ConnId) (s : SpeechToText) : SpeechToText :=
  if !(s.conn c).listenActive ∧
      listenTimeout < s.now - (s.conn c).lastStartSent then
    let s := onListenSocket c close
      (modifyConn c (fun x => { x with lastStartSent := s.now }) s)
    { s with errors := s.errors ++ ["Failed to enter listening state."] }
  else s

def sendAudio (c : ConnId) (clip : SpeechAudioData) (s : SpeechToText) :
    SpeechToText :=
  checkListening c (sendClip c clip (announce c clip s))

/-! ## Connecting -/

/-- `StopListening`; the destroyed connections take their timers and their
state receivers with them. -/
def stopListening (s : SpeechToText) : SpeechToText :=
  if s.isListening then
    { s with
      isListening := false
      connections := []
      listenCallback := none }
  else s

def onReconnect (c : ConnId) (s : SpeechToText) : SpeechToText :=
  if s.isListening then
    if !(s.conn c).reconnecting then
      modifyConn c (fun x => { x with
        reconnectTimer := .armed x.listenSocket
        reconnecting := true
        connected := false
        listenActive := false }) s
    else if (s.listenState c).isDown then
      beginSend c .reconnect (modifyConn c (fun x => { x with
        recordingHZ := -1
        lastStartSent := s.now
        reconnecting := false
        reconnectTimer := .reset }) s)
    else stopListening { s with selfStops := s.selfStops ++ [c] }
  else s

/-- `CreateListenConnector`, up to the call of `Send()`. -/
def createListenConnector (c : ConnId) (s : SpeechToText) : SpeechToText :=
  match (s.conn c).listenSocket with
  | some _ => s
  | none =>
      let k := s.nextSocket
      let socket : Socket :=
        { owner := c
          learningOptOut := s.learningOptOut
          model := (s.conn c).recognizeModel
          state := .closed
          queued := 0
          lost := false
          messages := [] }
      beginSend c .create
        (modifyConn c (fun x => { x with listenSocket := some k })
          (modifySocket k (fun _ => socket) { s with nextSocket := k + 1 }))

/-- `CloseListenConnector`. -/
def closeListenConnector (c : ConnId) (s : SpeechToText) : SpeechToText :=
  modifyConn c (fun x => { x with listenSocket := none }) s

/-- `Connection::Refresh`. -/
def refresh (c : ConnId) (s : SpeechToText) : SpeechToText :=
  let s := modifyConn c (fun x => { x with
    connected := false
    listenActive := false }) s
  createListenConnector c (closeListenConnector c (onListenSocket c close s))

/-- `Connection::Disconnected`. -/
def disconnected (c : ConnId) (s : SpeechToText) : SpeechToText :=
  match (s.conn c).listenSocket with
  | none => s
  | some _ =>
      onListenSocket c close
        (modifyConn c (fun x => { x with connected := false }) s)

/-- The loop of `StartListening`: create and start the connections of the
models. -/
def startNext (models : List String) (s : SpeechToText) : SpeechToText :=
  match models with
  | [] => { s with loop := .idle }
  | model :: rest =>
      let c := s.nextConn
      createListenConnector c
        (modifyConn c (fun _ => Connection.new model s.now)
          { s with nextConn := c + 1, loop := .starting c rest })

/-- The loop of `RefreshConnections`. -/
def refreshNext (cs : List ConnId) (s : SpeechToText) : SpeechToText :=
  match cs with
  | [] => { s with loop := .idle }
  | c :: rest => refresh c { s with loop := .refreshing rest }

/-- `Send()` has returned to the loop it was called from. -/
def resume (s : SpeechToText) : SpeechToText :=
  if s.sends = [] then
    match s.loop with
    | .idle => s
    | .starting c models =>
        startNext models { s with connections := s.connections ++ [c] }
    | .refreshing cs => refreshNext cs s
  else s

def startListening (callback : Option CallbackId) (s : SpeechToText) :
    SpeechToText :=
  match callback with
  | none => s
  | some _ =>
      if s.isListening then s
      else
        startNext s.settings.models
          { s with isListening := true, listenCallback := callback }

def setLearningOptOut (flag : Bool) (s : SpeechToText) : SpeechToText :=
  if s.learningOptOut = flag then s
  else
    startListening s.listenCallback
      (stopListening { s with learningOptOut := flag })

def refreshConnections (s : SpeechToText) : SpeechToText :=
  if s.isListening then refreshNext s.connections s else s

/-- `SpeechToText::Disconnected`. -/
def disconnectAll (s : SpeechToText) : SpeechToText :=
  s.connections.foldl (fun s c => disconnected c s) s

def onListen (clip : SpeechAudioData) (s : SpeechToText) : SpeechToText :=
  if s.isListening then
    s.connections.foldl (fun s c => sendAudio c clip s) s
  else s

/-! ## State notifications -/

/-- `OnListenState`, called by the socket `k`. -/
def onListenState (c : ConnId) (k : SocketId) (s : SpeechToText) :
    SpeechToText :=
  if (s.conn c).listenSocket = some k then
    if s.isListening then
      if (s.sockets k).state.isDown then
        onReconnect c
          (modifyConn c (fun x => { x with
            connected := false
            listenActive := false })
            (modifySocket k (fun x => { x with lost := true }) s))
      else if (s.sockets k).state = .connected then
        modifyConn c (fun x => { x with connected := true }) s
      else s
    else s
  else s

/-- The innermost call of `Send()` reports a state before it returns. -/
def sendNotifies (st : ClientState) (s : SpeechToText) :
    Option SpeechToText :=
  match s.sends with
  | [] => none
  | call :: _ =>
      some (onListenState call.conn call.socket
        (modifySocket call.socket (fun x => { x with state := st }) s))

/-- What `Send()` may return, and leave the client in. -/
def sendContract (ok : Bool) (st : ClientState) : Bool :=
  if ok then st.isOpen else st.isDown

/-- What follows a call of `Send()`. -/
def afterSend (call : Send) (ok : Bool) (s : SpeechToText) : SpeechToText :=
  if ok then
    match call.site with
    | .create => modifyConn call.conn (fun x => { x with
        recordingHZ := -1
        lastStartSent := s.now }) s
    | .reconnect => s
  else
    let s := modifySocket call.socket (fun x => { x with lost := true }) s
    match call.site with
    | .create => onReconnect call.conn
        (modifyConn call.conn (fun x => { x with connected := false }) s)
    | .reconnect => onReconnect call.conn s

/-- The innermost call of `Send()` returns. -/
def sendReturns (ok : Bool) (st : ClientState) (s : SpeechToText) :
    Option SpeechToText :=
  match s.sends with
  | [] => none
  | call :: rest =>
      if sendContract ok st then
        some (resume (afterSend call ok
          (modifySocket call.socket (fun x => { x with state := st })
            { s with sends := rest })))
      else none

/-! ## Results -/

/-- The loop of `OnFinalizeResult`: the best result, and those deleted. -/
def bestResult : Option RecognizeResults → List RecognizeResults →
    Option RecognizeResults × List RecognizeResults
  | best, [] => (best, [])
  | none, r :: rs => bestResult (some r) rs
  | some b, r :: rs =>
      if b.confidence < r.confidence then
        let rest := bestResult (some r) rs
        (rest.1, b :: rest.2)
      else
        let rest := bestResult (some b) rs
        (rest.1, r :: rest.2)

def onFinalizeResult (s : SpeechToText) : SpeechToText :=
  let best := bestResult none s.resultList
  let s := { s with
    resultTimer := false
    resultList := []
    deleted := s.deleted ++ best.2 }
  match s.listenCallback with
  | none =>
      let s := stopListening s
      { s with deleted := s.deleted ++ best.1.toList }
  | some callback =>
      { s with delivered := s.delivered ++ [(callback, best.1)] }

def onReconizeResult (r : RecognizeResults) (s : SpeechToText) :
    SpeechToText :=
  let s := { s with resultList := s.resultList ++ [r] }
  if s.settings.models.length ≤ s.resultList.length then onFinalizeResult s
  else { s with resultTimer := true }

/-- A frame from the server, after parsing. -/
inductive Frame where
  | results (confidence : ℚ) (hasFinalResult : Bool)
  | badResults
  | state (text : String)
  | error (text : String)
  | other
deriving DecidableEq

def onListenMessage (c : ConnId) (frame : Frame) (s : SpeechToText) :
    SpeechToText :=
  match frame with
  | .results confidence hasFinalResult =>
      let r : RecognizeResults :=
        ⟨s.nextResult, c, (s.conn c).language, confidence, hasFinalResult⟩
      let s := { s with nextResult := s.nextResult + 1 }
      onReconizeResult r
        (if !s.settings.continous && hasFinalResult then sendStart c s else s)
  | .badResults => s
  | .state text =>
      if text = "listening" ∧ s.isListening ∧ !(s.conn c).listenActive then
        modifyConn c (fun x => { x with listenActive := true }) s
      else s
  | .error text =>
      let s := onListenSocket c close s
      { s with errors := s.errors ++ [text] }
  | .other => s

/-! ## Steps -/

/-- A call from outside, an action of the environment of the sockets, or the
expiry of a timer. -/
inductive Event where
  | startListening (callback : Option CallbackId)
  | stopListening
  | setLearningOptOut (flag : Bool)
  | refreshConnections
  | disconnected
  | onListen (clip : SpeechAudioData)
  | frame (k : SocketId) (frame : Frame)
  | socket (k : SocketId) (st : ClientState)
  | notify (k : SocketId)
  | sendNotifies (st : ClientState)
  | sendReturns (ok : Bool) (st : ClientState)
  | reconnectTimer (c : ConnId)
  | resultTimer
  | elapse (seconds : ℚ)
  | invalidate
deriving DecidableEq

/-- The state of a socket changes by itself, and a notification is queued.  A
socket that is down stays down, unless `Send()` is in progress for it. -/
def socketChanges (k : SocketId) (st : ClientState) (s : SpeechToText) :
    Option SpeechToText :=
  if k < s.nextSocket ∧ ((s.sockets k).state.isDown → st.isDown ∨
      ∃ call ∈ s.sends, call.socket = k) then
    some (modifySocket k (fun x => { x with
      state := st
      queued := x.queued + 1 }) s)
  else none

/-- The main thread calls the state receiver of a socket, unless its
connection has been destroyed. -/
def notify (k : SocketId) (s : SpeechToText) : Option SpeechToText :=
  if s.Idle ∧ 0 < (s.sockets k).queued then
    let s := modifySocket k (fun x => { x with queued := x.queued - 1 }) s
    let c := (s.sockets k).owner
    if c ∈ s.connections then some (onListenState c k s) else some s
  else none

/-- A reconnect timer that is held and armed expires. -/
def reconnectTimer (c : ConnId) (s : SpeechToText) : Option SpeechToText :=
  match (s.conn c).reconnectTimer with
  | .armed _ =>
      if s.Idle ∧ c ∈ s.connections then
        some (onReconnect c
          (modifyConn c (fun x => { x with reconnectTimer := .fired }) s))
      else none
  | .reset | .fired => none

/-- A call on the main thread, which is not inside of `Send()`. -/
def whenIdle (f : SpeechToText → SpeechToText) (s : SpeechToText) :
    Option SpeechToText :=
  if s.Idle then some (f s) else none

def step (s : SpeechToText) : Event → Option SpeechToText
  | .startListening callback => whenIdle (startListening callback) s
  | .stopListening => whenIdle stopListening s
  | .setLearningOptOut flag => whenIdle (setLearningOptOut flag) s
  | .refreshConnections => whenIdle refreshConnections s
  | .disconnected => whenIdle disconnectAll s
  | .onListen clip => whenIdle (onListen clip) s
  | .frame k frame =>
      if k < s.nextSocket ∧ (s.sockets k).owner ∈ s.connections then
        whenIdle (onListenMessage (s.sockets k).owner frame) s
      else none
  | .socket k st => socketChanges k st s
  | .notify k => notify k s
  | .sendNotifies st => sendNotifies st s
  | .sendReturns ok st => sendReturns ok st s
  | .reconnectTimer c => reconnectTimer c s
  | .resultTimer => if s.resultTimer then whenIdle onFinalizeResult s else none
  | .elapse seconds =>
      if 0 ≤ seconds then some { s with now := s.now + seconds } else none
  | .invalidate => some { s with listenCallback := none }

end SpeechToText

end SelfPlugins.Stt
