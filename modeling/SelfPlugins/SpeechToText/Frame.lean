import SelfPlugins.SpeechToText.Model

/-!
# Speech to text: what the functions leave alone

Most functions do not touch what the reconnection logic depends on: the socket
of a connection, its reconnect flag and timer, and for each socket its owner, its
notifications, whether it is lost, and whether it is down (`Quiet`).  The others change the
connection they are called for, and its sockets (`Only`).

The last section says for each event when it is possible and what it does.
-/

namespace SelfPlugins.Stt

namespace SpeechToText

/-- Nothing that matters for the reconnection changes from `s` to `t`. -/
structure Quiet (s t : SpeechToText) : Prop where
  isListening : t.isListening = s.isListening
  connections : t.connections = s.connections
  loop : t.loop = s.loop
  sends : t.sends = s.sends
  nextConn : t.nextConn = s.nextConn
  nextSocket : t.nextSocket = s.nextSocket
  selfStops : t.selfStops = s.selfStops
  listenSocket : ∀ c, (t.conn c).listenSocket = (s.conn c).listenSocket
  reconnecting : ∀ c, (t.conn c).reconnecting = (s.conn c).reconnecting
  timer : ∀ c, (t.conn c).reconnectTimer = (s.conn c).reconnectTimer
  owner : ∀ k, (t.sockets k).owner = (s.sockets k).owner
  lost : ∀ k, (t.sockets k).lost = (s.sockets k).lost
  queued : ∀ k, (t.sockets k).queued = (s.sockets k).queued
  isDown : ∀ k, (t.sockets k).state.isDown = (s.sockets k).state.isDown

theorem Quiet.refl (s : SpeechToText) : Quiet s s where
  isListening := rfl
  connections := rfl
  loop := rfl
  sends := rfl
  nextConn := rfl
  nextSocket := rfl
  selfStops := rfl
  listenSocket _ := rfl
  reconnecting _ := rfl
  timer _ := rfl
  owner _ := rfl
  lost _ := rfl
  queued _ := rfl
  isDown _ := rfl

theorem Quiet.trans {s t u : SpeechToText} (hst : Quiet s t)
    (htu : Quiet t u) : Quiet s u where
  isListening := htu.isListening.trans hst.isListening
  connections := htu.connections.trans hst.connections
  loop := htu.loop.trans hst.loop
  sends := htu.sends.trans hst.sends
  nextConn := htu.nextConn.trans hst.nextConn
  nextSocket := htu.nextSocket.trans hst.nextSocket
  selfStops := htu.selfStops.trans hst.selfStops
  listenSocket c := (htu.listenSocket c).trans (hst.listenSocket c)
  reconnecting c := (htu.reconnecting c).trans (hst.reconnecting c)
  timer c := (htu.timer c).trans (hst.timer c)
  owner k := (htu.owner k).trans (hst.owner k)
  lost k := (htu.lost k).trans (hst.lost k)
  queued k := (htu.queued k).trans (hst.queued k)
  isDown k := (htu.isDown k).trans (hst.isDown k)

theorem modifyConn_conn (c c' : ConnId) (f : Connection → Connection)
    (s : SpeechToText) : (modifyConn c f s).conn c' =
      if c' = c then f (s.conn c) else s.conn c' := by
  simp [modifyConn, Function.update_apply]

theorem modifySocket_sockets (k l : SocketId) (f : Socket → Socket)
    (s : SpeechToText) : (modifySocket k f s).sockets l =
      if l = k then f (s.sockets k) else s.sockets l := by
  simp [modifySocket, Function.update_apply]

/-- A change of the connection that keeps its socket, flag and timer. -/
theorem quiet_modifyConn (c : ConnId) {f : Connection → Connection}
    (hsocket : ∀ x, (f x).listenSocket = x.listenSocket)
    (hreconnecting : ∀ x, (f x).reconnecting = x.reconnecting)
    (htimer : ∀ x, (f x).reconnectTimer = x.reconnectTimer)
    (s : SpeechToText) : Quiet s (modifyConn c f s) where
  isListening := rfl
  connections := rfl
  loop := rfl
  sends := rfl
  nextConn := rfl
  nextSocket := rfl
  selfStops := rfl
  listenSocket c' := by
    rw [modifyConn_conn]
    split
    · rename_i heq
      rw [hsocket, heq]
    · rfl
  reconnecting c' := by
    rw [modifyConn_conn]
    split
    · rename_i heq
      rw [hreconnecting, heq]
    · rfl
  timer c' := by
    rw [modifyConn_conn]
    split
    · rename_i heq
      rw [htimer, heq]
    · rfl
  owner _ := rfl
  lost _ := rfl
  queued _ := rfl
  isDown _ := rfl

/-- A change of a socket that keeps its owner and notifications, and whether it
is lost or down. -/
theorem quiet_modifySocket (k : SocketId) {f : Socket → Socket}
    (howner : ∀ x, (f x).owner = x.owner) (hlost : ∀ x, (f x).lost = x.lost)
    (hqueued : ∀ x, (f x).queued = x.queued)
    (hdown : ∀ x, (f x).state.isDown = x.state.isDown) (s : SpeechToText) :
    Quiet s (modifySocket k f s) where
  isListening := rfl
  connections := rfl
  loop := rfl
  sends := rfl
  nextConn := rfl
  nextSocket := rfl
  selfStops := rfl
  listenSocket _ := rfl
  reconnecting _ := rfl
  timer _ := rfl
  owner l := by
    rw [modifySocket_sockets]
    split
    · rename_i heq
      rw [howner, heq]
    · rfl
  lost l := by
    rw [modifySocket_sockets]
    split
    · rename_i heq
      rw [hlost, heq]
    · rfl
  queued l := by
    rw [modifySocket_sockets]
    split
    · rename_i heq
      rw [hqueued, heq]
    · rfl
  isDown l := by
    rw [modifySocket_sockets]
    split
    · rename_i heq
      rw [hdown, heq]
    · rfl

theorem quiet_onListenSocket (c : ConnId) {f : Socket → Socket}
    (howner : ∀ x, (f x).owner = x.owner) (hlost : ∀ x, (f x).lost = x.lost)
    (hqueued : ∀ x, (f x).queued = x.queued)
    (hdown : ∀ x, (f x).state.isDown = x.state.isDown) (s : SpeechToText) :
    Quiet s (onListenSocket c f s) := by
  rw [onListenSocket]
  split
  · exact Quiet.refl s
  · exact quiet_modifySocket _ howner hlost hqueued hdown s

theorem quiet_sendMessage (c : ConnId) (m : SocketMessage)
    (s : SpeechToText) : Quiet s (onListenSocket c (sendMessage m) s) := by
  apply quiet_onListenSocket
  · exact fun _ => rfl
  · exact fun _ => rfl
  · exact fun _ => rfl
  · exact fun _ => rfl

theorem quiet_close (c : ConnId) (s : SpeechToText) :
    Quiet s (onListenSocket c close s) := by
  apply quiet_onListenSocket
  · exact fun _ => rfl
  · exact fun _ => rfl
  · exact fun _ => rfl
  · exact fun x => ClientState.isDown_close x.state

theorem quiet_errors (errors : List String) (s : SpeechToText) :
    Quiet s { s with errors := errors } :=
  { Quiet.refl s with }

/-! ## Audio, frames and results -/

/-- Changes of the audio and listening state of a connection. -/
theorem quiet_audio (c : ConnId) {f : Connection → Connection}
    (hf : ∀ x, ∃ listenActive audioSent connected lastStartSent recordingHZ,
      f x = { x with
        listenActive := listenActive
        audioSent := audioSent
        connected := connected
        lastStartSent := lastStartSent
        recordingHZ := recordingHZ })
    (s : SpeechToText) : Quiet s (modifyConn c f s) := by
  apply quiet_modifyConn
  · intro x
    obtain ⟨_, _, _, _, _, h⟩ := hf x
    rw [h]
  · intro x
    obtain ⟨_, _, _, _, _, h⟩ := hf x
    rw [h]
  · intro x
    obtain ⟨_, _, _, _, _, h⟩ := hf x
    rw [h]

theorem quiet_sendStart (c : ConnId) (s : SpeechToText) :
    Quiet s (sendStart c s) := by
  rw [sendStart]
  apply (quiet_sendMessage c _ s).trans
  apply quiet_audio
  exact fun x => ⟨_, _, _, _, _, rfl⟩

theorem quiet_sendStop (c : ConnId) (s : SpeechToText) :
    Quiet s (sendStop c s) := by
  rw [sendStop]
  split
  · apply (quiet_sendMessage c _ s).trans
    apply quiet_audio
    exact fun x => ⟨_, _, _, _, _, rfl⟩
  · exact Quiet.refl s

theorem quiet_announce (c : ConnId) (clip : SpeechAudioData)
    (s : SpeechToText) : Quiet s (announce c clip s) := by
  rw [announce]
  split
  · refine Quiet.trans ?_ (quiet_sendStart c _)
    apply quiet_audio
    exact fun x => ⟨_, _, _, _, _, rfl⟩
  · exact Quiet.refl s

theorem quiet_sendClip (c : ConnId) (clip : SpeechAudioData)
    (s : SpeechToText) : Quiet s (sendClip c clip s) := by
  rw [sendClip]
  split
  · split
    · apply (quiet_sendMessage c _ s).trans
      apply quiet_audio
      exact fun x => ⟨_, _, _, _, _, rfl⟩
    · exact Quiet.refl s
  · split
    · apply (quiet_sendStop c s).trans
      apply quiet_audio
      exact fun x => ⟨_, _, _, _, _, rfl⟩
    · exact Quiet.refl s

theorem quiet_checkListening (c : ConnId) (s : SpeechToText) :
    Quiet s (checkListening c s) := by
  rw [checkListening]
  split
  · refine Quiet.trans ?_ (quiet_errors _ _)
    refine Quiet.trans ?_ (quiet_close c _)
    apply quiet_audio
    exact fun x => ⟨_, _, _, _, _, rfl⟩
  · exact Quiet.refl s

theorem quiet_sendAudio (c : ConnId) (clip : SpeechAudioData)
    (s : SpeechToText) : Quiet s (sendAudio c clip s) :=
  ((quiet_announce c clip s).trans (quiet_sendClip c clip _)).trans
    (quiet_checkListening c _)

theorem quiet_disconnected (c : ConnId) (s : SpeechToText) :
    Quiet s (disconnected c s) := by
  rw [disconnected]
  split
  · exact Quiet.refl s
  · refine Quiet.trans ?_ (quiet_close c _)
    apply quiet_audio
    exact fun x => ⟨_, _, _, _, _, rfl⟩

theorem quiet_foldl {f : SpeechToText → ConnId → SpeechToText}
    (hf : ∀ s c, Quiet s (f s c)) (cs : List ConnId) (s : SpeechToText) :
    Quiet s (cs.foldl f s) := by
  induction cs generalizing s with
  | nil => exact Quiet.refl s
  | cons c cs ih => exact (hf s c).trans (ih (f s c))

theorem quiet_disconnectAll (s : SpeechToText) :
    Quiet s (disconnectAll s) :=
  quiet_foldl (fun s c => quiet_disconnected c s) s.connections s

theorem quiet_onListen (clip : SpeechAudioData) (s : SpeechToText) :
    Quiet s (onListen clip s) := by
  rw [onListen]
  split
  · exact quiet_foldl (fun s c => quiet_sendAudio c clip s) s.connections s
  · exact Quiet.refl s

/-- A finalisation is quiet, or stops the service. -/
theorem onFinalizeResult_cases (s : SpeechToText) :
    Quiet s (onFinalizeResult s) ∨
      ∃ t, Quiet s t ∧ Quiet (stopListening t) (onFinalizeResult s) := by
  rw [onFinalizeResult]
  split
  · right
    exact ⟨{ s with
      resultTimer := false
      resultList := []
      deleted := s.deleted ++ (bestResult none s.resultList).2 },
      { Quiet.refl s with }, { Quiet.refl _ with }⟩
  · left
    exact { Quiet.refl s with }

theorem onReconizeResult_cases (r : RecognizeResults) (s : SpeechToText) :
    Quiet s (onReconizeResult r s) ∨
      ∃ t, Quiet s t ∧ Quiet (stopListening t) (onReconizeResult r s) := by
  have hpush : Quiet s { s with resultList := s.resultList ++ [r] } :=
    { Quiet.refl s with }
  rw [onReconizeResult]
  split
  · rcases onFinalizeResult_cases
      { s with resultList := s.resultList ++ [r] } with h | ⟨t, hst, ht⟩
    · exact Or.inl (hpush.trans h)
    · exact Or.inr ⟨t, hpush.trans hst, ht⟩
  · left
    exact { Quiet.refl s with }

/-- A frame is quiet, or its results stop the service. -/
theorem onListenMessage_cases (c : ConnId) (frame : Frame)
    (s : SpeechToText) :
    Quiet s (onListenMessage c frame s) ∨
      ∃ t, Quiet s t ∧ Quiet (stopListening t) (onListenMessage c frame s) := by
  cases frame with
  | results confidence hasFinalResult =>
      let r : RecognizeResults :=
        ⟨s.nextResult, c, (s.conn c).language, confidence, hasFinalResult⟩
      let s₁ := { s with nextResult := s.nextResult + 1 }
      let s₂ := if !s₁.settings.continous && hasFinalResult then sendStart c s₁
        else s₁
      have hs₂ : Quiet s s₂ := by
        refine Quiet.trans (t := s₁) { Quiet.refl s with } ?_
        simp only [s₂]
        split
        · exact quiet_sendStart c s₁
        · exact Quiet.refl s₁
      rcases onReconizeResult_cases r s₂ with h | ⟨t, hst, ht⟩
      · exact Or.inl (hs₂.trans h)
      · exact Or.inr ⟨t, hs₂.trans hst, ht⟩
  | badResults => exact Or.inl (Quiet.refl s)
  | state text =>
      left
      simp only [onListenMessage]
      split
      · apply quiet_audio
        exact fun x => ⟨_, _, _, _, _, rfl⟩
      · exact Quiet.refl s
  | error text =>
      exact Or.inl ((quiet_close c s).trans (quiet_errors _ _))
  | other => exact Or.inl (Quiet.refl s)

/-! ## Connecting -/

/-- From `s` to `t` only the connection `c` changes, and its sockets. -/
structure Only (c : ConnId) (s t : SpeechToText) : Prop where
  isListening : t.isListening = s.isListening
  connections : t.connections = s.connections
  loop : t.loop = s.loop
  nextConn : t.nextConn = s.nextConn
  selfStops : t.selfStops = s.selfStops
  nextSocket : s.nextSocket ≤ t.nextSocket
  conn : ∀ c', c' ≠ c → t.conn c' = s.conn c'
  sockets : ∀ k, k < s.nextSocket → (s.sockets k).owner ≠ c →
    t.sockets k = s.sockets k

theorem Only.refl (c : ConnId) (s : SpeechToText) : Only c s s where
  isListening := rfl
  connections := rfl
  loop := rfl
  nextConn := rfl
  selfStops := rfl
  nextSocket := Nat.le_refl _
  conn _ _ := rfl
  sockets _ _ _ := rfl

theorem only_modifyConn (c : ConnId) (f : Connection → Connection)
    (s : SpeechToText) : Only c s (modifyConn c f s) where
  isListening := rfl
  connections := rfl
  loop := rfl
  nextConn := rfl
  selfStops := rfl
  nextSocket := Nat.le_refl _
  conn c' hc' := by rw [modifyConn_conn, if_neg hc']
  sockets _ _ _ := rfl

theorem Only.trans {c : ConnId} {s t u : SpeechToText} (hst : Only c s t)
    (htu : Only c t u) : Only c s u where
  isListening := htu.isListening.trans hst.isListening
  connections := htu.connections.trans hst.connections
  loop := htu.loop.trans hst.loop
  nextConn := htu.nextConn.trans hst.nextConn
  selfStops := htu.selfStops.trans hst.selfStops
  nextSocket := hst.nextSocket.trans htu.nextSocket
  conn c' hc' := (htu.conn c' hc').trans (hst.conn c' hc')
  sockets k hk howner := by
    have hsame := hst.sockets k hk howner
    rw [← hsame] at howner ⊢
    exact htu.sockets k (Nat.lt_of_lt_of_le hk hst.nextSocket) howner

theorem only_modifySocket {c : ConnId} {k : SocketId} {s : SpeechToText}
    (howner : (s.sockets k).owner = c) (f : Socket → Socket) :
    Only c s (modifySocket k f s) where
  isListening := rfl
  connections := rfl
  loop := rfl
  nextConn := rfl
  selfStops := rfl
  nextSocket := Nat.le_refl _
  conn _ _ := rfl
  sockets l _ hl := by
    rw [modifySocket_sockets]
    split
    · rename_i heq
      rw [heq] at hl
      exact absurd howner hl
    · rfl

theorem only_sends (c : ConnId) (sends : List Send) (s : SpeechToText) :
    Only c s { s with sends := sends } :=
  { Only.refl c s with }

theorem only_beginSend {c : ConnId} {k : SocketId} {s : SpeechToText}
    (hsocket : (s.conn c).listenSocket = some k)
    (howner : (s.sockets k).owner = c) (site : Site) :
    Only c s (beginSend c site s) := by
  simp only [beginSend, hsocket]
  refine (only_sends c (⟨c, k, site⟩ :: s.sends) s).trans ?_
  exact only_modifySocket
    (s := { s with sends := ⟨c, k, site⟩ :: s.sends }) howner _

/-! ## What an event does -/

section

variable {s t : SpeechToText}

theorem whenIdle_eq_some {f : SpeechToText → SpeechToText}
    (h : whenIdle f s = some t) : s.Idle ∧ f s = t := by
  rw [whenIdle] at h
  split at h
  · rename_i hidle
    exact ⟨hidle, Option.some.inj h⟩
  · cases h

/-- A frame is handled by the connection of its socket. -/
theorem of_step_frame {k : SocketId} {frame : Frame}
    (h : step s (.frame k frame) = some t) :
    s.Idle ∧ (s.sockets k).owner ∈ s.connections ∧
      onListenMessage (s.sockets k).owner frame s = t := by
  simp only [step] at h
  split at h
  · rename_i hk
    obtain ⟨hidle, heq⟩ := whenIdle_eq_some h
    exact ⟨hidle, hk.2, heq⟩
  · cases h

/-- A socket that is down stays down, unless `Send()` is called. -/
theorem of_socketChanges {k : SocketId} {st : ClientState}
    (h : socketChanges k st s = some t) :
    ((s.sockets k).state.isDown → st.isDown ∨
        ∃ call ∈ s.sends, call.socket = k) ∧
      modifySocket k (fun x => { x with
        state := st
        queued := x.queued + 1 }) s = t := by
  rw [socketChanges] at h
  split at h
  · rename_i hk
    exact ⟨hk.2, Option.some.inj h⟩
  · cases h

/-- A notification is handled by the connection of its socket, if there still
is one. -/
theorem of_notify {k : SocketId} (h : notify k s = some t) :
    s.Idle ∧ ∃ u, u = modifySocket k
        (fun x => { x with queued := x.queued - 1 }) s ∧
      (((s.sockets k).owner ∈ s.connections ∧
          onListenState (s.sockets k).owner k u = t) ∨
        ((s.sockets k).owner ∉ s.connections ∧ u = t)) := by
  let u : SpeechToText :=
    modifySocket k (fun x => { x with queued := x.queued - 1 }) s
  have howner : (u.sockets k).owner = (s.sockets k).owner := by
    rw [modifySocket_sockets, if_pos rfl]
  simp only [notify] at h
  rw [howner] at h
  split at h
  · rename_i hqueued
    refine ⟨hqueued.1, u, rfl, ?_⟩
    split at h
    · rename_i hc
      exact Or.inl ⟨hc, Option.some.inj h⟩
    · rename_i hc
      exact Or.inr ⟨hc, Option.some.inj h⟩
  · cases h

/-- The innermost call of `Send()` reports a state. -/
theorem of_sendNotifies {st : ClientState} (h : sendNotifies st s = some t) :
    ∃ call rest, s.sends = call :: rest ∧
      onListenState call.conn call.socket
        (modifySocket call.socket (fun x => { x with state := st }) s) = t := by
  rw [sendNotifies] at h
  split at h
  · cases h
  · rename_i call rest hsends
    exact ⟨call, rest, hsends, Option.some.inj h⟩

/-- The innermost call of `Send()` returns, and the loops go on. -/
theorem of_sendReturns {ok : Bool} {st : ClientState}
    (h : sendReturns ok st s = some t) :
    ∃ call rest, s.sends = call :: rest ∧ sendContract ok st = true ∧
      resume (afterSend call ok (modifySocket call.socket
        (fun x => { x with state := st }) { s with sends := rest })) = t := by
  rw [sendReturns] at h
  split at h
  · cases h
  · rename_i call rest hsends
    split at h
    · rename_i hcontract
      exact ⟨call, rest, hsends, hcontract, Option.some.inj h⟩
    · cases h

theorem of_reconnectTimer {c : ConnId} (h : reconnectTimer c s = some t) :
    (∃ socket, (s.conn c).reconnectTimer = .armed socket) ∧ s.Idle ∧
      c ∈ s.connections ∧ onReconnect c
        (modifyConn c (fun x => { x with reconnectTimer := .fired }) s) = t := by
  rw [reconnectTimer] at h
  split at h
  · rename_i socket htimer
    split at h
    · rename_i hidle
      exact ⟨⟨socket, htimer⟩, hidle.1, hidle.2, Option.some.inj h⟩
    · cases h
  · cases h
  · cases h

theorem of_step_resultTimer (h : step s .resultTimer = some t) :
    s.resultTimer = true ∧ s.Idle ∧ onFinalizeResult s = t := by
  simp only [step] at h
  split at h
  · rename_i htimer
    exact ⟨htimer, whenIdle_eq_some h⟩
  · cases h

theorem of_step_elapse {seconds : ℚ} (h : step s (.elapse seconds) = some t) :
    { s with now := s.now + seconds } = t := by
  simp only [step] at h
  split at h
  · exact Option.some.inj h
  · cases h

end

end SpeechToText

end SelfPlugins.Stt
