import SelfPlugins.SpeechToText.Steps

/-!
# Speech to text: the rate a stream was announced with

`m_RecordingHZ` is to be the rate that was announced on the current incarnation
of the socket of a connection, that is, since the last successful `Send()`; it
is −1 when no audio has been announced there.  `Tuned` says so, for a
given record of what has been announced.  All functions but those that send
audio keep it and send nothing (`Silent`).
-/

namespace SelfPlugins.Stt

namespace SpeechToText

/-- The recording rates are −1, or rates of clips, and have then been
announced on the current socket, unless that is down or inside of `Send()`. -/
structure Tuned (rates : List ℤ) (announced : SocketId → Option ℕ)
    (s : SpeechToText) : Prop where
  owned : ∀ c k, (s.conn c).listenSocket = some k →
    k < s.nextSocket ∧ (s.sockets k).owner = c
  rate : ∀ c < s.nextConn,
    (s.conn c).recordingHZ = -1 ∨ (s.conn c).recordingHZ ∈ rates
  calling : ∀ call ∈ s.sends, call.site = .reconnect →
    (s.conn call.conn).recordingHZ = -1
  tuned : ∀ c k, (s.conn c).listenSocket = some k →
    (s.conn c).recordingHZ = -1 ∨ (s.sockets k).state.isDown = true ∨
      Busy s c ∨ announced k = some (printedRate (s.conn c).recordingHZ)

/-- From `s` to `t` nothing is sent, and the recording rates stay in tune. -/
structure Silent (s t : SpeechToText) : Prop where
  messages : ∀ k, (t.sockets k).messages = (s.sockets k).messages ∨
    (t.sockets k).messages = []
  tuned : ∀ rates announced, Tuned rates announced s → Tuned rates announced t

theorem Silent.refl (s : SpeechToText) : Silent s s :=
  ⟨fun _ => Or.inl rfl, fun _ _ h => h⟩

theorem Silent.trans {s t u : SpeechToText} (hst : Silent s t)
    (htu : Silent t u) : Silent s u where
  messages k := by
    rcases htu.messages k with htu | htu
    · rw [htu]
      exact hst.messages k
    · exact Or.inr htu
  tuned rates announced h := htu.tuned _ _ (hst.tuned _ _ h)

/-- The connections, the sockets and the calls of `Send()` stay as they are. -/
structure Offstage (s t : SpeechToText) : Prop where
  conn : t.conn = s.conn
  sockets : t.sockets = s.sockets
  sends : t.sends = s.sends
  nextConn : t.nextConn = s.nextConn
  nextSocket : t.nextSocket = s.nextSocket

theorem Offstage.tuned {s t : SpeechToText} (hst : Offstage s t)
    {rates : List ℤ} {announced : SocketId → Option ℕ}
    (h : Tuned rates announced s) : Tuned rates announced t := by
  constructor
  · rw [hst.conn, hst.sockets, hst.nextSocket]
    exact h.owned
  · rw [hst.conn, hst.nextConn]
    exact h.rate
  · rw [hst.conn, hst.sends]
    exact h.calling
  · rw [hst.conn, hst.sockets]
    intro c k hk
    rw [Busy, hst.sends]
    exact h.tuned c k hk

theorem Offstage.silent {s t : SpeechToText} (hst : Offstage s t) :
    Silent s t where
  messages k := by
    rw [hst.sockets]
    exact Or.inl rfl
  tuned _ _ h := hst.tuned h

/-- The callback, the results and the loops are off the stage. -/
theorem silent_of_eq {s t : SpeechToText} (hconn : t.conn = s.conn)
    (hsockets : t.sockets = s.sockets) (hsends : t.sends = s.sends)
    (hnextConn : t.nextConn = s.nextConn)
    (hnextSocket : t.nextSocket = s.nextSocket) : Silent s t :=
  Offstage.silent ⟨hconn, hsockets, hsends, hnextConn, hnextSocket⟩

/-- A change of a connection that keeps its socket, or has none any more, and
keeps its rate, or has none any more. -/
theorem silent_modifyConn (c : ConnId) {f : Connection → Connection}
    (hsocket : ∀ x, (f x).listenSocket = x.listenSocket ∨
      (f x).listenSocket = none)
    (hrate : ∀ x, (f x).recordingHZ = x.recordingHZ ∨ (f x).recordingHZ = -1)
    (s : SpeechToText) : Silent s (modifyConn c f s) where
  messages _ := Or.inl rfl
  tuned rates announced h := by
    have hkept : ∀ c', ((modifyConn c f s).conn c').recordingHZ =
        (s.conn c').recordingHZ ∨
          ((modifyConn c f s).conn c').recordingHZ = -1 := by
      intro c'
      rw [modifyConn_conn]
      split
      · rename_i heq
        rw [heq]
        exact hrate (s.conn c)
      · exact Or.inl rfl
    have hcurrent : ∀ c' k,
        ((modifyConn c f s).conn c').listenSocket = some k →
          (s.conn c').listenSocket = some k := by
      intro c' k hk
      rw [modifyConn_conn] at hk
      split at hk
      · rename_i heq
        rcases hsocket (s.conn c) with hsame | hnone
        · rw [heq, ← hsame]
          exact hk
        · rw [hnone] at hk
          cases hk
      · exact hk
    constructor
    · exact fun c' k hk => h.owned c' k (hcurrent c' k hk)
    · intro c' hc'
      rcases hkept c' with hsame | hunset
      · rw [hsame]
        exact h.rate c' hc'
      · exact Or.inl hunset
    · intro call hcall hsite
      rcases hkept call.conn with hsame | hunset
      · rw [hsame]
        exact h.calling call hcall hsite
      · exact hunset
    · intro c' k hk
      rcases hkept c' with hsame | hunset
      · rw [hsame]
        exact h.tuned c' k (hcurrent c' k hk)
      · exact Or.inl hunset

/-- A change of a socket that keeps its owner keeps the sockets owned. -/
theorem Tuned.owned_modifySocket {rates : List ℤ}
    {announced : SocketId → Option ℕ} {s : SpeechToText}
    (h : Tuned rates announced s) (k : SocketId) {f : Socket → Socket}
    (howner : ∀ x, (f x).owner = x.owner) (c : ConnId) (l : SocketId)
    (hl : (s.conn c).listenSocket = some l) :
    l < s.nextSocket ∧ ((modifySocket k f s).sockets l).owner = c := by
  refine ⟨(h.owned c l hl).1, ?_⟩
  rw [modifySocket_sockets]
  split
  · rename_i heq
    rw [howner, ← heq]
    exact (h.owned c l hl).2
  · exact (h.owned c l hl).2

/-- A change of a socket that sends nothing on it and does not revive it. -/
theorem silent_modifySocket {k : SocketId} {f : Socket → Socket}
    {s : SpeechToText} (howner : ∀ x, (f x).owner = x.owner)
    (hmessages : ∀ x, (f x).messages = x.messages)
    (hdown : (s.sockets k).state.isDown = true →
      (f (s.sockets k)).state.isDown = true) :
    Silent s (modifySocket k f s) where
  messages l := by
    left
    rw [modifySocket_sockets]
    split
    · rename_i heq
      rw [hmessages, heq]
    · rfl
  tuned rates announced h := by
    refine ⟨h.owned_modifySocket k howner, h.rate, h.calling, ?_⟩
    intro c l hl
    rcases h.tuned c l hl with hrate | hstate | hbusy | hannounced
    · exact Or.inl hrate
    · right
      left
      rw [modifySocket_sockets]
      split
      · rename_i heq
        rw [heq] at hstate
        exact hdown hstate
      · exact hstate
    · exact Or.inr (Or.inr (Or.inl hbusy))
    · exact Or.inr (Or.inr (Or.inr hannounced))

theorem silent_onListenSocket (c : ConnId) {f : Socket → Socket}
    (howner : ∀ x, (f x).owner = x.owner)
    (hmessages : ∀ x, (f x).messages = x.messages)
    (hdown : ∀ x, x.state.isDown = true → (f x).state.isDown = true)
    (s : SpeechToText) : Silent s (onListenSocket c f s) := by
  rw [onListenSocket]
  split
  · exact Silent.refl s
  · exact silent_modifySocket howner hmessages (hdown _)

theorem silent_close (c : ConnId) (s : SpeechToText) :
    Silent s (onListenSocket c close s) := by
  apply silent_onListenSocket
  · exact fun _ => rfl
  · exact fun _ => rfl
  · intro x hx
    rw [close, ClientState.isDown_close]
    exact hx

/-- `Send()` is called on a socket, of whose rate nothing is known when it is
called to reconnect. -/
theorem silent_beginSend {c : ConnId} {site : Site} {s : SpeechToText}
    (hsite : site = .reconnect → (s.conn c).recordingHZ = -1) :
    Silent s (beginSend c site s) := by
  rw [beginSend]
  split
  · exact Silent.refl s
  · rename_i k hk
    let u : SpeechToText := { s with sends := ⟨c, k, site⟩ :: s.sends }
    have hsu : Silent s u := by
      refine ⟨fun _ => Or.inl rfl, fun rates announced h => ?_⟩
      refine ⟨h.owned, h.rate, ?_, ?_⟩
      · intro call hcall hreconnect
        rcases List.mem_cons.mp hcall with rfl | hcall
        · exact hsite hreconnect
        · exact h.calling call hcall hreconnect
      · intro c' l hl
        rcases h.tuned c' l hl with hrate | hstate | hbusy | hannounced
        · exact Or.inl hrate
        · exact Or.inr (Or.inl hstate)
        · obtain ⟨call, hcall, hconn⟩ := hbusy
          exact Or.inr (Or.inr (Or.inl
            ⟨call, List.mem_cons_of_mem _ hcall, hconn⟩))
        · exact Or.inr (Or.inr (Or.inr hannounced))
    apply hsu.trans
    apply silent_modifySocket
    · exact fun _ => rfl
    · exact fun _ => rfl
    · exact fun h => h

/-! ## The functions that send no audio -/

/-- A new socket, of which nothing is known to any connection. -/
theorem silent_newSocket {socket : Socket} (hmessages : socket.messages = [])
    (s : SpeechToText) :
    Silent s (modifySocket s.nextSocket (fun _ => socket)
      { s with nextSocket := s.nextSocket + 1 }) where
  messages k := by
    rw [modifySocket_sockets]
    split
    · exact Or.inr hmessages
    · exact Or.inl rfl
  tuned rates announced h := by
    have hold : ∀ c k, (s.conn c).listenSocket = some k →
        k ≠ s.nextSocket := fun c k hk => Nat.ne_of_lt (h.owned c k hk).1
    refine ⟨fun c k hk => ⟨?_, ?_⟩, h.rate, h.calling, fun c k hk => ?_⟩
    · exact Nat.lt_succ_of_lt (h.owned c k hk).1
    · rw [modifySocket_sockets, if_neg (hold c k hk)]
      exact (h.owned c k hk).2
    · rw [modifySocket_sockets, if_neg (hold c k hk)]
      exact h.tuned c k hk

/-- A connection gets a socket that is down. -/
theorem silent_connect {c : ConnId} {k : SocketId} {s : SpeechToText}
    (hk : k < s.nextSocket) (howner : (s.sockets k).owner = c)
    (hdown : (s.sockets k).state.isDown = true) :
    Silent s (modifyConn c (fun x => { x with listenSocket := some k }) s) where
  messages _ := Or.inl rfl
  tuned rates announced h := by
    have hrate : ∀ c', ((modifyConn c (fun x => { x with
        listenSocket := some k }) s).conn c').recordingHZ =
          (s.conn c').recordingHZ := by
      intro c'
      rw [modifyConn_conn]
      split
      · rename_i heq
        rw [heq]
      · rfl
    have hcurrent : ∀ c' l, ((modifyConn c (fun x => { x with
        listenSocket := some k }) s).conn c').listenSocket = some l →
          c' = c ∧ l = k ∨ (s.conn c').listenSocket = some l := by
      intro c' l hl
      rw [modifyConn_conn] at hl
      split at hl
      · rename_i heq
        exact Or.inl ⟨heq, (Option.some.inj hl).symm⟩
      · exact Or.inr hl
    constructor
    · intro c' l hl
      rcases hcurrent c' l hl with ⟨rfl, rfl⟩ | hl
      · exact ⟨hk, howner⟩
      · exact h.owned c' l hl
    · intro c' hc'
      rw [hrate]
      exact h.rate c' hc'
    · intro call hcall hsite
      rw [hrate]
      exact h.calling call hcall hsite
    · intro c' l hl
      rw [hrate]
      rcases hcurrent c' l hl with ⟨rfl, rfl⟩ | hl
      · exact Or.inr (Or.inl hdown)
      · exact h.tuned c' l hl

theorem silent_createListenConnector (c : ConnId) (s : SpeechToText) :
    Silent s (createListenConnector c s) := by
  rw [createListenConnector]
  split
  · exact Silent.refl s
  · let k : SocketId := s.nextSocket
    let socket : Socket :=
      { owner := c
        learningOptOut := s.learningOptOut
        model := (s.conn c).recognizeModel
        state := .closed
        queued := 0
        lost := false
        messages := [] }
    let u : SpeechToText :=
      modifySocket k (fun _ => socket) { s with nextSocket := k + 1 }
    have hsu : Silent s u := silent_newSocket rfl s
    have hsocket : u.sockets k = socket := by
      rw [modifySocket_sockets, if_pos rfl]
    have huv : Silent u
        (modifyConn c (fun x => { x with listenSocket := some k }) u) := by
      apply silent_connect
      · exact Nat.lt_succ_self k
      · rw [hsocket]
      · rw [hsocket]
        rfl
    have hsite : Site.create ≠ .reconnect := by decide
    exact hsu.trans (huv.trans
      (silent_beginSend fun hreconnect => absurd hreconnect hsite))

theorem silent_refresh (c : ConnId) (s : SpeechToText) :
    Silent s (refresh c s) := by
  let u : SpeechToText := modifyConn c (fun x => { x with
    connected := false
    listenActive := false }) s
  have hsu : Silent s u := by
    apply silent_modifyConn
    · exact fun _ => Or.inl rfl
    · exact fun _ => Or.inl rfl
  have hclose : Silent u
      (closeListenConnector c (onListenSocket c close u)) := by
    apply (silent_close c u).trans
    apply silent_modifyConn
    · exact fun _ => Or.inr rfl
    · exact fun _ => Or.inl rfl
  exact hsu.trans (hclose.trans (silent_createListenConnector c _))

theorem silent_disconnected (c : ConnId) (s : SpeechToText) :
    Silent s (disconnected c s) := by
  rw [disconnected]
  split
  · exact Silent.refl s
  · let u : SpeechToText := modifyConn c (fun x => { x with connected := false }) s
    have hsu : Silent s u := by
      apply silent_modifyConn
      · exact fun _ => Or.inl rfl
      · exact fun _ => Or.inl rfl
    exact hsu.trans (silent_close c u)

theorem silent_disconnectAll (s : SpeechToText) :
    Silent s (disconnectAll s) := by
  rw [disconnectAll]
  generalize s.connections = cs
  induction cs generalizing s with
  | nil => exact Silent.refl s
  | cons c cs ih => exact (silent_disconnected c s).trans (ih _)

theorem silent_stopListening (s : SpeechToText) :
    Silent s (stopListening s) := by
  rw [stopListening]
  split
  · exact silent_of_eq rfl rfl rfl rfl rfl
  · exact Silent.refl s

theorem silent_onReconnect (c : ConnId) (s : SpeechToText) :
    Silent s (onReconnect c s) := by
  rw [onReconnect]
  split
  · split
    · apply silent_modifyConn
      · exact fun _ => Or.inl rfl
      · exact fun _ => Or.inl rfl
    · split
      · let u : SpeechToText := modifyConn c (fun x => { x with
          recordingHZ := -1
          lastStartSent := s.now
          reconnecting := false
          reconnectTimer := .reset }) s
        have hsu : Silent s u := by
          apply silent_modifyConn
          · exact fun _ => Or.inl rfl
          · exact fun _ => Or.inr rfl
        have hrate : (u.conn c).recordingHZ = -1 := by
          rw [modifyConn_conn, if_pos rfl]
        exact hsu.trans (silent_beginSend fun _ => hrate)
      · apply Silent.trans (t := { s with selfStops := s.selfStops ++ [c] })
        · exact silent_of_eq rfl rfl rfl rfl rfl
        · exact silent_stopListening _
  · exact Silent.refl s

/-- The loop of `StartListening` counts a connection that has no rate. -/
theorem silent_nextConn {s : SpeechToText}
    (hrate : (s.conn s.nextConn).recordingHZ = -1) (loop : Loop) :
    Silent s { s with nextConn := s.nextConn + 1, loop := loop } where
  messages _ := Or.inl rfl
  tuned rates announced h := by
    refine ⟨h.owned, fun c hc => ?_, h.calling, h.tuned⟩
    rcases Nat.lt_succ_iff_lt_or_eq.mp hc with hc | rfl
    · exact h.rate c hc
    · exact Or.inl hrate

theorem silent_startNext (models : List String) (s : SpeechToText) :
    Silent s (startNext models s) := by
  cases models with
  | nil => exact silent_of_eq rfl rfl rfl rfl rfl
  | cons model rest =>
      apply Silent.trans _ (silent_createListenConnector s.nextConn _)
      let u : SpeechToText :=
        modifyConn s.nextConn (fun _ => Connection.new model s.now) s
      have hsu : Silent s u := by
        apply silent_modifyConn
        · exact fun _ => Or.inr rfl
        · exact fun _ => Or.inr rfl
      have hrate : (u.conn s.nextConn).recordingHZ = -1 := by
        rw [modifyConn_conn, if_pos rfl]
        exact rfl
      exact hsu.trans (silent_nextConn hrate (.starting s.nextConn rest))

theorem silent_refreshNext (cs : List ConnId) (s : SpeechToText) :
    Silent s (refreshNext cs s) := by
  cases cs with
  | nil => exact silent_of_eq rfl rfl rfl rfl rfl
  | cons c rest =>
      apply Silent.trans (t := { s with loop := .refreshing rest })
      · exact silent_of_eq rfl rfl rfl rfl rfl
      · exact silent_refresh c _

theorem silent_resume (s : SpeechToText) : Silent s (resume s) := by
  rw [resume]
  split
  · split
    · exact Silent.refl s
    · rename_i c models hloop
      apply Silent.trans (t := { s with connections := s.connections ++ [c] })
      · exact silent_of_eq rfl rfl rfl rfl rfl
      · exact silent_startNext models _
    · exact silent_refreshNext _ s
  · exact Silent.refl s

theorem silent_startListening (callback : Option CallbackId)
    (s : SpeechToText) : Silent s (startListening callback s) := by
  cases callback with
  | none => exact Silent.refl s
  | some callback =>
      rw [startListening]
      split
      · exact Silent.refl s
      · apply Silent.trans (t := { s with
          isListening := true
          listenCallback := some callback })
        · exact silent_of_eq rfl rfl rfl rfl rfl
        · exact silent_startNext _ _

theorem silent_setLearningOptOut (flag : Bool) (s : SpeechToText) :
    Silent s (setLearningOptOut flag s) := by
  rw [setLearningOptOut]
  split
  · exact Silent.refl s
  · apply Silent.trans (t := { s with learningOptOut := flag })
    · exact silent_of_eq rfl rfl rfl rfl rfl
    · exact (silent_stopListening _).trans (silent_startListening _ _)

theorem silent_refreshConnections (s : SpeechToText) :
    Silent s (refreshConnections s) := by
  rw [refreshConnections]
  split
  · exact silent_refreshNext _ s
  · exact Silent.refl s

theorem silent_onListenState (c : ConnId) (k : SocketId) (s : SpeechToText) :
    Silent s (onListenState c k s) := by
  rw [onListenState]
  split
  · split
    · split
      · let u : SpeechToText :=
          modifySocket k (fun x => { x with lost := true }) s
        have hsu : Silent s u := by
          apply silent_modifySocket
          · exact fun _ => rfl
          · exact fun _ => rfl
          · exact fun h => h
        have huv : Silent u (modifyConn c (fun x => { x with
            connected := false
            listenActive := false }) u) := by
          apply silent_modifyConn
          · exact fun _ => Or.inl rfl
          · exact fun _ => Or.inl rfl
        exact hsu.trans (huv.trans (silent_onReconnect c _))
      · split
        · apply silent_modifyConn
          · exact fun _ => Or.inl rfl
          · exact fun _ => Or.inl rfl
        · exact Silent.refl s
    · exact Silent.refl s
  · exact Silent.refl s

theorem offstage_onFinalizeResult (s : SpeechToText) :
    Offstage s (onFinalizeResult s) := by
  rw [onFinalizeResult]
  split
  · rw [stopListening]
    split
    · exact ⟨rfl, rfl, rfl, rfl, rfl⟩
    · exact ⟨rfl, rfl, rfl, rfl, rfl⟩
  · exact ⟨rfl, rfl, rfl, rfl, rfl⟩

theorem offstage_onReconizeResult (r : RecognizeResults) (s : SpeechToText) :
    Offstage s (onReconizeResult r s) := by
  rw [onReconizeResult]
  split
  · exact { offstage_onFinalizeResult _ with }
  · exact ⟨rfl, rfl, rfl, rfl, rfl⟩

/-! ## Calls of `Send()` -/

theorem Tuned.congr {rates rates' : List ℤ}
    {announced announced' : SocketId → Option ℕ} {s : SpeechToText}
    (h : Tuned rates announced s) (hrates : ∀ r ∈ rates, r ∈ rates')
    (hannounced : ∀ k, (s.sockets k).state.isDown = false →
      announced' k = announced k) : Tuned rates' announced' s where
  owned := h.owned
  rate c hc := (h.rate c hc).imp id (hrates _)
  calling := h.calling
  tuned c k hk := by
    cases hdown : (s.sockets k).state.isDown with
    | true => exact Or.inr (Or.inl rfl)
    | false =>
        rw [hannounced k hdown, ← hdown]
        exact h.tuned c k hk

/-- During `Send()`, its socket may change in any way. -/
theorem Tuned.modifyBusy {rates : List ℤ} {announced : SocketId → Option ℕ}
    {s : SpeechToText} (h : Tuned rates announced s) {k : SocketId}
    (hbusy : ∀ c, (s.conn c).listenSocket = some k → Busy s c)
    {f : Socket → Socket} (howner : ∀ x, (f x).owner = x.owner) :
    Tuned rates announced (modifySocket k f s) := by
  refine ⟨h.owned_modifySocket k howner, h.rate, h.calling, ?_⟩
  intro c l hl
  by_cases heq : l = k
  · rw [heq] at hl
    exact Or.inr (Or.inr (Or.inl (hbusy c hl)))
  · rw [modifySocket_sockets, if_neg heq]
    exact h.tuned c l hl

/-- When `Send()` returns, its socket is down, or nothing has been announced on
it. -/
theorem Tuned.returned {rates : List ℤ}
    {announced announced' : SocketId → Option ℕ} {s : SpeechToText}
    {call : Send} {rest : List Send} {st : ClientState}
    (h : Tuned rates announced s) (hsends : s.sends = call :: rest)
    (hcalls : Calls call.conn s)
    (hst : st.isDown = true ∨ (s.conn call.conn).recordingHZ = -1)
    (hannounced : ∀ k, k ≠ call.socket → announced' k = announced k) :
    Tuned rates announced' (modifySocket call.socket
      (fun x => { x with state := st }) { s with sends := rest }) := by
  have hcall : call ∈ s.sends := by
    rw [hsends]
    exact List.mem_cons_self
  have hsocket := (hcalls call hcall).2
  refine ⟨h.owned_modifySocket call.socket (f := fun x => { x with state := st })
    fun _ => rfl, h.rate, ?_, ?_⟩
  · intro call' hcall'
    apply h.calling call'
    rw [hsends]
    exact List.mem_cons_of_mem _ hcall'
  · intro c l hl
    by_cases heq : l = call.socket
    · have hconn : c = call.conn := by
        rw [← (h.owned c l hl).2, heq, (h.owned _ _ hsocket).2]
      rcases hst with hdown | hrate
      · right
        left
        rw [modifySocket_sockets, if_pos heq]
        exact hdown
      · rw [hconn]
        exact Or.inl hrate
    · rw [modifySocket_sockets, if_neg heq, hannounced l heq]
      rcases h.tuned c l hl with hrate | hstate | hbusy | hsame
      · exact Or.inl hrate
      · exact Or.inr (Or.inl hstate)
      · obtain ⟨call', hcall', hconn⟩ := hbusy
        have hl' : (s.conn c).listenSocket = some call.socket := by
          rw [← hconn, (hcalls call' hcall').1]
          exact hsocket
        exact absurd (Option.some.inj (hl.symm.trans hl')) heq
      · exact Or.inr (Or.inr (Or.inr hsame))

end SpeechToText

end SelfPlugins.Stt
