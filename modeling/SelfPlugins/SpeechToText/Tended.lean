import SelfPlugins.SpeechToText.Frame

/-!
# Speech to text: one connection

What holds of a connection whose socket may be lost: its reconnect timer is
armed exactly while it is reconnecting, and it is reconnecting once the loss has
been handled (`Fine`).  When no call of `Send()` is in progress for it, the loss
of its socket has been handled or its notification waits (`AtRest`).

Every function that is called for a connection leaves it so, and leaves the
other connections alone (`Served`).  The parameter `p` adds what holds as long
as no call of `Send()` succeeds for a connection that is reconnecting: the armed
timer then belongs to the current socket, and that socket is down.
-/

namespace SelfPlugins.Stt

namespace SpeechToText

variable {p : Prop}

/-- A call of `Send()` of the connection is in progress. -/
def Busy (s : SpeechToText) (c : ConnId) : Prop :=
  ∃ call ∈ s.sends, call.conn = c

/-- The calls of `Send()` in progress are those of the socket of `c`. -/
def Calls (c : ConnId) (s : SpeechToText) : Prop :=
  ∀ call ∈ s.sends,
    call.conn = c ∧ (s.conn c).listenSocket = some call.socket

structure Fine (s : SpeechToText) (c : ConnId) : Prop where
  socket : ∃ k, (s.conn c).listenSocket = some k ∧ k < s.nextSocket ∧
    (s.sockets k).owner = c
  armed : (s.conn c).reconnecting = true ↔
    ∃ k, (s.conn c).reconnectTimer = .armed k
  lost : ∀ k, (s.conn c).listenSocket = some k →
    (s.sockets k).lost = true → (s.conn c).reconnecting = true

structure AtRest (p : Prop) (s : SpeechToText) (c : ConnId) : Prop where
  noticed : ∀ k, (s.conn c).listenSocket = some k →
    (s.sockets k).state.isDown = true → (s.sockets k).queued = 0 →
    (s.sockets k).lost = true
  settled : p → (s.conn c).reconnecting = true →
    ∃ k, (s.conn c).listenSocket = some k ∧
      (s.conn c).reconnectTimer = .armed (some k) ∧
      (s.sockets k).state.isDown = true

structure Tended (p : Prop) (s : SpeechToText) (c : ConnId) : Prop extends
    Fine s c where
  rest : ¬Busy s c → AtRest p s c

/-- From `s` to `t` a function was called for the connection `c`. -/
structure Served (p : Prop) (c : ConnId) (s t : SpeechToText) : Prop extends
    Only c s t where
  calls : Calls c t
  tended : Tended p t c

/-- The current socket belongs to its connection. -/
theorem Fine.current {s : SpeechToText} {c : ConnId} (h : Fine s c)
    {k : SocketId} (hsocket : (s.conn c).listenSocket = some k) :
    k < s.nextSocket ∧ (s.sockets k).owner = c := by
  obtain ⟨l, hl, hnext, howner⟩ := h.socket
  obtain rfl : k = l := Option.some.inj (hsocket.symm.trans hl)
  exact ⟨hnext, howner⟩

/-! ## Frames -/

theorem Quiet.busy {s t : SpeechToText} (hst : Quiet s t) (c : ConnId) :
    Busy t c ↔ Busy s c := by
  rw [Busy, Busy, hst.sends]

theorem Quiet.calls {s t : SpeechToText} (hst : Quiet s t) {c : ConnId}
    (h : Calls c s) : Calls c t := by
  intro call hcall
  rw [hst.sends] at hcall
  rw [hst.listenSocket]
  exact h call hcall

theorem Fine.quiet {s t : SpeechToText} {c : ConnId} (h : Fine s c)
    (hst : Quiet s t) : Fine t c where
  socket := by
    obtain ⟨k, hsocket, hk, howner⟩ := h.socket
    refine ⟨k, ?_, ?_, ?_⟩
    · rw [hst.listenSocket, hsocket]
    · rw [hst.nextSocket]
      exact hk
    · rw [hst.owner, howner]
  armed := by
    rw [hst.reconnecting, hst.timer]
    exact h.armed
  lost k := by
    rw [hst.listenSocket, hst.reconnecting, hst.lost]
    exact h.lost k

/-- A change of a socket that keeps its owner, and whether it is lost. -/
theorem Fine.modifySocket {s : SpeechToText} {c : ConnId} (h : Fine s c)
    (k : SocketId) {f : Socket → Socket}
    (howner : ∀ x, (f x).owner = x.owner) (hlost : ∀ x, (f x).lost = x.lost) :
    Fine (modifySocket k f s) c where
  socket := by
    obtain ⟨l, hsocket, hl, howned⟩ := h.socket
    refine ⟨l, hsocket, hl, ?_⟩
    rw [modifySocket_sockets]
    split
    · rename_i heq
      rw [howner, ← heq, howned]
    · exact howned
  armed := h.armed
  lost l hsocket hl := by
    rw [modifySocket_sockets] at hl
    split at hl
    · rename_i heq
      rw [hlost, ← heq] at hl
      exact h.lost l hsocket hl
    · exact h.lost l hsocket hl

theorem AtRest.quiet {s t : SpeechToText} {c : ConnId} (h : AtRest p s c)
    (hst : Quiet s t) : AtRest p t c where
  noticed k := by
    rw [hst.listenSocket, hst.isDown, hst.queued, hst.lost]
    exact h.noticed k
  settled hp hreconnecting := by
    rw [hst.reconnecting] at hreconnecting
    obtain ⟨k, hsocket, htimer, hdown⟩ := h.settled hp hreconnecting
    refine ⟨k, ?_, ?_, ?_⟩
    · rw [hst.listenSocket, hsocket]
    · rw [hst.timer, htimer]
    · rw [hst.isDown, hdown]

theorem Tended.quiet {s t : SpeechToText} {c : ConnId} (h : Tended p s c)
    (hst : Quiet s t) : Tended p t c where
  toFine := h.toFine.quiet hst
  rest hidle := (h.rest (mt (hst.busy c).mpr hidle)).quiet hst

/-- A connection is tended as long as it and its socket are left alone. -/
theorem Tended.frame {s t : SpeechToText} {c : ConnId} (h : Tended p s c)
    (hconn : t.conn c = s.conn c) (hnext : s.nextSocket ≤ t.nextSocket)
    (hsockets : ∀ k, (s.conn c).listenSocket = some k →
      t.sockets k = s.sockets k)
    (hbusy : Busy s c → Busy t c) : Tended p t c := by
  obtain ⟨k, hsocket, hk, howner⟩ := h.socket
  have hsame : t.sockets k = s.sockets k := hsockets k hsocket
  have hcurrent : ∀ l, (t.conn c).listenSocket = some l → l = k := by
    intro l hl
    rw [hconn, hsocket] at hl
    exact (Option.some.inj hl).symm
  refine { socket := ?_, armed := ?_, lost := ?_, rest := ?_ }
  · refine ⟨k, ?_, Nat.lt_of_lt_of_le hk hnext, ?_⟩
    · rw [hconn, hsocket]
    · rw [hsame, howner]
  · rw [hconn]
    exact h.armed
  · intro l hl
    rw [hcurrent l hl, hsame, hconn]
    exact h.lost k hsocket
  · intro hidle
    have hrest : AtRest p s c := h.rest (mt hbusy hidle)
    constructor
    · intro l hl
      rw [hcurrent l hl, hsame]
      exact hrest.noticed k hsocket
    · intro hp hreconnecting
      rw [hconn] at hreconnecting
      obtain ⟨l, hl, htimer, hdown⟩ := hrest.settled hp hreconnecting
      rw [hsocket, Option.some.injEq] at hl
      subst hl
      refine ⟨k, ?_, ?_, ?_⟩
      · rw [hconn, hsocket]
      · rw [hconn, htimer]
      · rw [hsame, hdown]

/-- The other connections are not affected by what is done for `c`. -/
theorem Tended.only {s t : SpeechToText} {c c' : ConnId}
    (h : Tended p s c') (hst : Only c s t) (hcalls : Calls c s)
    (hc' : c' ≠ c) : Tended p t c' := by
  obtain ⟨k, hsocket, hk, howner⟩ := h.socket
  apply h.frame
  · exact hst.conn c' hc'
  · exact hst.nextSocket
  · intro l hl
    obtain rfl : k = l := Option.some.inj (hsocket.symm.trans hl)
    apply hst.sockets k hk
    rw [howner]
    exact hc'
  · rintro ⟨call, hcall, howner⟩
    exact absurd (howner.symm.trans (hcalls call hcall).1) hc'

theorem Only.served {s t u : SpeechToText} {c : ConnId}
    (hst : Only c s t) (htu : Served p c t u) : Served p c s u where
  toOnly := hst.trans htu.toOnly
  calls := htu.calls
  tended := htu.tended

theorem not_busy_of_calls {s : SpeechToText} {c c' : ConnId}
    (hcalls : Calls c s) (hc' : c' ≠ c) : ¬Busy s c' := by
  rintro ⟨call, hcall, hconn⟩
  exact hc' (hconn.symm.trans (hcalls call hcall).1)

theorem not_busy_of_nil {s : SpeechToText} (hsends : s.sends = [])
    (c : ConnId) : ¬Busy s c := by
  rintro ⟨call, hcall, -⟩
  rw [hsends] at hcall
  cases hcall

theorem calls_of_nil {s : SpeechToText} (hsends : s.sends = [])
    (c : ConnId) : Calls c s := by
  intro call hcall
  rw [hsends] at hcall
  cases hcall

theorem nil_of_not_busy {s : SpeechToText} {c : ConnId}
    (hcalls : Calls c s) (hidle : ¬Busy s c) : s.sends = [] := by
  cases hsends : s.sends with
  | nil => rfl
  | cons call rest =>
      have hcall : call ∈ s.sends := by
        rw [hsends]
        exact List.mem_cons_self
      exact absurd ⟨call, hcall, (hcalls call hcall).1⟩ hidle

theorem Tended.served {s t : SpeechToText} {c : ConnId}
    (h : Tended p s c) (hcalls : Calls c s) (honly : Only c s t)
    (hst : Quiet s t) : Served p c s t where
  toOnly := honly
  calls := hst.calls hcalls
  tended := h.quiet hst

/-! ## Connecting -/

theorem served_beginSend {s : SpeechToText} {c : ConnId} {k : SocketId}
    (hcalls : Calls c s) (hsocket : (s.conn c).listenSocket = some k)
    (hk : k < s.nextSocket) (howner : (s.sockets k).owner = c)
    (harmed : (s.conn c).reconnecting = true ↔
      ∃ l, (s.conn c).reconnectTimer = .armed l) (site : Site) :
    Served p c s (beginSend c site s) := by
  have honly : Only c s (beginSend c site s) :=
    only_beginSend hsocket howner site
  have hbegin : beginSend c site s =
      modifySocket k (fun x => { x with lost := false })
        { s with sends := ⟨c, k, site⟩ :: s.sends } := by
    simp only [beginSend, hsocket]
  rw [hbegin] at honly ⊢
  refine { honly with calls := ?_, tended := ?_ }
  · intro call hcall
    rcases List.mem_cons.mp hcall with rfl | hcall
    · exact ⟨rfl, hsocket⟩
    · exact hcalls call hcall
  · refine { socket := ?_, armed := harmed, lost := ?_, rest := ?_ }
    · refine ⟨k, hsocket, hk, ?_⟩
      rw [modifySocket_sockets, if_pos rfl]
      exact howner
    · intro l hl hlost
      obtain rfl : k = l := Option.some.inj (hsocket.symm.trans hl)
      rw [modifySocket_sockets, if_pos rfl] at hlost
      cases hlost
    · intro hidle
      exact absurd ⟨⟨c, k, site⟩, List.mem_cons_self, rfl⟩ hidle

/-! ## What `OnReconnect` does while the service is listening -/

section OnReconnect

variable {s : SpeechToText} {c : ConnId} {k : SocketId}

/-- The first loss arms the timer. -/
theorem onReconnect_arms (hlistening : s.isListening = true)
    (hreconnecting : (s.conn c).reconnecting = false) :
    onReconnect c s = modifyConn c (fun x => { x with
      reconnectTimer := .armed x.listenSocket
      reconnecting := true
      connected := false
      listenActive := false }) s := by
  simp [onReconnect, hlistening, hreconnecting]

/-- After it, `Send()` is called if the socket is down. -/
theorem onReconnect_sends (hlistening : s.isListening = true)
    (hreconnecting : (s.conn c).reconnecting = true)
    (hsocket : (s.conn c).listenSocket = some k)
    (hdown : (s.sockets k).state.isDown = true) :
    onReconnect c s = beginSend c .reconnect (modifyConn c (fun x => { x with
      recordingHZ := -1
      lastStartSent := s.now
      reconnecting := false
      reconnectTimer := .reset }) s) := by
  have hstate : s.listenState c = (s.sockets k).state := by
    simp only [listenState, hsocket]
  simp [onReconnect, hlistening, hreconnecting, hstate, hdown]

/-- With a socket that is up the service stops. -/
theorem onReconnect_stops (hlistening : s.isListening = true)
    (hreconnecting : (s.conn c).reconnecting = true)
    (hsocket : (s.conn c).listenSocket = some k)
    (hdown : (s.sockets k).state.isDown = false) :
    onReconnect c s =
      stopListening { s with selfStops := s.selfStops ++ [c] } := by
  have hstate : s.listenState c = (s.sockets k).state := by
    simp only [listenState, hsocket]
  simp [onReconnect, hlistening, hreconnecting, hstate, hdown]

end OnReconnect

/-- `OnReconnect` is called for a socket that is down: it arms the timer, or
calls `Send()`. -/
theorem served_onReconnect {s : SpeechToText} {c : ConnId} {k : SocketId}
    (hlistening : s.isListening = true) (hcalls : Calls c s)
    (hsocket : (s.conn c).listenSocket = some k) (hk : k < s.nextSocket)
    (howner : (s.sockets k).owner = c)
    (hdown : (s.sockets k).state.isDown = true)
    (hlost : (s.conn c).reconnecting = false → (s.sockets k).lost = true) :
    Served p c s (onReconnect c s) := by
  cases hreconnecting : (s.conn c).reconnecting with
  | false =>
      rw [onReconnect_arms hlistening hreconnecting]
      refine { only_modifyConn c _ s with calls := ?_, tended := ?_ }
      · intro call hcall
        rw [modifyConn_conn, if_pos rfl]
        exact hcalls call hcall
      · have hconn := modifyConn_conn c c (fun x => { x with
          reconnectTimer := .armed x.listenSocket
          reconnecting := true
          connected := false
          listenActive := false }) s
        rw [if_pos rfl] at hconn
        refine { socket := ?_, armed := ?_, lost := ?_, rest := ?_ }
        · rw [hconn]
          exact ⟨k, hsocket, hk, howner⟩
        · rw [hconn]
          exact ⟨fun _ => ⟨_, rfl⟩, fun _ => rfl⟩
        · intro l _ _
          rw [hconn]
        · intro _
          constructor
          · intro l hl _ _
            rw [hconn] at hl
            obtain rfl : k = l := Option.some.inj (hsocket.symm.trans hl)
            exact hlost hreconnecting
          · intro _ _
            rw [hconn]
            exact ⟨k, hsocket, congrArg _ hsocket, hdown⟩
  | true =>
      have honly : Only c s (modifyConn c (fun x => { x with
          recordingHZ := -1
          lastStartSent := s.now
          reconnecting := false
          reconnectTimer := .reset }) s) := only_modifyConn c _ s
      rw [onReconnect_sends hlistening hreconnecting hsocket hdown]
      apply honly.served
      apply served_beginSend (k := k)
      · intro call hcall
        rw [modifyConn_conn, if_pos rfl]
        exact hcalls call hcall
      · rw [modifyConn_conn, if_pos rfl]
        exact hsocket
      · exact hk
      · exact howner
      · rw [modifyConn_conn, if_pos rfl]
        simp

/-- A socket is created. -/
theorem only_nextSocket (c : ConnId) (socket : Socket) (s : SpeechToText) :
    Only c s (modifySocket s.nextSocket (fun _ => socket)
      { s with nextSocket := s.nextSocket + 1 }) :=
  { Only.refl c s with
    nextSocket := Nat.le_succ _
    sockets := by
      intro k hk _
      rw [modifySocket_sockets, if_neg (Nat.ne_of_lt hk)] }

/-- A new socket for a connection that has none. -/
theorem served_createListenConnector {s : SpeechToText} {c : ConnId}
    (hsends : s.sends = []) (hnone : (s.conn c).listenSocket = none)
    (harmed : (s.conn c).reconnecting = true ↔
      ∃ l, (s.conn c).reconnectTimer = .armed l) :
    Served p c s (createListenConnector c s) := by
  let socket : Socket :=
    { owner := c
      learningOptOut := s.learningOptOut
      model := (s.conn c).recognizeModel
      state := .closed
      queued := 0
      lost := false
      messages := [] }
  let t : SpeechToText := modifySocket s.nextSocket (fun _ => socket)
    { s with nextSocket := s.nextSocket + 1 }
  let u : SpeechToText :=
    modifyConn c (fun x => { x with listenSocket := some s.nextSocket }) t
  have hsocket : t.sockets s.nextSocket = socket := by
    simp only [t, modifySocket_sockets, if_pos]
  have hconn : u.conn c =
      { s.conn c with listenSocket := some s.nextSocket } := by
    simp only [u, modifyConn_conn, if_pos]
    rfl
  have hcreate : createListenConnector c s = beginSend c .create u := by
    simp only [createListenConnector, hnone]
    rfl
  have hopened : Only c s u :=
    (only_nextSocket c socket s).trans (only_modifyConn c _ t)
  rw [hcreate]
  apply hopened.served
  apply served_beginSend (k := s.nextSocket)
  · exact calls_of_nil (s := u) hsends c
  · rw [hconn]
  · exact Nat.lt_succ_self s.nextSocket
  · exact congrArg Socket.owner hsocket
  · rw [hconn]
    exact harmed

theorem only_onListenSocket {s : SpeechToText} {c : ConnId}
    (h : Fine s c) (f : Socket → Socket) :
    Only c s (onListenSocket c f s) := by
  obtain ⟨k, hsocket, -, howner⟩ := h.socket
  simp only [onListenSocket, hsocket]
  exact only_modifySocket howner f

theorem served_refresh {s : SpeechToText} {c : ConnId}
    (hsends : s.sends = []) (h : Fine s c) :
    Served p c s (refresh c s) := by
  let t : SpeechToText := modifyConn c (fun x => { x with
    connected := false
    listenActive := false }) s
  let u : SpeechToText := onListenSocket c close t
  have hst : Quiet s t := by
    apply quiet_audio
    exact fun x => ⟨_, _, _, _, _, rfl⟩
  have hsu : Quiet s u := hst.trans (quiet_close c t)
  have hconn : (closeListenConnector c u).conn c =
      { u.conn c with listenSocket := none } := by
    rw [closeListenConnector, modifyConn_conn, if_pos rfl]
  have hclosed : Only c s (closeListenConnector c u) :=
    ((only_modifyConn c _ s).trans (only_onListenSocket (h.quiet hst) close)).trans
      (only_modifyConn c _ u)
  apply hclosed.served
  apply served_createListenConnector
  · exact hsu.sends.trans hsends
  · rw [hconn]
  · rw [hconn]
    exact (h.quiet hsu).armed

/-! ## Notifications and results of `Send()` -/

/-- The handling of a state notification of the current socket. -/
theorem served_onListenState {s : SpeechToText} {c : ConnId} {k : SocketId}
    (hlistening : s.isListening = true) (hcalls : Calls c s)
    (hfine : Fine s c) (hsocket : (s.conn c).listenSocket = some k)
    (hrest : (s.sockets k).state.isDown = false → ¬Busy s c → AtRest p s c) :
    Served p c s (onListenState c k s) := by
  obtain ⟨hk, howner⟩ := hfine.current hsocket
  cases hdown : (s.sockets k).state.isDown with
  | true =>
      let t : SpeechToText := modifySocket k (fun x => { x with lost := true }) s
      let u : SpeechToText := modifyConn c (fun x => { x with
        connected := false
        listenActive := false }) t
      have hstate : onListenState c k s = onReconnect c u := by
        simp [onListenState, hsocket, hlistening, hdown, t, u]
      have hkt : t.sockets k = { s.sockets k with lost := true } := by
        rw [modifySocket_sockets, if_pos rfl]
      have htu : Quiet t u := by
        apply quiet_audio
        exact fun x => ⟨_, _, _, _, _, rfl⟩
      have hsu : Only c s u :=
        (only_modifySocket howner _).trans (only_modifyConn c _ t)
      rw [hstate]
      apply hsu.served
      apply served_onReconnect (k := k)
      · exact hlistening
      · exact htu.calls hcalls
      · rw [htu.listenSocket]
        exact hsocket
      · exact hk
      · rw [htu.owner, hkt]
        exact howner
      · rw [htu.isDown, hkt]
        exact hdown
      · intro _
        rw [htu.lost, hkt]
  | false =>
      have htended : Tended p s c := { hfine with rest := hrest hdown }
      by_cases hconnected : (s.sockets k).state = .connected
      · have hstate : onListenState c k s =
            modifyConn c (fun x => { x with connected := true }) s := by
          simp [onListenState, hsocket, hlistening, hconnected,
            ClientState.isDown]
        rw [hstate]
        apply htended.served hcalls (only_modifyConn c _ s)
        apply quiet_audio
        exact fun x => ⟨_, _, _, _, _, rfl⟩
      · have hstate : onListenState c k s = s := by
          simp [onListenState, hsocket, hlistening, hdown, hconnected]
        rw [hstate]
        exact htended.served hcalls (Only.refl c s) (Quiet.refl s)

/-- A call of `Send()` that succeeds changes little. -/
theorem afterSend_true (call : Send) (s : SpeechToText) :
    Quiet s (afterSend call true s) ∧
      Only call.conn s (afterSend call true s) := by
  cases hsite : call.site with
  | create =>
      have hafter : afterSend call true s =
          modifyConn call.conn (fun x => { x with
            recordingHZ := -1
            lastStartSent := s.now }) s := by
        simp [afterSend, hsite]
      rw [hafter]
      constructor
      · apply quiet_audio
        exact fun x => ⟨_, _, _, _, _, rfl⟩
      · exact only_modifyConn _ _ s
  | reconnect =>
      have hafter : afterSend call true s = s := by
        simp [afterSend, hsite]
      rw [hafter]
      exact ⟨Quiet.refl s, Only.refl _ s⟩

/-- `OnReconnect` is called when `Send()` fails. -/
theorem afterSend_false (call : Send) (s : SpeechToText) :
    let t := modifySocket call.socket (fun x => { x with lost := true }) s
    ∃ u, afterSend call false s = onReconnect call.conn u ∧
      Quiet t u ∧ Only call.conn t u := by
  intro t
  cases hsite : call.site with
  | create =>
      refine ⟨modifyConn call.conn (fun x => { x with connected := false }) t,
        ?_, ?_, only_modifyConn _ _ t⟩
      · simp [afterSend, hsite, t]
      · apply quiet_audio
        exact fun x => ⟨_, _, _, _, _, rfl⟩
  | reconnect =>
      refine ⟨t, ?_, Quiet.refl t, Only.refl _ t⟩
      simp [afterSend, hsite, t]

/-- What follows a call of `Send()`. -/
theorem served_afterSend {s : SpeechToText} {call : Send} {ok : Bool}
    (hlistening : s.isListening = true) (hcalls : Calls call.conn s)
    (hfine : Fine s call.conn)
    (hsocket : (s.conn call.conn).listenSocket = some call.socket)
    (hcontract : sendContract ok (s.sockets call.socket).state = true)
    (hsettled : p → ok = true → s.sends = [] →
      (s.conn call.conn).reconnecting = false) :
    Served p call.conn s (afterSend call ok s) := by
  obtain ⟨hk, howner⟩ := hfine.current hsocket
  cases ok with
  | true =>
      have hup : (s.sockets call.socket).state.isDown = false :=
        ClientState.isDown_eq_false_of_isOpen hcontract
      have hrest : ¬Busy s call.conn → AtRest p s call.conn := by
        intro hidle
        have hsends : s.sends = [] := nil_of_not_busy hcalls hidle
        constructor
        · intro k hsocket' hdown
          obtain rfl : call.socket = k :=
            Option.some.inj (hsocket.symm.trans hsocket')
          rw [hup] at hdown
          cases hdown
        · intro hp hreconnecting
          rw [hsettled hp rfl hsends] at hreconnecting
          cases hreconnecting
      have htended : Tended p s call.conn := { hfine with rest := hrest }
      obtain ⟨hquiet, honly⟩ := afterSend_true call s
      exact htended.served hcalls honly hquiet
  | false =>
      let t : SpeechToText :=
        modifySocket call.socket (fun x => { x with lost := true }) s
      have hkt : t.sockets call.socket =
          { s.sockets call.socket with lost := true } := by
        rw [modifySocket_sockets, if_pos rfl]
      have hst : Only call.conn s t := only_modifySocket howner _
      obtain ⟨u, hafter, hquiet, honly⟩ := afterSend_false call s
      rw [hafter]
      apply (hst.trans honly).served
      apply served_onReconnect (k := call.socket)
      · exact hquiet.isListening.trans hlistening
      · exact hquiet.calls hcalls
      · rw [hquiet.listenSocket]
        exact hsocket
      · rw [hquiet.nextSocket]
        exact hk
      · rw [hquiet.owner, hkt]
        exact howner
      · rw [hquiet.isDown, hkt]
        exact hcontract
      · intro _
        rw [hquiet.lost, hkt]

end SpeechToText

end SelfPlugins.Stt
