import SelfPlugins.SpeechToText.Invariant

/-!
# Speech to text: every step keeps the invariant

One lemma for each kind of event, and `inv_step` for all of them.  Only the
strict form of the invariant needs a condition, on the steps in which a call of
`Send()` returns.
-/

namespace SelfPlugins.Stt

namespace SpeechToText

variable {p : Prop}

/-- When the outermost call of `Send()` succeeds, its connection is not
reconnecting. -/
def Careful (s : SpeechToText) : Event → Prop
  | .sendReturns true _ =>
      ∀ call, s.sends = [call] → (s.conn call.conn).reconnecting = false
  | _ => True

/-! ## Calls from outside -/

theorem inv_silent {s : SpeechToText} (hidle : s.Idle)
    (hconnections : s.connections = []) (hself : p → s.selfStops = []) :
    Inv p s := by
  have halive : s.alive = [] := hidle.alive.trans hconnections
  constructor
  · exact fun _ => halive
  · rw [halive]
    exact List.nodup_nil
  · rw [halive]
    exact fun c hc => absurd hc List.not_mem_nil
  · rw [hidle.waiting]
    exact List.nodup_nil
  · rw [hidle.waiting]
    exact fun c hc => absurd hc List.not_mem_nil
  · exact hself
  · exact Or.inl hidle.1
  · rw [halive]
    exact fun c hc => absurd hc List.not_mem_nil

theorem idle_stopListening {s : SpeechToText} (hidle : s.Idle) :
    (stopListening s).Idle := by
  rw [stopListening]
  split
  · exact hidle
  · exact hidle

theorem inv_stopListening {s : SpeechToText} (h : Inv p s)
    (hidle : s.Idle) : Inv p (stopListening s) := by
  rw [stopListening]
  split
  · apply inv_silent
    · exact hidle
    · rfl
    · exact h.noSelfStop
  · exact h

theorem Inv.resting_of_idle {s : SpeechToText} (h : Inv p s)
    (hidle : s.Idle) : Resting p s := by
  have hresting := h.resting hidle.1
  rw [hidle.alive] at hresting
  exact hresting

theorem inv_startListening {s : SpeechToText} (h : Inv p s)
    (hidle : s.Idle) (callback : Option CallbackId) :
    Inv p (startListening callback s) := by
  cases callback with
  | none => exact h
  | some callback =>
      simp only [startListening]
      split
      · exact h
      · rename_i hsilent
        have hconnections : s.connections = [] :=
          (h.resting_of_idle hidle).silent (Bool.eq_false_iff.mpr hsilent)
        have hstarted : Inv p
            { s with isListening := true, listenCallback := some callback } :=
          inv_silent hidle hconnections h.noSelfStop
        exact inv_startNext (hstarted.resting_of_idle hidle) rfl _

theorem inv_setLearningOptOut {s : SpeechToText} (h : Inv p s)
    (hidle : s.Idle) (flag : Bool) : Inv p (setLearningOptOut flag s) := by
  rw [setLearningOptOut]
  split
  · exact h
  · have hquiet : Quiet s { s with learningOptOut := flag } :=
      { Quiet.refl s with }
    apply inv_startListening
    · exact inv_stopListening (h.quiet hquiet) (hidle.quiet hquiet)
    · exact idle_stopListening (hidle.quiet hquiet)

theorem inv_refreshConnections {s : SpeechToText} (h : Inv p s)
    (hidle : s.Idle) : Inv p (refreshConnections s) := by
  have hresting : Resting p s := h.resting_of_idle hidle
  rw [refreshConnections]
  split
  · rename_i hlistening
    exact inv_refreshNext hresting hlistening hresting.nodup fun _ hc => hc
  · exact h

/-- A function that is quiet but may stop the service. -/
theorem inv_of_cases {s t : SpeechToText} (h : Inv p s) (hidle : s.Idle)
    (hcases : Quiet s t ∨ ∃ u, Quiet s u ∧ Quiet (stopListening u) t) :
    Inv p t := by
  rcases hcases with hst | ⟨u, hsu, hut⟩
  · exact h.quiet hst
  · exact (inv_stopListening (h.quiet hsu) (hidle.quiet hsu)).quiet hut

/-! ## The environment of the sockets -/

/-- A change of a socket concerns the connection it is the current socket
of. -/
theorem Inv.modifySocket {s : SpeechToText} (h : Inv p s) {k : SocketId}
    {f : Socket → Socket}
    (hk : ∀ c ∈ s.alive, (s.conn c).listenSocket = some k →
      Tended p (modifySocket k f s) c) : Inv p (modifySocket k f s) := by
  refine { h with tended := ?_ }
  intro c hc
  by_cases hsocket : (s.conn c).listenSocket = some k
  · exact hk c hc hsocket
  · apply (h.tended c hc).frame
    · rfl
    · exact Nat.le_refl _
    · intro l hl
      have hne : l ≠ k := by
        rintro rfl
        exact hsocket hl
      rw [modifySocket_sockets, if_neg hne]
    · exact id

theorem Inv.caller {s : SpeechToText} (h : Inv p s) {call : Send}
    (hcall : call ∈ s.sends) : InvBut p call.conn s := by
  rcases h.calls with hsends | ⟨c, hc, hwaiting, hcalls⟩
  · rw [hsends] at hcall
    cases hcall
  · rw [(hcalls call hcall).1]
    exact h.but hc hwaiting hcalls

/-- A call of `Send()` of the current socket of `c` is one of `c`. -/
theorem Inv.busy_of_call {s : SpeechToText} (h : Inv p s) {c : ConnId}
    {call : Send} (hc : c ∈ s.alive)
    (hsocket : (s.conn c).listenSocket = some call.socket)
    (hcall : call ∈ s.sends) : Busy s c := by
  have hbut : InvBut p call.conn s := h.caller hcall
  have hcaller : (s.sockets call.socket).owner = call.conn :=
    ((h.tended _ hbut.mem).current (hbut.calls call hcall).2).2
  have howner : (s.sockets call.socket).owner = c :=
    ((h.tended c hc).current hsocket).2
  exact ⟨call, hcall, hcaller.symm.trans howner⟩

theorem inv_socketChanges {s t : SpeechToText} {k : SocketId}
    {st : ClientState} (h : Inv p s) (ht : socketChanges k st s = some t) :
    Inv p t := by
  obtain ⟨hstays, rfl⟩ := of_socketChanges ht
  apply h.modifySocket
  intro c hc hsocket
  have hcurrent : ∀ l, (s.conn c).listenSocket = some l → l = k := by
    intro l hl
    exact Option.some.inj (hl.symm.trans hsocket)
  refine { (h.tended c hc).toFine.modifySocket k ?_ ?_ with rest := ?_ }
  · exact fun _ => rfl
  · exact fun _ => rfl
  · intro hidle
    constructor
    · intro l hl _ hqueued
      rw [hcurrent l hl, modifySocket_sockets, if_pos rfl] at hqueued
      cases hqueued
    · intro hp hreconnecting
      obtain ⟨l, hl, htimer, hdown⟩ :=
        ((h.tended c hc).rest hidle).settled hp hreconnecting
      obtain rfl : l = k := hcurrent l hl
      refine ⟨l, hl, htimer, ?_⟩
      rw [modifySocket_sockets, if_pos rfl]
      rcases hstays hdown with hst | ⟨call, hcall, rfl⟩
      · exact hst
      · exact absurd (h.busy_of_call hc hsocket hcall) hidle

theorem inv_notify {s t : SpeechToText} {k : SocketId} (h : Inv p s)
    (ht : notify k s = some t) : Inv p t := by
  obtain ⟨hidle, u, hu, hcases⟩ := of_notify ht
  let c : ConnId := (s.sockets k).owner
  have hku : u.sockets k =
      { s.sockets k with queued := (s.sockets k).queued - 1 } := by
    rw [hu, modifySocket_sockets, if_pos rfl]
  have hunseen : ¬(c ∈ s.connections ∧ (s.conn c).listenSocket = some k) →
      Inv p u := by
    intro hnot
    rw [hu]
    apply h.modifySocket
    intro c' hc' hsocket
    have heq : c' = c := ((h.tended c' hc').current hsocket).2.symm
    rw [hidle.alive] at hc'
    exact absurd ⟨heq ▸ hc', heq ▸ hsocket⟩ hnot
  rcases hcases with ⟨hc, rfl⟩ | ⟨hc, rfl⟩
  · by_cases hsocket : (s.conn c).listenSocket = some k
    · have hbut : InvBut p c s := h.but_of_idle hidle hc
      have hsu : Only c s u := hu ▸ only_modifySocket rfl _
      apply hbut.served
      apply hsu.served
      apply served_onListenState
      · rw [hu]
        exact hbut.listening
      · rw [hu]
        exact hbut.calls
      · rw [hu]
        apply (h.tended c hbut.mem).toFine.modifySocket
        · exact fun _ => rfl
        · exact fun _ => rfl
      · rw [hu]
        exact hsocket
      · intro hup hrest
        have hks : (s.sockets k).state.isDown = false := by
          rw [hku] at hup
          exact hup
        rw [hu] at hrest ⊢
        constructor
        · intro l hl hdown
          obtain rfl : k = l := Option.some.inj (hsocket.symm.trans hl)
          rw [← hu, hup] at hdown
          cases hdown
        · intro hp hreconnecting
          obtain ⟨l, hl, -, hdown⟩ :=
            ((h.tended c hbut.mem).rest hrest).settled hp hreconnecting
          obtain rfl : k = l := Option.some.inj (hsocket.symm.trans hl)
          rw [hks] at hdown
          cases hdown
    · have hnot : ¬(u.conn c).listenSocket = some k := by
        rw [hu]
        exact hsocket
      rw [onListenState, if_neg hnot]
      exact hunseen fun hboth => hsocket hboth.2
  · exact hunseen fun hboth => hc hboth.1

theorem inv_sendNotifies {s t : SpeechToText} {st : ClientState}
    (h : Inv p s) (ht : sendNotifies st s = some t) : Inv p t := by
  obtain ⟨call, rest, hsends, rfl⟩ := of_sendNotifies ht
  have hcall : call ∈ s.sends := hsends ▸ List.mem_cons_self
  have hbut : InvBut p call.conn s := h.caller hcall
  have hfine : Fine s call.conn := (h.tended _ hbut.mem).toFine
  have hsocket := (hbut.calls call hcall).2
  have howner := (hfine.current hsocket).2
  let u : SpeechToText := SpeechToText.modifySocket call.socket
    (fun x => { x with state := st }) s
  have hsu : Only call.conn s u := only_modifySocket howner _
  apply hbut.served
  apply hsu.served
  apply served_onListenState
  · exact hbut.listening
  · exact hbut.calls
  · apply hfine.modifySocket
    · exact fun _ => rfl
    · exact fun _ => rfl
  · exact hsocket
  · exact fun _ hidle => absurd ⟨call, hcall, rfl⟩ hidle

theorem inv_sendReturns {s t : SpeechToText} {ok : Bool} {st : ClientState}
    (h : Inv p s) (hcareful : p → Careful s (.sendReturns ok st))
    (ht : sendReturns ok st s = some t) : Inv p t := by
  obtain ⟨call, rest, hsends, hcontract, rfl⟩ := of_sendReturns ht
  have hcall : call ∈ s.sends := hsends ▸ List.mem_cons_self
  have hbut : InvBut p call.conn s := h.caller hcall
  have hfine : Fine s call.conn := (h.tended _ hbut.mem).toFine
  have hsocket := (hbut.calls call hcall).2
  have howner := (hfine.current hsocket).2
  let u : SpeechToText := { s with sends := rest }
  let v : SpeechToText := SpeechToText.modifySocket call.socket
    (fun x => { x with state := st }) u
  have hsv : Only call.conn s v :=
    (only_sends _ rest s).trans (only_modifySocket (s := u) howner _)
  have hfine' : Fine u call.conn := { hfine with }
  have hafter : Served p call.conn s (afterSend call ok v) := by
    apply hsv.served
    apply served_afterSend
    · exact hbut.listening
    · intro call' hcall'
      apply hbut.calls call'
      rw [hsends]
      exact List.mem_cons_of_mem call hcall'
    · apply hfine'.modifySocket
      · exact fun _ => rfl
      · exact fun _ => rfl
    · exact hsocket
    · rw [modifySocket_sockets, if_pos rfl]
      exact hcontract
    · intro hp hok hrest
      have hlast : rest = [] := hrest
      subst hok hlast
      exact hcareful hp call hsends
  apply inv_resume (hbut.served hafter)
  exact hafter.isListening.trans hbut.listening

/-! ## The reconnect timer -/

theorem inv_reconnectTimer {s t : SpeechToText} {c : ConnId} (h : Inv p s)
    (ht : reconnectTimer c s = some t) : Inv p t := by
  obtain ⟨harmed, hidle, hc, rfl⟩ := of_reconnectTimer ht
  have hbut : InvBut p c s := h.but_of_idle hidle hc
  have htended : Tended p s c := h.tended c hbut.mem
  have hreconnecting : (s.conn c).reconnecting = true :=
    htended.armed.mpr harmed
  obtain ⟨k, hsocket, hk, howner⟩ := htended.socket
  let u : SpeechToText :=
    modifyConn c (fun x => { x with reconnectTimer := .fired }) s
  have hconn : u.conn c = { s.conn c with reconnectTimer := .fired } := by
    rw [modifyConn_conn, if_pos rfl]
  have hsu : Only c s u := only_modifyConn c _ s
  cases hdown : (s.sockets k).state.isDown with
  | true =>
      apply hbut.served
      apply hsu.served
      apply served_onReconnect (k := k)
      · exact hbut.listening
      · exact calls_of_nil (s := u) hidle.1 c
      · rw [hconn]
        exact hsocket
      · exact hk
      · exact howner
      · exact hdown
      · intro hnot
        rw [hconn, hreconnecting] at hnot
        cases hnot
  | false =>
      have hlistening : u.isListening = true := hbut.listening
      have hreconnecting' : (u.conn c).reconnecting = true := by
        rw [hconn]
        exact hreconnecting
      have hsocket' : (u.conn c).listenSocket = some k := by
        rw [hconn]
        exact hsocket
      rw [onReconnect_stops hlistening hreconnecting' hsocket' hdown,
        stopListening, if_pos hlistening]
      apply inv_silent
      · exact hidle
      · rfl
      · intro hp
        obtain ⟨l, hl, -, hdown'⟩ :=
          (htended.rest (not_busy_of_nil hidle.1 c)).settled hp hreconnecting
        obtain rfl : k = l := Option.some.inj (hsocket.symm.trans hl)
        rw [hdown] at hdown'
        cases hdown'

/-! ## All events -/

theorem inv_step {s t : SpeechToText} {e : Event} (h : Inv p s)
    (hcareful : p → Careful s e) (ht : step s e = some t) : Inv p t := by
  cases e with
  | startListening callback =>
      obtain ⟨hidle, rfl⟩ := whenIdle_eq_some ht
      exact inv_startListening h hidle callback
  | stopListening =>
      obtain ⟨hidle, rfl⟩ := whenIdle_eq_some ht
      exact inv_stopListening h hidle
  | setLearningOptOut flag =>
      obtain ⟨hidle, rfl⟩ := whenIdle_eq_some ht
      exact inv_setLearningOptOut h hidle flag
  | refreshConnections =>
      obtain ⟨hidle, rfl⟩ := whenIdle_eq_some ht
      exact inv_refreshConnections h hidle
  | disconnected =>
      obtain ⟨hidle, rfl⟩ := whenIdle_eq_some ht
      exact h.quiet (quiet_disconnectAll s)
  | onListen clip =>
      obtain ⟨hidle, rfl⟩ := whenIdle_eq_some ht
      exact h.quiet (quiet_onListen clip s)
  | frame k frame =>
      obtain ⟨hidle, -, rfl⟩ := of_step_frame ht
      exact inv_of_cases h hidle (onListenMessage_cases _ frame s)
  | socket k st => exact inv_socketChanges h ht
  | notify k => exact inv_notify h ht
  | sendNotifies st => exact inv_sendNotifies h ht
  | sendReturns ok st => exact inv_sendReturns h hcareful ht
  | reconnectTimer c => exact inv_reconnectTimer h ht
  | resultTimer =>
      obtain ⟨-, hidle, rfl⟩ := of_step_resultTimer ht
      exact inv_of_cases h hidle (onFinalizeResult_cases s)
  | elapse seconds =>
      obtain rfl := of_step_elapse ht
      exact h.quiet { Quiet.refl s with }
  | invalidate =>
      cases ht
      exact h.quiet { Quiet.refl s with }

end SpeechToText

end SelfPlugins.Stt
