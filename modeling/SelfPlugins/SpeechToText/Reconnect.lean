import SelfPlugins.SpeechToText.Recovery

/-!
# Speech to text: the reconnect flag and the current socket

`OnReconnect` takes `m_bReconnecting` to mean that the current socket is down
and that its timer is armed; it stops the whole service when the timer expires
and the socket is in another state.  `Refresh` replaces the socket, but leaves
the flag and the timer as they are.  The service is healthy throughout a run
precisely when no connection is reconnecting at the time its outermost `Send()`
succeeds.
-/

namespace SelfPlugins.Stt

open Runs

namespace SpeechToText

variable {p : Prop}

/-- The service has never stopped itself, and the reconnect timer of each
reconnecting connection is armed for the current socket, which is down. -/
structure Healthy (s : SpeechToText) : Prop where
  noSelfStop : s.selfStops = []
  settled : s.isListening = true → ∀ c ∈ s.connections, ¬Busy s c →
    (s.conn c).reconnecting = true →
    ∃ k, (s.conn c).listenSocket = some k ∧
      (s.conn c).reconnectTimer = .armed (some k) ∧
      (s.sockets k).state.isDown = true

theorem Inv.healthy {s : SpeechToText} (h : Inv True s) : Healthy s where
  noSelfStop := h.noSelfStop trivial
  settled _ c hc hidle hreconnecting :=
    ((h.tended c (mem_alive hc)).rest hidle).settled trivial hreconnecting

/-! ## The other connections of the loops -/

/-- The connection `c` stays as it is, outside of `Send()`. -/
structure Apart (c : ConnId) (s t : SpeechToText) : Prop where
  listening : t.isListening = true
  mem : c ∈ t.connections
  idle : ¬Busy t c
  conn : t.conn c = s.conn c
  sockets : ∀ k, k < s.nextSocket → (s.sockets k).owner = c →
    t.sockets k = s.sockets k

theorem Served.apart {s t : SpeechToText} {c c' : ConnId}
    (hst : Served p c' s t) (hc : c ≠ c') (hlistening : s.isListening = true)
    (hmem : c ∈ s.connections) : Apart c s t where
  listening := hst.isListening.trans hlistening
  mem := by
    rw [hst.connections]
    exact hmem
  idle := not_busy_of_calls hst.calls hc
  conn := hst.conn c hc
  sockets k hk howner := by
    apply hst.sockets k hk
    rw [howner]
    exact hc

theorem InvBut.apart_startNext {s : SpeechToText} {c : ConnId}
    (h : InvBut p c s) (hsends : s.sends = []) (models : List String) :
    Apart c s (startNext models { s with connections := s.alive }) := by
  cases models with
  | nil =>
      exact ⟨h.listening, h.mem, not_busy_of_nil hsends c, rfl,
        fun _ _ _ => rfl⟩
  | cons model rest =>
      let u : SpeechToText := { s with connections := s.alive }
      have hne : c ≠ u.nextConn := Nat.ne_of_lt (h.bound c h.mem)
      have hserved : Served p u.nextConn (opened model rest u)
          (startNext (model :: rest) u) :=
        served_opened (s := u) hsends model rest
      have hconn : (opened model rest u).conn c = s.conn c := by
        rw [opened, modifyConn_conn, if_neg hne]
      have hapart := hserved.apart hne h.listening h.mem
      exact { hapart with conn := hapart.conn.trans hconn }

theorem InvBut.apart_refreshNext {s : SpeechToText} {c : ConnId}
    (h : InvBut p c s) (hsends : s.sends = []) {cs : List ConnId}
    (hloop : s.loop = .refreshing cs) : Apart c s (refreshNext cs s) := by
  have hmem : c ∈ s.connections := by
    have hc := h.mem
    rw [alive, hloop] at hc
    exact hc
  have hwaiting : s.waiting = cs := by
    rw [waiting, hloop]
  cases cs with
  | nil =>
      exact ⟨h.listening, hmem, not_busy_of_nil hsends c, rfl,
        fun _ _ _ => rfl⟩
  | cons d rest =>
      have hd : d ∈ s.waiting := by
        rw [hwaiting]
        exact List.mem_cons_self
      have hne : c ≠ d := by
        rintro rfl
        exact h.not_waiting hd
      have hfine : Fine s d :=
        (h.tended d (h.waiting_alive d hd) (Ne.symm hne)).toFine
      have hserved : Served p d { s with loop := .refreshing rest }
          (refreshNext (d :: rest) s) := served_refreshNext hsends hfine rest
      exact { hserved.apart hne h.listening hmem with }

/-- When the loops go on, the connection whose `Send()` has returned is left
alone. -/
theorem InvBut.apart_resume {s : SpeechToText} {c : ConnId}
    (h : InvBut p c s) (hsends : s.sends = []) : Apart c s (resume s) := by
  rw [resume, if_pos hsends]
  cases hloop : s.loop with
  | idle =>
      have hmem : c ∈ s.connections := by
        have hc := h.mem
        rw [alive, hloop] at hc
        exact hc
      exact ⟨h.listening, hmem, not_busy_of_nil hsends c, rfl,
        fun _ _ _ => rfl⟩
  | starting c' models =>
      have halive : s.alive = s.connections ++ [c'] := by
        rw [alive, hloop]
      have hapart := h.apart_startNext hsends models
      rw [halive] at hapart
      exact hapart
  | refreshing cs => exact h.apart_refreshNext hsends hloop

/-! ## Careless steps -/

theorem not_careful {s : SpeechToText} {e : Event} (h : ¬Careful s e) :
    ∃ st call, e = .sendReturns true st ∧ s.sends = [call] ∧
      (s.conn call.conn).reconnecting = true := by
  cases e with
  | sendReturns ok st =>
      cases ok with
      | true =>
          simp only [Careful, not_forall, Bool.not_eq_false] at h
          obtain ⟨call, hsends, hreconnecting⟩ := h
          exact ⟨st, call, rfl, hsends, hreconnecting⟩
      | false => exact absurd trivial h
  | _ => exact absurd trivial h

/-- A `Send()` that succeeds for a reconnecting connection leaves it
reconnecting, with a socket that is not down. -/
theorem not_healthy_of_not_careful {s t : SpeechToText} {e : Event}
    (h : Inv p s) (hcareless : ¬Careful s e) (ht : step s e = some t) :
    ¬Healthy t := by
  obtain ⟨st, call, rfl, hsends, hreconnecting⟩ := not_careful hcareless
  obtain ⟨call', rest, hsends', hcontract, ht⟩ := of_sendReturns ht
  rw [hsends] at hsends'
  obtain ⟨rfl, rfl⟩ := List.cons.inj hsends'
  let c : ConnId := call.conn
  let u : SpeechToText := { s with sends := [] }
  let v : SpeechToText := SpeechToText.modifySocket call.socket
    (fun x => { x with state := st }) u
  let w : SpeechToText := afterSend call true v
  have hcall : call ∈ s.sends := by
    rw [hsends]
    exact List.mem_cons_self
  have hbut : InvBut p c s := h.caller hcall
  have hsocket : (s.conn c).listenSocket = some call.socket :=
    (hbut.calls call hcall).2
  obtain ⟨hknext, howner⟩ := (h.tended c hbut.mem).current hsocket
  obtain ⟨hquiet, honly⟩ := afterSend_true call v
  have hvk : v.sockets call.socket =
      { s.sockets call.socket with state := st } := by
    rw [modifySocket_sockets, if_pos rfl]
  have hwsends : w.sends = [] := hquiet.sends
  have hsw : Only c s w :=
    ((only_sends c [] s).trans
      (only_modifySocket (s := u) howner _)).trans honly
  have hapart : Apart c w t := by
    rw [← ht]
    exact (hbut.only hsw (calls_of_nil hwsends c)).apart_resume hwsends
  have hstate : (t.sockets call.socket).state.isDown = false := by
    rw [hapart.sockets call.socket, hquiet.isDown, hvk]
    · exact ClientState.isDown_eq_false_of_isOpen hcontract
    · exact Nat.lt_of_lt_of_le hknext hsw.nextSocket
    · rw [hquiet.owner, hvk]
      exact howner
  intro hhealthy
  obtain ⟨l, hl, -, hdown⟩ := hhealthy.settled hapart.listening c
    hapart.mem hapart.idle (by
      rw [hapart.conn, hquiet.reconnecting]
      exact hreconnecting)
  rw [hapart.conn, hquiet.listenSocket] at hl
  obtain rfl : call.socket = l := Option.some.inj (hsocket.symm.trans hl)
  rw [hstate] at hdown
  cases hdown

/-- The reconnect flag stays in step with the current socket throughout a run
iff no connection is reconnecting when its outermost `Send()` succeeds. -/
theorem healthy_iff_careful (settings : Settings) (es : List Event) :
    Throughout step Healthy (new settings) es ↔
      EachStep step Careful (new settings) es := by
  apply throughout_iff_eachStep (I := Inv True) (L := fun _ _ => True)
  · exact fun s h => h.healthy
  · intro s e t h _ hcareful ht
    exact inv_step h (fun _ => hcareful) ht
  · intro s e t h _ hcareless ht
    exact not_healthy_of_not_careful h hcareless ht
  · exact inv_new settings
  · exact eachStep_true (new settings) es

/-- One model, and no silence detection. -/
def oneModel : Settings where
  models := ["en-US_BroadbandModel"]
  maxAlternatives := 3
  timestamps := false
  wordConfidence := false
  continous := true
  interium := false
  timeout := -1
  detectSilence := false
  silenceThreshold := 0

/-- `RefreshConnections` is called while the connection waits for its reconnect
timer.  The new socket is connected when the timer of the old one expires. -/
def refreshedWhileReconnecting : List Event :=
  [.startListening (some 0), .sendReturns true .connected,
    .socket 0 .disconnected, .notify 0, .refreshConnections,
    .sendReturns true .connecting, .socket 1 .connected, .notify 1,
    .reconnectTimer 0]

/-- The service stops itself, although its only connection is connected. -/
theorem not_healthy_after_refresh :
    ¬Throughout step Healthy (new oneModel) refreshedWhileReconnecting := by
  intro h
  have hstops : (run step (new oneModel) refreshedWhileReconnecting).map
      (fun s => (s.selfStops, s.isListening)) = some ([0], false) := rfl
  obtain ⟨t, hhealthy, ht⟩ := h.last hstops
  have hself : t.selfStops = [0] := congrArg Prod.fst ht
  rw [hhealthy.noSelfStop] at hself
  cases hself

end SpeechToText

end SelfPlugins.Stt
