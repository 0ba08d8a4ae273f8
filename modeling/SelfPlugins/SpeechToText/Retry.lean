import SelfPlugins.Framework.Retry
import SelfPlugins.SpeechToText.Steps

/-!
# Speech to text: the recursion of `OnReconnect`

`OnReconnect` of a connection, `Send()` of its socket and `OnListenState` call
each other.  A loss arms the reconnect timer, unless the connection is already
reconnecting: then it clears the flag and the timer, and calls `Send()`.
-/

namespace SelfPlugins.Stt

open Retry

namespace SpeechToText

/-- What happens inside of `Send()`. -/
def sending : Machine SpeechToText where
  notifies st s := step s (.sendNotifies st)
  returns ok st s := step s (.sendReturns ok st)
  calls s := s.sends.length

/-- The reconnect timer of the connection is armed. -/
def Armed (c : ConnId) (s : SpeechToText) : Prop :=
  ∃ k, (s.conn c).reconnectTimer = .armed k

/-- There are `n` calls of `Send()` in progress, all for the socket `k` of the
connection `c`, which is reconnecting or not. -/
structure Retrying (c : ConnId) (k : SocketId) (a : Bool) (n : ℕ)
    (s : SpeechToText) : Prop where
  listening : s.isListening = true
  loop : s.loop = .idle
  socket : (s.conn c).listenSocket = some k
  reconnecting : (s.conn c).reconnecting = a
  calls : ∀ call ∈ s.sends, call.conn = c ∧ call.socket = k
  count : s.sends.length = n

theorem Retrying.quiet {c : ConnId} {k : SocketId} {a : Bool} {n : ℕ}
    {s t : SpeechToText} (h : Retrying c k a n s) (hst : Quiet s t) :
    Retrying c k a n t where
  listening := hst.isListening.trans h.listening
  loop := hst.loop.trans h.loop
  socket := (hst.listenSocket c).trans h.socket
  reconnecting := (hst.reconnecting c).trans h.reconnecting
  calls := by
    rw [hst.sends]
    exact h.calls
  count := by
    rw [hst.sends]
    exact h.count

/-- A loss is handled. -/
theorem Retrying.onReconnect {c : ConnId} {k : SocketId} {a : Bool} {n : ℕ}
    {s : SpeechToText} (h : Retrying c k a n s)
    (hdown : (s.sockets k).state.isDown = true) :
    Retrying c k (!a) (n + a.toNat) (onReconnect c s) ∧
      ((!a) = true → Armed c (onReconnect c s)) := by
  have hreconnecting := h.reconnecting
  cases a with
  | false =>
      let u : SpeechToText := modifyConn c (fun x => { x with
        reconnectTimer := .armed x.listenSocket
        reconnecting := true
        connected := false
        listenActive := false }) s
      have harm : SpeechToText.onReconnect c s = u :=
        onReconnect_arms h.listening hreconnecting
      have hconn : u.conn c = { s.conn c with
          reconnectTimer := .armed (s.conn c).listenSocket
          reconnecting := true
          connected := false
          listenActive := false } := by
        rw [modifyConn_conn, if_pos rfl]
      rw [harm]
      refine ⟨{ h with socket := ?_, reconnecting := ?_ }, fun _ => ?_⟩
      · rw [hconn]
        exact h.socket
      · rw [hconn]
        rfl
      · exact ⟨_, congrArg Connection.reconnectTimer hconn⟩
  | true =>
      let u : SpeechToText := modifyConn c (fun x => { x with
        recordingHZ := -1
        lastStartSent := s.now
        reconnecting := false
        reconnectTimer := .reset }) s
      have hconn : u.conn c = { s.conn c with
          recordingHZ := -1
          lastStartSent := s.now
          reconnecting := false
          reconnectTimer := .reset } := by
        rw [modifyConn_conn, if_pos rfl]
      have hsocket : (u.conn c).listenSocket = some k := by
        rw [hconn]
        exact h.socket
      have hsend : SpeechToText.onReconnect c s =
          SpeechToText.modifySocket k (fun x => { x with lost := false })
            { u with sends := ⟨c, k, .reconnect⟩ :: u.sends } := by
        have hbegin : SpeechToText.onReconnect c s =
            beginSend c .reconnect u :=
          onReconnect_sends h.listening hreconnecting h.socket hdown
        rw [hbegin, beginSend, hsocket]
      rw [hsend]
      refine ⟨⟨h.listening, h.loop, hsocket, ?_, ?_, ?_⟩,
        fun h => absurd h Bool.false_ne_true⟩
      · exact congrArg Connection.reconnecting hconn
      · intro call hcall
        rcases List.mem_cons.mp hcall with rfl | hcall
        · exact ⟨rfl, rfl⟩
        · exact h.calls call hcall
      · exact congrArg (· + 1) h.count

/-- A call of `Send()` is in progress. -/
theorem Retrying.innermost {c : ConnId} {k : SocketId} {a : Bool} {n : ℕ}
    {s : SpeechToText} (h : Retrying c k a (n + 1) s) :
    ∃ site rest, s.sends = ⟨c, k, site⟩ :: rest ∧
      Retrying c k a n { s with sends := rest } := by
  have hcount := h.count
  have hcalls := h.calls
  cases hsends : s.sends with
  | nil =>
      rw [hsends] at hcount
      cases hcount
  | cons call rest =>
      rw [hsends] at hcount hcalls
      obtain ⟨rfl, rfl⟩ := hcalls call List.mem_cons_self
      refine ⟨call.site, rest, rfl, { h with calls := ?_, count := ?_ }⟩
      · exact fun call' hcall' => hcalls call' (List.mem_cons_of_mem _ hcall')
      · exact Nat.succ.inj hcount

theorem resume_of_idle {s : SpeechToText} (h : s.loop = .idle) :
    resume s = s := by
  simp only [resume, h, ite_self]

/-- `Send()` reports a loss. -/
theorem Retrying.sendNotifies {c : ConnId} {k : SocketId} {a : Bool} {n : ℕ}
    {s : SpeechToText} (h : Retrying c k a (n + 1) s) {st : ClientState}
    (hdown : st.isDown = true) :
    ∃ t, step s (.sendNotifies st) = some t ∧
      Retrying c k (!a) (n + 1 + a.toNat) t ∧ ((!a) = true → Armed c t) := by
  obtain ⟨site, rest, hsends, -⟩ := h.innermost
  let u : SpeechToText :=
    modifySocket k (fun x => { x with state := st }) s
  let v : SpeechToText :=
    modifySocket k (fun x => { x with lost := true }) u
  let w : SpeechToText := modifyConn c (fun x => { x with
    connected := false
    listenActive := false }) v
  have hstate : (u.sockets k).state = st := by
    rw [modifySocket_sockets, if_pos rfl]
  have hnotified : step s (.sendNotifies st) = some (onListenState c k u) := by
    simp only [step, SpeechToText.sendNotifies, hsends]
    rfl
  have hlost : onListenState c k u = SpeechToText.onReconnect c w := by
    have hsocket : (u.conn c).listenSocket = some k := h.socket
    have hlistening : u.isListening = true := h.listening
    rw [onListenState, if_pos hsocket, if_pos hlistening, hstate, if_pos hdown]
  have hv : Retrying c k a (n + 1) v := { h with }
  have hvw : Quiet v w := by
    apply quiet_audio
    exact fun x => ⟨_, _, _, _, _, rfl⟩
  refine ⟨_, hnotified, ?_⟩
  rw [hlost]
  apply (hv.quiet hvw).onReconnect
  rw [hvw.isDown, modifySocket_sockets, if_pos rfl]
  exact hstate ▸ hdown

/-- `Send()` fails. -/
theorem Retrying.sendFails {c : ConnId} {k : SocketId} {a : Bool} {n : ℕ}
    {s : SpeechToText} (h : Retrying c k a (n + 1) s) {st : ClientState}
    (hdown : st.isDown = true) :
    ∃ t, step s (.sendReturns false st) = some t ∧
      Retrying c k (!a) (n + a.toNat) t ∧ ((!a) = true → Armed c t) := by
  obtain ⟨site, rest, hsends, hrest⟩ := h.innermost
  let u : SpeechToText :=
    modifySocket k (fun x => { x with state := st }) { s with sends := rest }
  have hu : Retrying c k a n u := { hrest with }
  have hreturned : step s (.sendReturns false st) =
      some (resume (afterSend ⟨c, k, site⟩ false u)) := by
    simp only [step, sendReturns, hsends]
    exact if_pos hdown
  obtain ⟨w, hafter, hquiet, -⟩ := afterSend_false ⟨c, k, site⟩ u
  have hw : Retrying c k a n w := by
    apply Retrying.quiet _ hquiet
    exact { hu with }
  have hstate : (w.sockets k).state.isDown = true := by
    rw [hquiet.isDown, modifySocket_sockets, if_pos rfl]
    change (u.sockets k).state.isDown = true
    rw [modifySocket_sockets, if_pos rfl]
    exact hdown
  obtain ⟨hretrying, harmed⟩ := hw.onReconnect hstate
  refine ⟨_, hreturned, ?_⟩
  rw [hafter, resume_of_idle hretrying.loop]
  exact ⟨hretrying, harmed⟩

/-- `Send()` succeeds, and leaves the timer as it is. -/
theorem Retrying.sendSucceeds {c : ConnId} {k : SocketId} {a : Bool} {n : ℕ}
    {s : SpeechToText} (h : Retrying c k a (n + 1) s) {st : ClientState}
    (hopen : st.isOpen = true) :
    ∃ t, step s (.sendReturns true st) = some t ∧ Retrying c k a n t ∧
      (Armed c s → Armed c t) := by
  obtain ⟨site, rest, hsends, hrest⟩ := h.innermost
  let u : SpeechToText :=
    modifySocket k (fun x => { x with state := st }) { s with sends := rest }
  have hu : Retrying c k a n u := { hrest with }
  have hreturned : step s (.sendReturns true st) =
      some (resume (afterSend ⟨c, k, site⟩ true u)) := by
    simp only [step, sendReturns, hsends]
    exact if_pos hopen
  obtain ⟨hquiet, -⟩ := afterSend_true ⟨c, k, site⟩ u
  have hretrying := hu.quiet hquiet
  refine ⟨_, hreturned, ?_⟩
  rw [resume_of_idle hretrying.loop]
  refine ⟨hretrying, ?_⟩
  rintro ⟨l, hl⟩
  exact ⟨l, (hquiet.timer c).trans hl⟩

theorem toggles_sending (c : ConnId) (k : SocketId) : Toggles sending
    (fun a n s => Retrying c k a n s ∧ (a = true → Armed c s)) where
  calls h := h.1.count
  notifies h hdown := h.1.sendNotifies hdown
  fails h hdown := h.1.sendFails hdown
  succeeds := by
    rintro a n s st ⟨h, harmed⟩ hopen
    obtain ⟨t, ht, hretrying, hkept⟩ := h.sendSucceeds hopen
    exact ⟨t, ht, hretrying, fun ha => hkept (harmed ha)⟩

/-- The reconnect timer of a connection expires: the recursion ends as it
should if and only if the socket is down, so that `Send()` is called, and the
behaviour subsides. -/
theorem Inv.ends_reconnectTimer {p : Prop} {s t : SpeechToText} {c : ConnId}
    (h : Inv p s) (b : Behaviour) (ht : step s (.reconnectTimer c) = some t) :
    Ends sending b (Armed c) t ↔
      (s.listenState c).isDown = true ∧ Subsides b := by
  let u : SpeechToText :=
    modifyConn c (fun x => { x with reconnectTimer := .fired }) s
  obtain ⟨harmed, hidle, hc, rfl⟩ := of_reconnectTimer ht
  change Ends sending b (Armed c) (onReconnect c u) ↔ _
  have hc' : c ∈ s.alive := by
    rw [hidle.alive]
    exact hc
  have hreconnecting : (s.conn c).reconnecting = true :=
    (h.tended c hc').armed.mpr harmed
  obtain ⟨k, hsocket, -⟩ := (h.tended c hc').socket
  have hstate : s.listenState c = (s.sockets k).state := by
    simp only [listenState, hsocket]
  have hconn : u.conn c = { s.conn c with reconnectTimer := .fired } := by
    rw [modifyConn_conn, if_pos rfl]
  have hu : Retrying c k true 0 u := by
    refine ⟨h.listening hc', hidle.2, ?_, ?_, ?_, ?_⟩
    · exact (congrArg Connection.listenSocket hconn).trans hsocket
    · exact (congrArg Connection.reconnecting hconn).trans hreconnecting
    · intro call hcall
      have hnone : call ∈ s.sends := hcall
      rw [hidle.1] at hnone
      cases hnone
    · exact congrArg List.length hidle.1
  by_cases hdown : (s.sockets k).state.isDown = true
  · rw [ends_iff (toggles_sending c k) (fun _ h => h.2 rfl)
      (hu.onReconnect hdown), hstate]
    exact ⟨fun h => ⟨hdown, h⟩, fun h => h.2⟩
  · -- `StopListening()` ends the attempts, and the timer has expired.
    have hstops : onReconnect c u =
        stopListening { u with selfStops := u.selfStops ++ [c] } :=
      onReconnect_stops hu.listening hu.reconnecting hu.socket
        (Bool.eq_false_iff.mpr hdown)
    have hcalls : sending.calls (onReconnect c u) = 0 := by
      rw [hstops, stopListening, if_pos hu.listening]
      exact congrArg List.length hidle.1
    have hfired : ¬Armed c (onReconnect c u) := by
      rintro ⟨l, hl⟩
      rw [hstops, stopListening, if_pos hu.listening] at hl
      change (u.conn c).reconnectTimer = _ at hl
      rw [hconn] at hl
      cases hl
    rw [hstate]
    exact ⟨fun h => absurd h (not_ends_of_idle hcalls hfired),
      fun h => absurd h.1 hdown⟩

end SpeechToText

end SelfPlugins.Stt
