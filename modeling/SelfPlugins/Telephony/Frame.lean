import SelfPlugins.Library.Runs
import SelfPlugins.Telephony.Model

/-!
# Telephony: what a step leaves alone

The handlers of the sockets and of the reconnect timer touch neither the queue
nor the call, and what they add to the log is neither an answer nor audio
(`Handled`).  The other functions may end a call or change the connection, but
only three events deal with audio or begin a call (`quiet_step`).
-/

namespace SelfPlugins.Nexmo

open Runs

/-- Neither an answer nor audio. -/
def Entry.isQuiet : Entry → Bool
  | .text _ (.answer _ _) => false
  | .binary _ _ => false
  | _ => true

theorem Entry.not_isAnswer {e : Entry} (h : e.isQuiet = true) :
    ¬e.isAnswer = true := by
  cases e with
  | text k m =>
      cases m with
      | answer toNumber fromNumber => cases h
      | _ => exact Bool.false_ne_true
  | _ => exact Bool.false_ne_true

theorem calls_append {es : List Entry} (log : List Entry)
    (h : ∀ e ∈ es, e.isQuiet = true) : calls (log ++ es) = calls log := by
  have hes : es.countP Entry.isAnswer = 0 :=
    List.countP_eq_zero.mpr fun e he => Entry.not_isAnswer (h e he)
  rw [calls, List.countP_append, hes]
  rfl

namespace Telephony

/-- From `s` to `t` no audio is queued or sent, and no call is answered. -/
structure Quiet (s t : Telephony) : Prop where
  outgoing : t.outgoing = s.outgoing
  log : ∃ es, t.log = s.log ++ es ∧ ∀ e ∈ es, e.isQuiet = true

/-- Moreover the connection and the call stay. -/
structure Handled (s t : Telephony) : Prop extends Quiet s t where
  connection : t.connection = s.connection
  inCall : t.inCall = s.inCall

theorem Quiet.refl (s : Telephony) : Quiet s s :=
  ⟨rfl, [], (List.append_nil _).symm, fun _ h => absurd h List.not_mem_nil⟩

theorem Handled.refl (s : Telephony) : Handled s s :=
  { Quiet.refl s with connection := rfl, inCall := rfl }

theorem Quiet.trans {s t u : Telephony} (hst : Quiet s t) (htu : Quiet t u) :
    Quiet s u := by
  obtain ⟨es, hes, hquiet⟩ := hst.log
  obtain ⟨fs, hfs, hquiet'⟩ := htu.log
  refine ⟨htu.outgoing.trans hst.outgoing, es ++ fs, ?_, ?_⟩
  · rw [hfs, hes, List.append_assoc]
  · intro e he
    exact (List.mem_append.mp he).elim (hquiet e) (hquiet' e)

theorem Handled.trans {s t u : Telephony} (hst : Handled s t)
    (htu : Handled t u) : Handled s u :=
  { hst.toQuiet.trans htu.toQuiet with
    connection := htu.connection.trans hst.connection
    inCall := htu.inCall.trans hst.inCall }

/-- What holds of all entries but answers and audio continues to hold. -/
theorem Quiet.eachInput {Q : List Entry → Entry → Prop} {s t : Telephony}
    (hst : Quiet s t) (hQ : ∀ past e, e.isQuiet = true → Q past e)
    (h : EachInput Q [] s.log) : EachInput Q [] t.log := by
  obtain ⟨es, hes, hquiet⟩ := hst.log
  rw [hes, eachInput_append]
  exact ⟨h, eachInput_of_forall (fun past e he => hQ past e (hquiet e he)) _⟩

/-- One entry is logged. -/
theorem quiet_entry {s t : Telephony} {e : Entry} (he : e.isQuiet = true)
    (hlog : t.log = s.log ++ [e]) (houtgoing : t.outgoing = s.outgoing) :
    Quiet s t :=
  ⟨houtgoing, [e], hlog, fun _ h => List.mem_singleton.mp h ▸ he⟩

theorem quiet_of_eq {s t : Telephony} (hlog : t.log = s.log)
    (houtgoing : t.outgoing = s.outgoing) : Quiet s t :=
  ⟨houtgoing, [], hlog.trans (List.append_nil _).symm,
    fun _ h => absurd h List.not_mem_nil⟩

theorem handled_entry {s t : Telephony} {e : Entry} (he : e.isQuiet = true)
    (hlog : t.log = s.log ++ [e]) (houtgoing : t.outgoing = s.outgoing)
    (hconnection : t.connection = s.connection)
    (hinCall : t.inCall = s.inCall) : Handled s t :=
  { quiet_entry he hlog houtgoing with
    connection := hconnection
    inCall := hinCall }

theorem handled_of_eq {s t : Telephony} (hlog : t.log = s.log)
    (houtgoing : t.outgoing = s.outgoing)
    (hconnection : t.connection = s.connection)
    (hinCall : t.inCall = s.inCall) : Handled s t :=
  { quiet_of_eq hlog houtgoing with
    connection := hconnection
    inCall := hinCall }

/-! ## The functions -/

theorem handled_modifySocket (k : SocketId) (f : Socket → Socket)
    (s : Telephony) : Handled s (modifySocket k f s) :=
  handled_of_eq rfl rfl rfl rfl

theorem handled_sendText {m : Message} (hm : ∀ k, (Entry.text k m).isQuiet)
    (s : Telephony) : Handled s (sendText m s) := by
  rw [sendText]
  split
  · exact Handled.refl s
  · exact handled_entry (hm _) rfl rfl rfl rfl

theorem handled_beginSend (k : SocketId) (s : Telephony) :
    Handled s (beginSend k s) :=
  handled_entry (e := .send k) rfl rfl rfl rfl rfl

theorem handled_onReconnect (s : Telephony) : Handled s (onReconnect s) := by
  rw [onReconnect]
  split
  · exact Handled.refl s
  · split
    · exact handled_of_eq rfl rfl rfl rfl
    · split
      · refine Handled.trans ?_ (handled_beginSend _ _)
        exact handled_of_eq rfl rfl rfl rfl
      · exact handled_modifySocket _ _ s

theorem handled_onListenState (k : SocketId) (s : Telephony) :
    Handled s (onListenState k s) := by
  have hconnected (b : Bool) : Handled s { s with connected := b } :=
    handled_of_eq rfl rfl rfl rfl
  rw [onListenState]
  split
  · split
    · exact (hconnected false).trans (handled_onReconnect _)
    · split
      · exact hconnected true
      · exact Handled.refl s
  · exact Handled.refl s

theorem handled_receiveState (k : SocketId) (s : Telephony) :
    Handled s (receiveState k s) := by
  rw [receiveState]
  split
  · refine Handled.trans ?_ (handled_onListenState k _)
    exact handled_entry (e := .lost k) rfl rfl rfl rfl rfl
  · exact handled_onListenState k s

theorem handled_afterSend (ok : Bool) (s : Telephony) :
    Handled s (afterSend ok s) := by
  rw [afterSend]
  split
  · exact handled_sendText (fun _ => rfl) s
  · exact handled_onReconnect s

/-- A call is answered if there is a connection. -/
theorem answer_cases (fromNumber toNumber : String) (s : Telephony) :
    answer fromNumber toNumber s = s ∨ ∃ k, s.connection = some k ∧
      answer fromNumber toNumber s = startSendTimer { s with
        inCall := true
        log := s.log ++ [.text k (.answer toNumber fromNumber)] } := by
  rw [answer]
  split
  · exact Or.inl rfl
  · rename_i k hk
    refine Or.inr ⟨k, hk, ?_⟩
    simp only [sendText, hk]

theorem quiet_connect (selfId : String) (onCommand onAudioOut : Bool)
    (s : Telephony) : Quiet s (connect selfId onCommand onAudioOut s) := by
  rw [connect]
  split
  · exact Quiet.refl s
  · split
    · exact Quiet.refl s
    · exact quiet_entry (e := .send _) rfl rfl rfl

theorem quiet_hangUp (s : Telephony) : Quiet s (hangUp s) := by
  rw [hangUp]
  split
  · exact Quiet.refl s
  · exact (handled_sendText (fun _ => rfl) s).toQuiet.trans (quiet_of_eq rfl rfl)

theorem quiet_disconnect (s : Telephony) : Quiet s (disconnect s) := by
  rw [disconnect]
  split
  · exact Quiet.refl s
  · exact quiet_entry (e := .disconnect _) rfl rfl rfl

/-- A message of the server calls back, sets the number or ends the call. -/
theorem onListenMessage_cases (frame : Frame) (s : Telephony) :
    ∃ u, Handled s u ∧ u.log = s.log ∧ u.sends = s.sends ∧
      (onListenMessage frame s = u ∨
        onListenMessage frame s =
          { u with inCall := false, log := u.log ++ [.hungUp] }) := by
  have hcommand {json : Json.Value} {u : Telephony} (hu : Handled s u)
      (hlog : u.log = s.log) (hsends : u.sends = s.sends) :
      ∃ v, Handled s v ∧ v.log = s.log ∧ v.sends = s.sends ∧
        (onCommandReceived json u = v ∨ onCommandReceived json u =
          { v with inCall := false, log := v.log ++ [.hungUp] }) := by
    rw [onCommandReceived]
    split
    · exact ⟨u, hu, hlog, hsends, Or.inl rfl⟩
    · split
      · split
        · exact ⟨u, hu, hlog, hsends, Or.inl rfl⟩
        · rename_i number _
          have hnumber : Handled u { u with myNumber := number } :=
            handled_of_eq rfl rfl rfl rfl
          exact ⟨_, hu.trans hnumber, hlog, hsends, Or.inl rfl⟩
      · split
        · exact ⟨u, hu, hlog, hsends, Or.inr rfl⟩
        · exact ⟨u, hu, hlog, hsends, Or.inl rfl⟩
  have hsilent : ∃ u, Handled s u ∧ u.log = s.log ∧ u.sends = s.sends ∧
      (s = u ∨ s = { u with inCall := false, log := u.log ++ [.hungUp] }) :=
    ⟨s, Handled.refl s, rfl, rfl, Or.inl rfl⟩
  unfold onListenMessage
  split
  · apply hcommand
    · split
      · exact handled_of_eq rfl rfl rfl rfl
      · exact Handled.refl s
    · split
      · rfl
      · rfl
    · split
      · rfl
      · rfl
  · exact hsilent
  · rename_i data
    have hheard : Handled s { s with audioOut := s.audioOut ++ [data] } :=
      handled_of_eq rfl rfl rfl rfl
    split
    · exact ⟨_, hheard, rfl, rfl, Or.inl rfl⟩
    · exact hsilent
  · exact hsilent

theorem quiet_onListenMessage (frame : Frame) (s : Telephony) :
    Quiet s (onListenMessage frame s) := by
  obtain ⟨u, hu, -, -, heq | heq⟩ := onListenMessage_cases frame s
  · rw [heq]
    exact hu.toQuiet
  · rw [heq]
    exact hu.toQuiet.trans (quiet_entry (e := .hungUp) rfl rfl rfl)

/-! ## The steps -/

theorem whenIdle_eq_some {f : Telephony → Telephony} {s t : Telephony}
    (h : whenIdle f s = some t) : s.sends = [] ∧ t = f s := by
  rw [whenIdle] at h
  split at h
  · rename_i hidle
    exact ⟨hidle, (Option.some.inj h).symm⟩
  · cases h

theorem of_step_frame {k : SocketId} {f : Frame} {s t : Telephony}
    (h : step s (.frame k f) = some t) : t = onListenMessage f s := by
  simp only [step] at h
  split at h
  · exact (whenIdle_eq_some h).2
  · cases h

theorem of_step_reconnectTimer {s t : Telephony}
    (h : step s .reconnectTimer = some t) :
    s.sends = [] ∧ t = onReconnect { s with reconnectTimer := .fired } := by
  simp only [step] at h
  split at h
  · exact whenIdle_eq_some h
  · cases h

theorem of_step_sendTimer {s t : Telephony}
    (h : step s .sendTimer = some t) : t = onSendAudioData s := by
  simp only [step] at h
  split at h
  · exact (whenIdle_eq_some h).2
  · cases h

theorem handled_socketChanges {k : SocketId} {st : ClientState}
    {s t : Telephony} (h : socketChanges k st s = some t) : Handled s t := by
  rw [socketChanges] at h
  split at h
  · exact Option.some.inj h ▸ handled_modifySocket _ _ s
  · cases h

theorem handled_notify {k : SocketId} {s t : Telephony}
    (h : notify k s = some t) : Handled s t := by
  rw [notify] at h
  split at h
  · rw [← Option.some.inj h]
    exact (handled_modifySocket _ _ s).trans (handled_receiveState _ _)
  · cases h

theorem handled_sendNotifies {st : ClientState} {s t : Telephony}
    (h : sendNotifies st s = some t) : Handled s t := by
  rw [sendNotifies] at h
  split at h
  · cases h
  · rw [← Option.some.inj h]
    exact (handled_modifySocket _ _ s).trans (handled_receiveState _ _)

theorem handled_sendReturns {ok : Bool} {st : ClientState} {s t : Telephony}
    (h : sendReturns ok st s = some t) : Handled s t := by
  rw [sendReturns] at h
  split at h
  · cases h
  · split at h
    · rw [← Option.some.inj h]
      refine Handled.trans ?_ (handled_afterSend ok _)
      exact handled_of_eq rfl rfl rfl rfl
    · cases h

/-- The events that answer a call, accept audio or send it. -/
def Event.isQuiet : Event → Bool
  | .answer _ _ | .sendAudioIn _ | .sendTimer => false
  | _ => true

theorem quiet_step {s t : Telephony} {e : Event} (he : e.isQuiet = true)
    (ht : step s e = some t) : Quiet s t := by
  cases e with
  | connect selfId onCommand onAudioOut =>
      obtain ⟨-, rfl⟩ := whenIdle_eq_some ht
      exact quiet_connect selfId onCommand onAudioOut s
  | dial number =>
      obtain ⟨-, rfl⟩ := whenIdle_eq_some ht
      exact (handled_sendText (fun _ => rfl) s).toQuiet
  | answer fromNumber toNumber => cases he
  | hangUp =>
      obtain ⟨-, rfl⟩ := whenIdle_eq_some ht
      exact quiet_hangUp s
  | textMessage number message =>
      obtain ⟨-, rfl⟩ := whenIdle_eq_some ht
      exact (handled_sendText (fun _ => rfl) s).toQuiet
  | disconnect =>
      obtain ⟨-, rfl⟩ := whenIdle_eq_some ht
      exact quiet_disconnect s
  | sendAudioIn audio => cases he
  | frame k f =>
      obtain rfl := of_step_frame ht
      exact quiet_onListenMessage f s
  | socket k st => exact (handled_socketChanges ht).toQuiet
  | notify k => exact (handled_notify ht).toQuiet
  | sendNotifies st => exact (handled_sendNotifies ht).toQuiet
  | sendReturns ok st => exact (handled_sendReturns ht).toQuiet
  | reconnectTimer =>
      obtain ⟨-, rfl⟩ := of_step_reconnectTimer ht
      refine Quiet.trans ?_ (handled_onReconnect _).toQuiet
      exact quiet_of_eq rfl rfl
  | sendTimer => cases he

end Telephony

end SelfPlugins.Nexmo
