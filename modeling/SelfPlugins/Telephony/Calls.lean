import SelfPlugins.Telephony.Frame
import SelfPlugins.Telephony.Framing

/-!
# Telephony: a call is bound to its connection

An incarnation of a socket lasts from a call of `Send()` to the notification
that the connection is closed or lost.  A call is answered on an incarnation,
and audio should go over that incarnation only, until one side hangs up.

`OnListenState` clears `m_bConnected` when a connection is lost, but leaves
`m_bInCall` set, and neither `OnReconnect` nor `Answer` looks at both.  As long
as no connection is lost or replaced during a call, and no call is answered on
an incarnation that has ended, audio is bound to the call
(`bound_of_careful`).
-/

namespace SelfPlugins.Nexmo

open Runs

/-- What has become of an incarnation of a socket. -/
inductive Incarnation where
  | ended
  | begun
  | answered
deriving DecidableEq

/-- One side hangs up. -/
def Incarnation.released : Incarnation → Incarnation
  | .answered => .begun
  | i => i

/-- The latest incarnation of the socket `k` after an entry. -/
def Incarnation.after (k : SocketId) (i : Incarnation) : Entry → Incarnation
  | .send j => if j = k then .begun else i
  | .lost j => if j = k then .ended else i
  | .disconnect j => if j = k then .ended else i
  | .text j (.answer _ _) => if j = k ∧ i ≠ .ended then .answered else i
  | .text j .hangUp => if j = k then i.released else i
  | .hungUp => i.released
  | _ => i

/-- The latest incarnation of the socket `k`. -/
def incarnation (k : SocketId) (log : List Entry) : Incarnation :=
  log.foldl (Incarnation.after k) .ended

/-- Audio is sent on an answered incarnation. -/
def InCall (past : List Entry) (e : Entry) : Prop :=
  ∀ k f, e = .binary k f → incarnation k past = .answered

theorem incarnation_concat (k : SocketId) (log : List Entry) (e : Entry) :
    incarnation k (log ++ [e]) = (incarnation k log).after k e := by
  rw [incarnation, List.foldl_append]
  rfl

theorem inCall_quiet {past : List Entry} {e : Entry}
    (h : e.isQuiet = true) : InCall past e := by
  rintro k f rfl
  cases h

namespace Telephony

/-- No connection is lost or replaced during a call, and a call is answered on
an incarnation that has not ended. -/
def Careful (s : Telephony) : Event → Prop
  | .notify k => s.inCall = true → s.connection = some k →
      (s.sockets k).state.isDown = false
  | .reconnectTimer => s.inCall = true → ∀ k, s.connection = some k →
      (s.sockets k).state.isDown = false
  | .answer _ _ => ∀ k, s.connection = some k → incarnation k s.log ≠ .ended
  | _ => True

/-- The call is one of the current incarnation, and is not active inside of
`Send()`. -/
structure Bound (s : Telephony) : Prop where
  answered : s.inCall = true →
    ∃ k, s.connection = some k ∧ incarnation k s.log = .answered
  idle : s.inCall = true → s.sends = []
  audio : EachInput InCall [] s.log

theorem bound_new (settings : Settings) : Bound (new settings) where
  answered h := by cases h
  idle h := by cases h
  audio := trivial

theorem Bound.audio_quiet {s t : Telephony} (h : Bound s) (hst : Quiet s t) :
    EachInput InCall [] t.log :=
  hst.eachInput (fun _ _ => inCall_quiet) h.audio

/-- A step after which there is no call. -/
theorem Bound.over {s t : Telephony} (h : Bound s) (hst : Quiet s t)
    (hover : t.inCall = false) : Bound t where
  answered hcall := by
    rw [hover] at hcall
    cases hcall
  idle hcall := by
    rw [hover] at hcall
    cases hcall
  audio := h.audio_quiet hst

/-- A step during which a call, if there is one, stays bound. -/
theorem Bound.handled {s t : Telephony} (h : Bound s) (hst : Handled s t)
    (hkept : s.inCall = true → t.sends = s.sends ∧
      ∀ k, s.connection = some k →
        incarnation k t.log = incarnation k s.log) : Bound t := by
  by_cases hcall : s.inCall = true
  · obtain ⟨hsends, hsame⟩ := hkept hcall
    obtain ⟨k, hk, hanswered⟩ := h.answered hcall
    exact {
      answered := fun _ =>
        ⟨k, hst.connection.trans hk, (hsame k hk).trans hanswered⟩
      idle := fun _ => hsends.trans (h.idle hcall)
      audio := h.audio_quiet hst.toQuiet }
  · apply h.over hst.toQuiet
    rw [hst.inCall]
    exact Bool.eq_false_iff.mpr hcall

/-! ## The steps -/

/-- A message that is neither an answer nor a `hang_up` leaves the incarnations
as they are. -/
theorem Bound.sendText {s : Telephony} (h : Bound s) {m : Message}
    (hm : ∀ k i, Incarnation.after k i (.text k m) = i)
    (hquiet : ∀ k, (Entry.text k m).isQuiet = true) :
    Bound (sendText m s) := by
  apply h.handled (handled_sendText hquiet s)
  intro _
  rw [Telephony.sendText]
  split
  · exact ⟨rfl, fun _ _ => rfl⟩
  · rename_i k hk
    refine ⟨rfl, fun j hj => ?_⟩
    obtain rfl : k = j := Option.some.inj (hk.symm.trans hj)
    exact (incarnation_concat k s.log _).trans (hm k _)

theorem Bound.connect {s : Telephony} (h : Bound s) (selfId : String)
    (onCommand onAudioOut : Bool) :
    Bound (connect selfId onCommand onAudioOut s) := by
  rw [Telephony.connect]
  split
  · exact h
  · rename_i hnone
    split
    · exact h
    · apply h.over
      · exact quiet_entry (e := .send _) rfl rfl rfl
      · by_contra hcall
        obtain ⟨k, hk, -⟩ := h.answered (Bool.not_eq_false _ ▸ hcall)
        rw [hnone] at hk
        cases hk

theorem Bound.answer {s : Telephony} (h : Bound s) (hidle : s.sends = [])
    {fromNumber toNumber : String}
    (hcareful : Careful s (.answer fromNumber toNumber)) :
    Bound (answer fromNumber toNumber s) := by
  obtain heq | ⟨k, hk, heq⟩ := answer_cases fromNumber toNumber s
  · exact heq.symm ▸ h
  · let u : Telephony := { s with
      inCall := true
      log := s.log ++ [.text k (.answer toNumber fromNumber)] }
    have hanswered : incarnation k u.log = .answered := by
      rw [incarnation_concat]
      exact if_pos ⟨rfl, hcareful k hk⟩
    have haudio : EachInput InCall [] u.log := by
      rw [eachInput_concat]
      exact ⟨h.audio, fun _ _ h => by cases h⟩
    have hbound : Bound u := ⟨fun _ => ⟨k, hk, hanswered⟩, fun _ => hidle, haudio⟩
    rw [heq, startSendTimer]
    split
    · exact hbound
    · exact { hbound with }

theorem Bound.onSendAudioData {s : Telephony} (h : Bound s) :
    Bound (onSendAudioData s) := by
  rw [Telephony.onSendAudioData]
  split
  · rename_i k hk
    split
    · rename_i hcall
      obtain ⟨j, hj, hanswered⟩ := h.answered hcall
      obtain rfl : k = j := Option.some.inj (hk.symm.trans hj)
      refine ⟨fun _ => ⟨k, hj, ?_⟩, h.idle, ?_⟩
      · exact (incarnation_concat k s.log _).trans hanswered
      · rw [eachInput_concat]
        refine ⟨h.audio, ?_⟩
        rintro l f hentry
        cases hentry
        exact hanswered
    · exact { h with }
  · exact { h with }

theorem Bound.notify {s t : Telephony} {k : SocketId} (h : Bound s)
    (hcareful : Careful s (.notify k)) (ht : notify k s = some t) :
    Bound t := by
  apply h.handled (handled_notify ht)
  intro hcall
  rw [Telephony.notify] at ht
  split at ht
  · let u : Telephony :=
      modifySocket k (fun x => { x with queued := x.queued - 1 }) s
    have hstate : (u.sockets k).state = (s.sockets k).state := by
      simp [u, modifySocket]
    obtain rfl : receiveState k u = t := Option.some.inj ht
    rw [receiveState, hstate]
    by_cases hk : s.connection = some k
    · have hup : ¬(s.sockets k).state.isDown = true :=
        Bool.eq_false_iff.mp (hcareful hcall hk)
      have hk' : u.connection = some k := hk
      rw [if_neg hup, onListenState, if_pos hk', hstate, if_neg hup]
      split
      · exact ⟨rfl, fun _ _ => rfl⟩
      · exact ⟨rfl, fun _ _ => rfl⟩
    · have haway (v : Telephony) (hv : v.connection = s.connection) :
          onListenState k v = v :=
        if_neg (hv ▸ hk)
      rw [haway _ (by split <;> rfl)]
      split
      · refine ⟨rfl, fun j hj => ?_⟩
        have hne : k ≠ j := by
          rintro rfl
          exact hk hj
        exact (incarnation_concat j s.log _).trans (if_neg hne)
      · exact ⟨rfl, fun _ _ => rfl⟩
  · cases ht

theorem Bound.reconnectTimer {s t : Telephony} (h : Bound s)
    (hcareful : Careful s .reconnectTimer)
    (ht : step s .reconnectTimer = some t) : Bound t := by
  obtain ⟨-, rfl⟩ := of_step_reconnectTimer ht
  let u : Telephony := { s with reconnectTimer := .fired }
  have hu : Bound u := { h with }
  apply hu.handled (handled_onReconnect u)
  intro hcall
  obtain ⟨k, hk, -⟩ := h.answered hcall
  have hk' : u.connection = some k := hk
  have hup : ¬(u.sockets k).state.isDown = true :=
    Bool.eq_false_iff.mp (hcareful hcall k hk)
  rw [onReconnect, hk']
  simp only [if_neg hup]
  exact ⟨rfl, fun _ _ => rfl⟩

theorem Bound.step {s t : Telephony} {e : Event} (h : Bound s)
    (hcareful : Careful s e) (ht : step s e = some t) : Bound t := by
  cases e with
  | connect selfId onCommand onAudioOut =>
      obtain ⟨-, rfl⟩ := whenIdle_eq_some ht
      exact h.connect selfId onCommand onAudioOut
  | dial number =>
      obtain ⟨-, rfl⟩ := whenIdle_eq_some ht
      exact h.sendText (fun _ _ => rfl) fun _ => rfl
  | answer fromNumber toNumber =>
      obtain ⟨hidle, rfl⟩ := whenIdle_eq_some ht
      exact h.answer hidle hcareful
  | hangUp =>
      have hquiet := quiet_step rfl ht
      obtain ⟨-, rfl⟩ := whenIdle_eq_some ht
      rw [hangUp] at hquiet ⊢
      split
      · exact h
      · rename_i k hk
        rw [hk] at hquiet
        exact h.over hquiet rfl
  | textMessage number message =>
      obtain ⟨-, rfl⟩ := whenIdle_eq_some ht
      exact h.sendText (fun _ _ => rfl) fun _ => rfl
  | disconnect =>
      have hquiet := quiet_step rfl ht
      obtain ⟨-, rfl⟩ := whenIdle_eq_some ht
      rw [disconnect] at hquiet ⊢
      split
      · exact h
      · rename_i k hk
        rw [hk] at hquiet
        exact h.over hquiet rfl
  | sendAudioIn audio =>
      obtain ⟨-, rfl⟩ := whenIdle_eq_some ht
      rw [sendAudioIn]
      split
      · exact { h with }
      · exact h
  | frame k f =>
      obtain rfl := of_step_frame ht
      have hquiet := quiet_onListenMessage f s
      obtain ⟨u, hu, hlog, hsends, heq | heq⟩ := onListenMessage_cases f s
      · rw [heq]
        apply h.handled hu
        intro _
        exact ⟨hsends, fun _ _ => by rw [hlog]⟩
      · rw [heq] at hquiet ⊢
        exact h.over hquiet rfl
  | socket k st =>
      apply h.handled (handled_socketChanges ht)
      intro _
      simp only [Telephony.step, socketChanges] at ht
      split at ht
      · cases ht
        exact ⟨rfl, fun _ _ => rfl⟩
      · cases ht
  | notify k => exact h.notify hcareful ht
  | sendNotifies st =>
      apply h.handled (handled_sendNotifies ht)
      intro hcall
      simp only [Telephony.step, sendNotifies, h.idle hcall] at ht
      cases ht
  | sendReturns ok st =>
      apply h.handled (handled_sendReturns ht)
      intro hcall
      simp only [Telephony.step, sendReturns, h.idle hcall] at ht
      cases ht
  | reconnectTimer => exact h.reconnectTimer hcareful ht
  | sendTimer =>
      obtain rfl := of_step_sendTimer ht
      exact h.onSendAudioData

/-- As long as no connection is lost or replaced during a call, and calls are
answered on incarnations that have not ended, audio is sent only on answered
incarnations. -/
theorem bound_of_careful (settings : Settings) (es : List Event)
    (hcareful : EachStep step Careful (new settings) es) :
    Throughout step (fun s => EachInput InCall [] s.log) (new settings) es := by
  apply Throughout.mono fun _ h => Bound.audio h
  apply throughout_of_eachStep (fun _ _ _ h hc ht => h.step hc ht)
  · exact bound_new settings
  · exact hcareful

theorem bound_of_careful_call :
    Throughout step (fun s => EachInput InCall [] s.log) (new account)
      [.connect "self" true true, .sendReturns true .connected,
        .answer "1" "2", .sendAudioIn [1, 2], .hangUp] := by
  apply bound_of_careful
  intro s₁ h₁
  obtain rfl := Option.some.inj h₁
  refine ⟨trivial, fun s₂ h₂ => ?_⟩
  obtain rfl := Option.some.inj h₂
  refine ⟨trivial, fun s₃ h₃ => ⟨?_, ?_⟩⟩
  · intro k hk
    obtain rfl := Option.some.inj hk
    decide
  · obtain rfl := Option.some.inj h₃
    intro s₄ h₄
    obtain rfl := Option.some.inj h₄
    exact ⟨trivial, fun _ _ => ⟨trivial, trivial⟩⟩

/-- A connection is lost during a call, and established anew. -/
def lostDuringCall : List Event :=
  [.connect "self" true true, .sendReturns true .connected, .answer "1" "2",
    .socket 0 .disconnected, .notify 0, .reconnectTimer,
    .sendReturns true .connected]

/-- The next frame of audio goes over a connection without a call. -/
theorem not_bound_after_loss :
    ¬Throughout step (fun s => EachInput InCall [] s.log) (new account)
      (lostDuringCall ++ [.sendTimer]) := by
  intro h
  have hstate : (run step (new account) lostDuringCall).map (fun s =>
      (s.connection, s.inCall, s.sendTimer, s.nSendBytes, s.sends,
        incarnation 0 s.log)) =
      some (some 0, true, true, 640, [], .begun) := rfl
  obtain ⟨t, hrun, ht⟩ := Option.map_eq_some_iff.mp hstate
  simp only [Prod.mk.injEq] at ht
  obtain ⟨hconnection, hcall, htimer, hbytes, hsends, hbegun⟩ := ht
  have hcalling : Calling 0 640 t :=
    ⟨hconnection, hcall, htimer, hbytes, hsends⟩
  obtain ⟨f, u, hu, hticked⟩ := hcalling.tick_of_throughout h hrun
  rw [hticked.log, eachInput_concat] at hu
  have hanswered : incarnation 0 t.log = .answered := hu.2 0 f rfl
  rw [hbegun] at hanswered
  cases hanswered

end Telephony

end SelfPlugins.Nexmo
