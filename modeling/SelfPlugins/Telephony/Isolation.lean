import SelfPlugins.Telephony.Frame
import SelfPlugins.Telephony.Framing

/-!
# Telephony: a call is isolated from the calls before it

Each byte carries the number of the call it was accepted in, so that a frame
tells which calls its audio comes from.  `HangUp`, a received `hang_up` and
`Disconnect` all end the call without clearing `m_Outgoing`, and `Answer` does
not clear it either: the next call sends what the last one has left.  Calls
that find the queue empty when they are answered are isolated
(`isolated_of_emptied`).
-/

namespace SelfPlugins.Nexmo

open Runs

/-- A frame contains audio of the present call only. -/
def OwnAudio (past : List Entry) (e : Entry) : Prop :=
  ∀ k f, e = .binary k f → ∀ x ∈ f.data, x.call = calls past

theorem ownAudio_quiet {past : List Entry} {e : Entry}
    (h : e.isQuiet = true) : OwnAudio past e := by
  rintro k f rfl
  cases h

namespace Telephony

/-- A call that is answered finds no byte in the queue. -/
def Emptied (s : Telephony) : Event → Prop
  | .answer _ _ => s.connection.isSome → s.outgoing.flatten = []
  | _ => True

/-- What waits and what has been sent is audio of the call it was accepted
for. -/
structure Own (s : Telephony) : Prop where
  waiting : ∀ x ∈ s.outgoing.flatten, x.call = calls s.log
  sent : EachInput OwnAudio [] s.log

theorem own_new (settings : Settings) : Own (new settings) where
  waiting _ h := absurd h List.not_mem_nil
  sent := trivial

theorem Own.quiet {s t : Telephony} (h : Own s) (hst : Quiet s t) : Own t where
  waiting := by
    obtain ⟨es, hes, hquiet⟩ := hst.log
    rw [hst.outgoing, hes, calls_append s.log hquiet]
    exact h.waiting
  sent := hst.eachInput (fun _ _ => ownAudio_quiet) h.sent

theorem Own.answer {s : Telephony} (h : Own s) {fromNumber toNumber : String}
    (hemptied : Emptied s (.answer fromNumber toNumber)) :
    Own (answer fromNumber toNumber s) := by
  obtain heq | ⟨k, hk, heq⟩ := answer_cases fromNumber toNumber s
  · exact heq.symm ▸ h
  · have hempty : s.outgoing.flatten = [] := hemptied (by rw [hk]; rfl)
    let u : Telephony := { s with
      inCall := true
      log := s.log ++ [.text k (.answer toNumber fromNumber)] }
    have hown : Own u := by
      constructor
      · change ∀ x ∈ s.outgoing.flatten, _
        rw [hempty]
        exact fun x hx => absurd hx List.not_mem_nil
      · rw [eachInput_concat]
        exact ⟨h.sent, fun _ _ h => by cases h⟩
    rw [heq, startSendTimer]
    split
    · exact hown
    · exact { hown with }

theorem Own.sendAudioIn {s : Telephony} (h : Own s) (audio : List UInt8) :
    Own (sendAudioIn audio s) := by
  rw [Telephony.sendAudioIn]
  split
  · refine ⟨?_, h.sent⟩
    intro x hx
    rw [List.flatten_append, List.mem_append, List.flatten_singleton] at hx
    rcases hx with hx | hx
    · exact h.waiting x hx
    · obtain ⟨b, -, rfl⟩ := List.mem_map.mp hx
      rfl
  · exact h

/-- The frame and the queue after a tick are made of the queue before it. -/
theorem Own.onSendAudioData {s : Telephony} (h : Own s) :
    Own (onSendAudioData s) := by
  rw [Telephony.onSendAudioData]
  split
  · rename_i k hk
    split
    · obtain ⟨htake, hdrop⟩ :=
        fillFrame_eq (n := s.nSendBytes) [] s.outgoing
      rw [List.nil_append] at htake
      constructor
      · intro x hx
        rw [hdrop] at hx
        have hcall := h.waiting x (List.mem_of_mem_drop hx)
        rw [hcall, calls, calls, List.countP_append]
        rfl
      · rw [eachInput_concat]
        refine ⟨h.sent, ?_⟩
        rintro j f hentry x hx
        cases hentry
        rw [htake] at hx
        exact h.waiting x (List.mem_of_mem_take hx)
    · exact { h with }
  · exact { h with }

theorem Own.step {s t : Telephony} {e : Event} (h : Own s)
    (hemptied : Emptied s e) (ht : step s e = some t) : Own t := by
  by_cases hquiet : e.isQuiet = true
  · exact h.quiet (quiet_step hquiet ht)
  · cases e with
    | answer fromNumber toNumber =>
        obtain ⟨-, rfl⟩ := whenIdle_eq_some ht
        exact h.answer hemptied
    | sendAudioIn audio =>
        obtain ⟨-, rfl⟩ := whenIdle_eq_some ht
        exact h.sendAudioIn audio
    | sendTimer =>
        obtain rfl := of_step_sendTimer ht
        exact h.onSendAudioData
    | _ => exact absurd rfl hquiet

/-- As long as the calls that are answered find the queue empty, the audio of a
call has been accepted in the same call. -/
theorem isolated_of_emptied (settings : Settings) (es : List Event)
    (hemptied : EachStep step Emptied (new settings) es) :
    Throughout step (fun s => EachInput OwnAudio [] s.log) (new settings)
      es := by
  apply Throughout.mono fun _ h => Own.sent h
  apply throughout_of_eachStep (fun _ _ _ h hc ht => h.step hc ht)
  · exact own_new settings
  · exact hemptied

theorem isolated_of_emptied_call :
    Throughout step (fun s => EachInput OwnAudio [] s.log) (new account)
      [.connect "self" true true, .sendReturns true .connected,
        .answer "1" "2", .sendAudioIn [1, 2], .hangUp] := by
  apply isolated_of_emptied
  intro s₁ h₁
  obtain rfl := Option.some.inj h₁
  refine ⟨trivial, fun s₂ h₂ => ?_⟩
  obtain rfl := Option.some.inj h₂
  refine ⟨trivial, fun s₃ h₃ => ⟨fun _ => rfl, ?_⟩⟩
  obtain rfl := Option.some.inj h₃
  intro s₄ h₄
  obtain rfl := Option.some.inj h₄
  exact ⟨trivial, fun _ _ => ⟨trivial, trivial⟩⟩

/-- A call ends while audio waits, and another one is answered. -/
def endedWhileWaiting : List Event :=
  [.connect "self" true true, .sendReturns true .connected, .answer "1" "2",
    .sendAudioIn [7], .hangUp, .answer "3" "4"]

/-- The second call sends the audio of the first. -/
theorem not_isolated_after_hangUp :
    ¬Throughout step (fun s => EachInput OwnAudio [] s.log) (new account)
      (endedWhileWaiting ++ [.sendTimer]) := by
  intro h
  have hstate : (run step (new account) endedWhileWaiting).map (fun s =>
      (s.connection, s.inCall, s.sendTimer, s.nSendBytes, s.sends,
        s.outgoing, calls s.log)) =
      some (some 0, true, true, 640, [], [[⟨7, 1⟩]], 2) := rfl
  obtain ⟨t, hrun, ht⟩ := Option.map_eq_some_iff.mp hstate
  simp only [Prod.mk.injEq] at ht
  obtain ⟨hconnection, hcall, htimer, hbytes, hsends, houtgoing, hcalls⟩ := ht
  have hcalling : Calling 0 640 t :=
    ⟨hconnection, hcall, htimer, hbytes, hsends⟩
  obtain ⟨f, u, hu, hticked⟩ := hcalling.tick_of_throughout h hrun
  have hdata : f.data = [⟨7, 1⟩] := by
    rw [hticked.taken, houtgoing, hbytes]
    rfl
  rw [hticked.log, eachInput_concat] at hu
  have hown : (⟨7, 1⟩ : Sample).call = calls t.log :=
    hu.2 0 f rfl _ (hdata ▸ List.mem_cons_self)
  rw [hcalls] at hown
  exact absurd hown (by decide)

end Telephony

end SelfPlugins.Nexmo
