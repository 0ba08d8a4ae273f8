import SelfPlugins.Library.Runs
import SelfPlugins.SpeechToText.Reconnect
import SelfPlugins.SpeechToText.Retry
import SelfPlugins.Telephony.Framing
import SelfPlugins.Telephony.Retry

/-!
# Reconnecting after the expiry of a timer

`SpeechToText::Connection` and `Telephony` reconnect in the same way, and clear
the guard of `OnReconnect` just before they call `Send()`.  A loss inside of
`Send()` arms the timer, but then its failure finds the guard set and calls
`Send()` at once: a server that stays away for both is called without end.
-/

namespace SelfPlugins.Retry

open Runs Stt Nexmo

theorem inv_of_reaches {settings : Stt.Settings} {s : SpeechToText}
    (h : Reaches SpeechToText.step (SpeechToText.new settings) s) :
    SpeechToText.Inv False s := by
  apply invariant_of_reaches _ (SpeechToText.inv_new settings) h
  intro s e t h ht
  exact SpeechToText.inv_step h False.elim ht

/-- In every reachable state of both services, the recursion that the expiry of
a reconnect timer starts ends, with a successful `Send()` or an armed timer, if
and only if the socket is down, so that `Send()` is called, and the behaviour of
`Send()` subsides. -/
theorem reconnection_ends_iff (b : Behaviour) :
    (∀ settings c s t,
        Reaches SpeechToText.step (SpeechToText.new settings) s →
        SpeechToText.step s (.reconnectTimer c) = some t →
        (Ends SpeechToText.sending b (SpeechToText.Armed c) t ↔
          (s.listenState c).isDown = true ∧ Subsides b)) ∧
      ∀ settings s t,
        Reaches Telephony.step (Telephony.new settings) s →
        Telephony.step s .reconnectTimer = some t →
        (Ends Telephony.sending b Telephony.Armed t ↔
          (∃ k, s.connection = some k ∧ (s.sockets k).state.isDown = true) ∧
            Subsides b) := by
  constructor
  · intro settings c s t hreach ht
    exact (inv_of_reaches hreach).ends_reconnectTimer b ht
  · intro settings s t _ ht
    exact Telephony.ends_reconnectTimer b ht

/-- The server is back: each call of `Send()` succeeds. -/
def back : Behaviour where
  outcome _ := ⟨[], true, .connected⟩
  lawful _ := ⟨nofun, fun _ => rfl, nofun⟩

theorem reconnection_ends_back :
    ∃ s t, run Telephony.step (Telephony.new Telephony.account)
        [.connect "self" true true, .sendReturns false .disconnected] =
        some s ∧
      Telephony.step s .reconnectTimer = some t ∧
      Ends Telephony.sending back Telephony.Armed t := by
  have hstate : (run Telephony.step (Telephony.new Telephony.account)
      [.connect "self" true true, .sendReturns false .disconnected]).map
      (fun s => ((Telephony.step s .reconnectTimer).isSome, s.connection,
        (s.sockets 0).state.isDown)) = some (true, some 0, true) := rfl
  obtain ⟨s, hrun, hs⟩ := Option.map_eq_some_iff.mp hstate
  simp only [Prod.mk.injEq] at hs
  obtain ⟨hexpires, hconnection, hdown⟩ := hs
  obtain ⟨t, ht⟩ := Option.isSome_iff_exists.mp hexpires
  refine ⟨s, t, hrun, ht, ?_⟩
  apply ((reconnection_ends_iff back).2 _ s t ⟨_, hrun⟩ ht).mpr
  exact ⟨⟨0, hconnection, hdown⟩, 1, Nat.le_refl 1, by decide⟩

/-- The server is away: each call of `Send()` reports that the connection is
lost, and fails. -/
def away : Behaviour where
  outcome _ := ⟨[.disconnected], false, .disconnected⟩
  lawful _ := ⟨by decide, nofun, fun _ => rfl⟩

theorem not_subsides_away : ¬Subsides away := by
  have hload : ∀ k, load away k = 2 * k := by
    intro k
    induction k with
    | zero => rfl
    | succ k ih =>
        rw [load, ih]
        rfl
  rintro ⟨k, -, hk⟩
  rw [hload] at hk
  exact Nat.lt_irrefl _ hk

/-- While the server is away, the first expiry of a reconnect timer calls
`Send()` without end, in both services. -/
theorem not_ends_away :
    (∃ s t, run SpeechToText.step (SpeechToText.new SpeechToText.oneModel)
          [.startListening (some 0), .sendReturns false .disconnected] =
          some s ∧
        SpeechToText.step s (.reconnectTimer 0) = some t ∧
        ¬Ends SpeechToText.sending away (SpeechToText.Armed 0) t) ∧
      ∃ s t, run Telephony.step (Telephony.new Telephony.account)
          [.connect "self" true true, .sendReturns false .disconnected] =
          some s ∧
        Telephony.step s .reconnectTimer = some t ∧
        ¬Ends Telephony.sending away Telephony.Armed t := by
  constructor
  · have hstate : (run SpeechToText.step
        (SpeechToText.new SpeechToText.oneModel)
        [.startListening (some 0), .sendReturns false .disconnected]).map
        (fun s => (SpeechToText.step s (.reconnectTimer 0)).isSome) =
        some true := rfl
    obtain ⟨s, hrun, hexpires⟩ := Option.map_eq_some_iff.mp hstate
    obtain ⟨t, ht⟩ := Option.isSome_iff_exists.mp hexpires
    refine ⟨s, t, hrun, ht, ?_⟩
    rw [(inv_of_reaches ⟨_, hrun⟩).ends_reconnectTimer away ht]
    exact fun h => not_subsides_away h.2
  · have hstate : (run Telephony.step (Telephony.new Telephony.account)
        [.connect "self" true true, .sendReturns false .disconnected]).map
        (fun s => (Telephony.step s .reconnectTimer).isSome) =
        some true := rfl
    obtain ⟨s, hrun, hexpires⟩ := Option.map_eq_some_iff.mp hstate
    obtain ⟨t, ht⟩ := Option.isSome_iff_exists.mp hexpires
    refine ⟨s, t, hrun, ht, ?_⟩
    rw [Telephony.ends_reconnectTimer away ht]
    exact fun h => not_subsides_away h.2

end SelfPlugins.Retry
