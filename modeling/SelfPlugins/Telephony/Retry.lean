import SelfPlugins.Framework.Retry
import SelfPlugins.Telephony.Frame

/-!
# Telephony: the recursion of `OnReconnect`

`OnReconnect`, `Send()` and `OnListenState` call each other.  Seen from the
reconnect timer, they form a machine that answers losses in turn: a loss arms
the timer if its handle is empty, and otherwise resets it and calls `Send()`.
-/

namespace SelfPlugins.Nexmo

open Retry

namespace Telephony

/-- What happens inside of `Send()`. -/
def sending : Machine Telephony where
  notifies st s := step s (.sendNotifies st)
  returns ok st s := step s (.sendReturns ok st)
  calls s := s.sends.length

/-- The reconnect timer is armed. -/
def Armed (s : Telephony) : Prop := s.reconnectTimer = .armed

/-- There are `n` calls of `Send()` in progress, all for the connection `k`;
the handle of the reconnect timer is empty or not. -/
structure Retrying (k : SocketId) (a : Bool) (n : ℕ) (s : Telephony) :
    Prop where
  connection : s.connection = some k
  sends : s.sends = List.replicate n k
  timer : s.reconnectTimer = .reset ↔ a = false

/-- A loss is handled. -/
theorem Retrying.onReconnect {k : SocketId} {a : Bool} {n : ℕ} {s : Telephony}
    (h : Retrying k a n s) (hdown : (s.sockets k).state.isDown = true) :
    Retrying k (!a) (n + a.toNat) (onReconnect s) ∧
      ((!a) = true → Armed (onReconnect s)) := by
  cases a with
  | false =>
      have harm : Telephony.onReconnect s =
          { s with reconnectTimer := .armed, connected := false } := by
        simp only [Telephony.onReconnect, h.connection, if_pos (h.timer.mpr rfl)]
      rw [harm]
      exact ⟨⟨h.connection, h.sends, by simp⟩, fun _ => rfl⟩
  | true =>
      have hheld : ¬s.reconnectTimer = .reset := by
        rw [h.timer]
        exact Bool.false_ne_true ∘ Eq.symm
      have hsend : Telephony.onReconnect s =
          beginSend k { s with reconnectTimer := .reset } := by
        simp only [Telephony.onReconnect, h.connection, if_neg hheld,
          if_pos hdown]
      rw [hsend]
      refine ⟨⟨h.connection, ?_, by simp [beginSend]⟩,
        fun h => absurd h Bool.false_ne_true⟩
      exact congrArg (k :: ·) h.sends

/-- `Send()` reports a loss. -/
theorem Retrying.sendNotifies {k : SocketId} {a : Bool} {n : ℕ} {s : Telephony}
    (h : Retrying k a (n + 1) s) {st : ClientState} (hdown : st.isDown = true) :
    ∃ t, step s (.sendNotifies st) = some t ∧
      Retrying k (!a) (n + 1 + a.toNat) t ∧ ((!a) = true → Armed t) := by
  let u : Telephony := modifySocket k (fun x => { x with state := st }) s
  have hstate : (u.sockets k).state = st := by
    simp [u, modifySocket]
  have hnotified : step s (.sendNotifies st) = some (receiveState k u) := by
    simp only [step, Telephony.sendNotifies, h.sends, List.replicate_succ]
    rfl
  let v : Telephony := { u with log := u.log ++ [.lost k], connected := false }
  have hlost : receiveState k u = Telephony.onReconnect v := by
    have hconnection : u.connection = some k := h.connection
    simp only [receiveState, hstate, if_pos hdown, onListenState,
      if_pos hconnection]
    rfl
  have hv : Retrying k a (n + 1) v := { h with }
  refine ⟨_, hnotified, ?_⟩
  rw [hlost]
  exact hv.onReconnect (hstate ▸ hdown)

/-- `Send()` fails. -/
theorem Retrying.sendFails {k : SocketId} {a : Bool} {n : ℕ} {s : Telephony}
    (h : Retrying k a (n + 1) s) {st : ClientState} (hdown : st.isDown = true) :
    ∃ t, step s (.sendReturns false st) = some t ∧
      Retrying k (!a) (n + a.toNat) t ∧ ((!a) = true → Armed t) := by
  let u : Telephony :=
    modifySocket k (fun x => { x with state := st })
      { s with sends := List.replicate n k }
  have hstate : (u.sockets k).state = st := by
    simp [u, modifySocket]
  have hreturned : step s (.sendReturns false st) =
      some (Telephony.onReconnect u) := by
    simp only [step, sendReturns, h.sends, List.replicate_succ]
    exact if_pos hdown
  have hu : Retrying k a n u := ⟨h.connection, rfl, h.timer⟩
  exact ⟨_, hreturned, hu.onReconnect (hstate ▸ hdown)⟩

/-- `Send()` succeeds, and leaves the timer as it is. -/
theorem Retrying.sendSucceeds {k : SocketId} {a : Bool} {n : ℕ} {s : Telephony}
    (h : Retrying k a (n + 1) s) {st : ClientState} (hopen : st.isOpen = true) :
    ∃ t, step s (.sendReturns true st) = some t ∧ Retrying k a n t ∧
      (Armed s → Armed t) := by
  let u : Telephony :=
    modifySocket k (fun x => { x with state := st })
      { s with sends := List.replicate n k }
  have hreturned : step s (.sendReturns true st) = some (afterSend true u) := by
    simp only [step, sendReturns, h.sends, List.replicate_succ]
    exact if_pos hopen
  have hconnection : u.connection = some k := h.connection
  refine ⟨_, hreturned, ?_⟩
  simp only [afterSend, if_pos, sendText, hconnection]
  exact ⟨⟨rfl, rfl, h.timer⟩, id⟩

theorem toggles_sending (k : SocketId) : Toggles sending
    (fun a n s => Retrying k a n s ∧ (a = true → Armed s)) where
  calls h := (congrArg List.length h.1.sends).trans List.length_replicate
  notifies h hdown := h.1.sendNotifies hdown
  fails h hdown := h.1.sendFails hdown
  succeeds := by
    rintro a n s st ⟨h, harmed⟩ hopen
    obtain ⟨t, ht, hretrying, hkept⟩ := h.sendSucceeds hopen
    exact ⟨t, ht, hretrying, fun ha => hkept (harmed ha)⟩

/-- The reconnect timer expires: the recursion ends as it should if and only if
the socket is down, so that `Send()` is called, and the behaviour subsides. -/
theorem ends_reconnectTimer {s t : Telephony} (b : Behaviour)
    (ht : step s .reconnectTimer = some t) :
    Ends sending b Armed t ↔
      (∃ k, s.connection = some k ∧ (s.sockets k).state.isDown = true) ∧
        Subsides b := by
  let u : Telephony := { s with reconnectTimer := .fired }
  obtain ⟨hidle, rfl⟩ := of_step_reconnectTimer ht
  change Ends sending b Armed (onReconnect u) ↔ _
  by_cases hdown : ∃ k, s.connection = some k ∧
      (s.sockets k).state.isDown = true
  · obtain ⟨k, hk, hstate⟩ := hdown
    have hu : Retrying k true 0 u := ⟨hk, hidle, by simp [u]⟩
    rw [ends_iff (toggles_sending k) (fun _ h => h.2 rfl) (hu.onReconnect hstate)]
    exact ⟨fun h => ⟨⟨k, hk, hstate⟩, h⟩, fun h => h.2⟩
  · -- At most `Close()` is called, and the timer has expired.
    obtain ⟨hsends, htimer⟩ : (onReconnect u).sends = s.sends ∧
        (onReconnect u).reconnectTimer = .fired := by
      rw [onReconnect]
      split
      · exact ⟨rfl, rfl⟩
      · rename_i k hk
        have hup : ¬(u.sockets k).state.isDown = true :=
          fun hstate => hdown ⟨k, hk, hstate⟩
        rw [if_neg (by simp [u]), if_neg hup]
        exact ⟨rfl, rfl⟩
    have hcalls : sending.calls (onReconnect u) = 0 := by
      rw [hidle] at hsends
      exact congrArg List.length hsends
    have hfired : ¬Armed (onReconnect u) := by
      rw [Armed, htimer]
      decide
    exact ⟨fun h => absurd h (not_ends_of_idle hcalls hfired),
      fun h => absurd h.1 hdown⟩

end Telephony

end SelfPlugins.Nexmo
