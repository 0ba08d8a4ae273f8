import SelfPlugins.Library.Runs
import SelfPlugins.SpeechToText.Steps

/-!
# Speech to text: no connection is abandoned

While the service is listening, a connection whose socket is dead has its
reconnect timer armed, or waits for the notification of the loss.
-/

namespace SelfPlugins.Stt

open Runs

namespace SpeechToText

/-- The last `Send()` of the current socket has returned false, or a loss has
been handled since.  A socket that is down counts as dead, too, when no
notification of it waits and no `Send()` is in progress. -/
def Dead (s : SpeechToText) (c : ConnId) : Prop :=
  ∃ k, (s.conn c).listenSocket = some k ∧
    ((s.sockets k).lost = true ∨
      (s.sockets k).state.isDown = true ∧ (s.sockets k).queued = 0 ∧
        ¬Busy s c)

/-- The timer of every connection with a dead socket is armed. -/
def Recovering (s : SpeechToText) : Prop :=
  s.isListening = true → ∀ c ∈ s.connections, Dead s c →
    ∃ socket, (s.conn c).reconnectTimer = .armed socket

theorem Tended.armed_of_dead {p : Prop} {s : SpeechToText} {c : ConnId}
    (h : Tended p s c) (hdead : Dead s c) :
    ∃ socket, (s.conn c).reconnectTimer = .armed socket := by
  obtain ⟨k, hsocket, hdead⟩ := hdead
  have hlost : (s.sockets k).lost = true := by
    rcases hdead with hlost | ⟨hdown, hqueued, hidle⟩
    · exact hlost
    · exact (h.rest hidle).noticed k hsocket hdown hqueued
  exact h.armed.mp (h.lost k hsocket hlost)

theorem mem_alive {s : SpeechToText} {c : ConnId} (hc : c ∈ s.connections) :
    c ∈ s.alive := by
  rw [alive]
  split
  · exact List.mem_append_left _ hc
  · exact hc
  · exact hc

theorem Inv.recovering {p : Prop} {s : SpeechToText} (h : Inv p s) :
    Recovering s :=
  fun _ c hc hdead => (h.tended c (mem_alive hc)).armed_of_dead hdead

/-- In every state of every run, each connection with a dead socket has its
reconnect timer armed. -/
theorem recovering_throughout (settings : Settings) (es : List Event) :
    Throughout step Recovering (new settings) es := by
  have hkept : Throughout step (Inv False) (new settings) es := by
    apply throughout_of_eachStep (C := fun _ _ => True)
    · intro s e t h _ ht
      exact inv_step h False.elim ht
    · exact inv_new settings
    · exact eachStep_true (new settings) es
  exact hkept.mono fun s h => h.recovering

end SpeechToText

end SelfPlugins.Stt
