import Mathlib.Data.Nat.Notation
import Mathlib.Data.List.Basic
import SelfPlugins.Framework.WebClient

/-!
# Supervision of a web client

A platform keeps a link to its robot by a web client, which it replaces by a
new one when its timer ticks.  This module describes the surroundings of such a
platform: clients change their states by themselves, and each change is
reported to the platform later, unless it happens inside of `Send()`.

`Supervised` says what is expected of a platform, whatever its members are: a
dead client is replaced at the next tick, and no other is.
-/

namespace SelfPlugins.Supervision

/-- One call of `Send()`, with the number of notifications that it leaves to be
handled later. -/
structure Sending extends SendOutcome where
  queued : ℕ
deriving DecidableEq

/-- The client is dead after the call: it has failed, or a `CLOSED` or
`DISCONNECTED` notification has been handled inside of it. -/
def Sending.fails (o : Sending) : Bool :=
  !o.ok || o.notified.any ClientState.isDown

/-- What the surroundings see of a platform: whether a timer is armed, which
client is the current one, the states of the clients, which are numbered in the
order of their creation, and the two functions that timer and clients call. -/
structure Supervisor (π : Type) where
  armed : π → Bool
  webClient : π → ℕ
  getState : π → ℕ → ClientState
  setState : ℕ → ClientState → π → π
  connectToRobot : SendOutcome → π → π
  onClientState : ℕ → π → π

/-- What there is to know of a client: how many notifications are yet to be
handled, and whether `Send()` has failed or a `CLOSED` or `DISCONNECTED`
notification has been handled. -/
structure Mark where
  queued : ℕ
  dead : Bool
deriving DecidableEq

def Sending.mark (o : Sending) : Mark := ⟨o.queued, o.fails⟩

/-- A platform and the marks of its clients. -/
structure Link (π : Type) where
  platform : π
  marks : List Mark
deriving DecidableEq

/-- The timer ticks; a client changes its state; a notification of a client is
handled. -/
inductive Event where
  | timer (o : Sending)
  | change (k : ℕ) (st : ClientState)
  | notify (k : ℕ)
deriving DecidableEq

variable {π : Type}

/-- A client that is down stays down.  A notification is handled with the state
the client is in by then. -/
def step (v : Supervisor π) (s : Link π) : Event → Option (Link π)
  | .timer o =>
      if v.armed s.platform then
        let t := v.connectToRobot o.toSendOutcome s.platform
        some ⟨t, if v.webClient t = s.marks.length then s.marks ++ [o.mark]
          else s.marks⟩
      else none
  | .change k st =>
      (s.marks[k]?).bind fun m =>
        if (v.getState s.platform k).isDown → st.isDown then
          some ⟨v.setState k st s.platform,
            s.marks.set k { m with queued := m.queued + 1 }⟩
        else none
  | .notify k =>
      (s.marks[k]?).bind fun m =>
        if m.queued = 0 then none
        else some ⟨v.onClientState k s.platform, s.marks.set k
          ⟨m.queued - 1, m.dead || (v.getState s.platform k).isDown⟩⟩

/-- The mark of the current client. -/
def Link.current (v : Supervisor π) (s : Link π) : Option Mark :=
  s.marks[v.webClient s.platform]?

/-- If the current client is dead and no notification is pending, a timer is
armed whose tick puts a new client in its place.  If it is neither dead nor
closing, no tick does. -/
structure Supervised (v : Supervisor π) (s : Link π) : Prop where
  tended : ∀ m ∈ s.current v, m.dead = true →
    (∀ n ∈ s.marks, n.queued = 0) → v.armed s.platform = true ∧
      ∀ o, v.webClient (v.connectToRobot o s.platform) = s.marks.length
  spared : ∀ m ∈ s.current v, m.dead = false →
    v.getState s.platform (v.webClient s.platform) ≠ .closing →
    v.armed s.platform = true →
    ∀ o, v.webClient (v.connectToRobot o s.platform) = v.webClient s.platform

/-- A notification of a replaced client that is down is handled only when the
current client is dead. -/
def NotStale (v : Supervisor π) (s : Link π) : Event → Prop
  | .timer _ => True
  | .change _ _ => True
  | .notify k => k ≠ v.webClient s.platform →
      (v.getState s.platform k).isDown = true →
      ∀ m ∈ s.current v, m.dead = true

/-! ## Ticks -/

/-- A tick that puts a new client in place of the old one. -/
theorem step_timer_new {v : Supervisor π} {s : Link π} {o : Sending}
    (harmed : v.armed s.platform = true)
    (hnew : v.webClient (v.connectToRobot o.toSendOutcome s.platform) =
      s.marks.length) :
    step v s (.timer o) =
      some ⟨v.connectToRobot o.toSendOutcome s.platform,
        s.marks ++ [o.mark]⟩ := by
  simp only [step, if_pos harmed, if_pos hnew]

/-- A tick that leaves the platform alone. -/
theorem step_timer_same {v : Supervisor π} {s : Link π} {o : Sending}
    (harmed : v.armed s.platform = true)
    (hsame : v.connectToRobot o.toSendOutcome s.platform = s.platform)
    (hold : v.webClient s.platform < s.marks.length) :
    step v s (.timer o) = some s := by
  simp only [step, if_pos harmed, hsame, if_neg (Nat.ne_of_lt hold)]

/-! ## The current client -/

/-- With a new mark of the client `k`, what holds of that mark, if it is of the
current client, and of the current mark before, if it is not, holds of the
current mark. -/
theorem forall_current_set {v : Supervisor π} {s : Link π} {k : ℕ}
    {m m' : Mark} {p : π} {Q : Mark → Prop} (hk : s.marks[k]? = some m)
    (hp : v.webClient p = v.webClient s.platform)
    (hself : k = v.webClient s.platform → m ∈ s.current v → Q m')
    (hother : k ≠ v.webClient s.platform → ∀ n ∈ s.current v, Q n) :
    ∀ n ∈ (⟨p, s.marks.set k m'⟩ : Link π).current v, Q n := by
  intro n hn
  rw [Link.current, hp] at hn
  have hlt : k < s.marks.length := (List.getElem?_eq_some_iff.mp hk).1
  by_cases hcurrent : k = v.webClient s.platform
  · rw [← hcurrent, List.getElem?_set_self hlt, Option.mem_some_iff] at hn
    have hm : m ∈ s.current v := by
      rw [Link.current, ← hcurrent]
      exact hk
    exact hn ▸ hself hcurrent hm
  · rw [List.getElem?_set_ne hcurrent] at hn
    exact hother hcurrent n hn

/-- A new client is the current one. -/
theorem current_append {v : Supervisor π} {marks : List Mark} {m : Mark}
    {p : π} (hp : v.webClient p = marks.length) :
    (⟨p, marks ++ [m]⟩ : Link π).current v = some m := by
  rw [Link.current, hp]
  exact List.getElem?_concat_length

end SelfPlugins.Supervision
