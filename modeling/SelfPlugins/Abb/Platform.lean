import SelfPlugins.Framework.Supervision
import SelfPlugins.Library.Runs

/-!
# The ABB platform

`ABBPlatform` replaces its web client when a timer ticks.  The recurring timer
of the constructor is cancelled by the first connect; from then on a one-shot
timer is armed by a `CLOSED` or `DISCONNECTED` notification, if `m_bActive` is
set.  `ConnectToRobot` sets it at its end, whether `Send()` succeeds or not.
-/

namespace SelfPlugins.Abb

open Runs Supervision

structure Client where
  url : String
  state : ClientState
deriving DecidableEq

/-- The two uses of `StartTimer`. -/
inductive Timer where
  | recurring
  | oneShot
deriving DecidableEq

structure ABBPlatform where
  url : String
  reconnectTimer : Option Timer
  webClient : ℕ
  active : Bool
  /-- All web clients created so far, the replaced ones included. -/
  clients : List Client
deriving DecidableEq

namespace ABBPlatform

/-- What `GetState()` answers; a client is closed until it is used. -/
def getState (s : ABBPlatform) (k : ℕ) : ClientState :=
  (s.clients[k]?.map Client.state).getD .closed

def setState (k : ℕ) (st : ClientState) (s : ABBPlatform) : ABBPlatform :=
  { s with clients := s.clients.modify k fun c => { c with state := st } }

/-- The handler looks at the state of the client only, not at whether it is
the current one. -/
def onClientState (k : ℕ) (s : ABBPlatform) : ABBPlatform :=
  if (s.getState k).isDown then
    if s.active then
      { s with reconnectTimer := some .oneShot, active := false }
    else s
  else s

/-- The client enters a state and reports it. -/
def notify (k : ℕ) (st : ClientState) (s : ABBPlatform) : ABBPlatform :=
  (s.setState k st).onClientState k

/-- `Send()` of the client `k`. -/
def send (k : ℕ) (o : SendOutcome) (s : ABBPlatform) : ABBPlatform :=
  (o.notified.foldl (fun s st => s.notify k st) s).setState k o.after

/-- The timer is reset and `IWebClient::Create` assigned to `m_spWebClient`. -/
def createClient (s : ABBPlatform) : ABBPlatform :=
  { s with
    reconnectTimer := none
    webClient := s.clients.length
    clients := s.clients ++ [⟨s.url, .closed⟩] }

def connectToRobot (o : SendOutcome) (s : ABBPlatform) : ABBPlatform :=
  let s := s.createClient
  let s := s.send s.webClient o
  let s := if o.ok then s else { s with active := false }
  { s with active := true }

/-- The members before the constructor connects, `url` being the address after
its scheme has been rewritten. -/
def blank (url : String) : ABBPlatform where
  url := url
  reconnectTimer := some .recurring
  webClient := 0
  active := false
  clients := []

def supervisor : Supervisor ABBPlatform where
  armed s := s.reconnectTimer.isSome
  webClient := webClient
  getState := getState
  setState := setState
  connectToRobot := connectToRobot
  onClientState := onClientState

/-- The platform before the constructor connects, which it does as if its timer
had ticked. -/
def start (url : String) : Link ABBPlatform := ⟨blank url, []⟩

/-! ## Connecting -/

theorem getState_setState {k : ℕ} {s : ABBPlatform} (hk : k < s.clients.length)
    (l : ℕ) (st : ClientState) :
    (s.setState k st).getState l = if k = l then st else s.getState l := by
  rw [getState, setState]
  simp only [List.getElem?_modify]
  split
  · rename_i hkl
    subst hkl
    simp [List.getElem?_eq_getElem hk]
  · simp [getState]

/-- The platforms differ in the states of their clients only. -/
structure SameLink (s t : ABBPlatform) : Prop where
  reconnectTimer : t.reconnectTimer = s.reconnectTimer
  webClient : t.webClient = s.webClient
  active : t.active = s.active
  length : t.clients.length = s.clients.length

theorem sameLink_setState (k : ℕ) (st : ClientState) (s : ABBPlatform) :
    SameLink s (s.setState k st) :=
  ⟨rfl, rfl, rfl, List.length_modify ..⟩

/-- A notification is ignored while `m_bActive` is not set. -/
theorem onClientState_of_not_active {s : ABBPlatform} (hs : s.active = false)
    (k : ℕ) : s.onClientState k = s := by
  rw [onClientState, hs]
  split <;> rfl

theorem send_of_not_active {s : ABBPlatform} (hs : s.active = false) (k : ℕ)
    (o : SendOutcome) : SameLink s (s.send k o) := by
  have hfold : ∀ (sts : List ClientState) (s : ABBPlatform), s.active = false →
      SameLink s (sts.foldl (fun s st => s.notify k st) s) := by
    intro sts
    induction sts with
    | nil => exact fun s _ => ⟨rfl, rfl, rfl, rfl⟩
    | cons st sts ih =>
        intro s hs
        have hset : s.notify k st = s.setState k st :=
          onClientState_of_not_active (s := s.setState k st) hs k
        have hrest := ih (s.setState k st) hs
        rw [List.foldl_cons, hset]
        exact ⟨hrest.reconnectTimer, hrest.webClient, hrest.active,
          hrest.length.trans (sameLink_setState k st s).length⟩
  have h := hfold o.notified s hs
  exact ⟨h.reconnectTimer, h.webClient, h.active,
    (sameLink_setState k o.after _).length.trans h.length⟩

/-- An inactive platform gets a new client, is active and has no timer,
whatever comes of `Send()`. -/
theorem connectToRobot_spec {s : ABBPlatform} (hs : s.active = false)
    (o : SendOutcome) :
    (s.connectToRobot o).reconnectTimer = none ∧
      (s.connectToRobot o).active = true ∧
      (s.connectToRobot o).webClient = s.clients.length ∧
      (s.connectToRobot o).clients.length = s.clients.length + 1 ∧
      (s.connectToRobot o).getState s.clients.length = o.after := by
  have hlength : s.createClient.clients.length = s.clients.length + 1 := by
    simp [createClient]
  have hsend := send_of_not_active (s := s.createClient) hs s.clients.length o
  have hstate : (s.createClient.send s.clients.length o).getState
      s.clients.length = o.after := by
    have hlt := hsend.length
    rw [send, (sameLink_setState _ _ _).length] at hlt
    rw [send, getState_setState (by omega), if_pos rfl]
  rw [connectToRobot]
  cases o.ok with
  | false =>
      exact ⟨hsend.reconnectTimer, rfl, hsend.webClient,
        hsend.length.trans hlength, hstate⟩
  | true =>
      exact ⟨hsend.reconnectTimer, rfl, hsend.webClient,
        hsend.length.trans hlength, hstate⟩

/-! ## Supervision -/

/-- Stale notifications aside, a `Send()` that kills its client leaves a
notification to be handled, and the client down. -/
def Heeded (s : Link ABBPlatform) (e : Event) : Prop :=
  NotStale supervisor s e ∧ ∀ o, e = .timer o → o.fails = true →
    0 < o.queued ∧ o.after.isDown = true

/-- The timer is armed for a dead client only, and a dead client has it armed or
will have. -/
structure Cared (p : ABBPlatform) (m : Mark) : Prop where
  armed : p.reconnectTimer.isSome = true → m.dead = true
  waiting : m.dead = true → p.reconnectTimer.isSome = true ∨
    0 < m.queued ∧ (p.getState p.webClient).isDown = true

/-- What heeded steps keep. -/
structure Tended (s : Link ABBPlatform) : Prop where
  length : s.marks.length = s.platform.clients.length
  active : s.platform.active = s.platform.reconnectTimer.isNone
  current : ∀ m ∈ s.current supervisor, Cared s.platform m

theorem Tended.not_active {s : Link ABBPlatform} (hs : Tended s)
    (harmed : s.platform.reconnectTimer.isSome = true) :
    s.platform.active = false := by
  rw [hs.active, Option.isNone_eq_false_iff]
  exact harmed

theorem Tended.supervised {s : Link ABBPlatform} (hs : Tended s) :
    Supervised supervisor s where
  tended := by
    intro m hm hdead hnone
    rcases (hs.current m hm).waiting hdead with harmed | ⟨hqueued, -⟩
    · refine ⟨harmed, fun o => ?_⟩
      rw [hs.length]
      exact (connectToRobot_spec (hs.not_active harmed) o).2.2.1
    · have hzero := hnone m (List.mem_of_getElem? hm)
      omega
  spared := by
    intro m hm halive _ harmed
    cases halive.symm.trans ((hs.current m hm).armed harmed)

theorem Tended.timer {s : Link ABBPlatform} (hs : Tended s) {o : Sending}
    (harmed : s.platform.reconnectTimer.isSome = true)
    (hgood : o.fails = true → 0 < o.queued ∧ o.after.isDown = true) :
    Tended ⟨s.platform.connectToRobot o.toSendOutcome,
      s.marks ++ [o.mark]⟩ := by
  obtain ⟨htimer, hactive, hclient, hlength, hstate⟩ :=
    connectToRobot_spec (hs.not_active harmed) o.toSendOutcome
  refine ⟨?_, ?_, fun m hm => ?_⟩
  · rw [List.length_append, hs.length]
    exact hlength.symm
  · rw [hactive, htimer]
    rfl
  · have hcurrent := current_append (v := supervisor) (m := o.mark)
      (p := s.platform.connectToRobot o.toSendOutcome)
      (hclient.trans hs.length.symm)
    rw [hcurrent, Option.mem_some_iff] at hm
    subst hm
    rw [← hclient] at hstate
    constructor
    · intro h
      rw [htimer] at h
      cases h
    · intro hdead
      obtain ⟨hqueued, hdown⟩ := hgood hdead
      exact Or.inr ⟨hqueued, hstate.symm ▸ hdown⟩

theorem Tended.change {s : Link ABBPlatform} (hs : Tended s) {k : ℕ}
    {st : ClientState} {m : Mark} (hk : s.marks[k]? = some m)
    (hstays : (s.platform.getState k).isDown = true → st.isDown = true) :
    Tended ⟨s.platform.setState k st,
      s.marks.set k { m with queued := m.queued + 1 }⟩ := by
  have hlt : k < s.platform.clients.length := by
    rw [← hs.length]
    exact (List.getElem?_eq_some_iff.mp hk).1
  have hstate := getState_setState hlt s.platform.webClient st
  refine ⟨?_, hs.active, forall_current_set hk rfl ?_ ?_⟩
  · rw [List.length_set, hs.length]
    exact (sameLink_setState k st s.platform).length.symm
  · intro (heq : k = s.platform.webClient) hm
    rw [if_pos heq] at hstate
    refine ⟨(hs.current m hm).armed, fun hdead => ?_⟩
    refine ((hs.current m hm).waiting hdead).imp_right fun h => ?_
    refine ⟨Nat.succ_pos _, (congrArg ClientState.isDown hstate).trans ?_⟩
    exact hstays (heq ▸ h.2)
  · intro (hne : k ≠ s.platform.webClient) n hn
    rw [if_neg hne] at hstate
    refine ⟨(hs.current n hn).armed, fun hdead => ?_⟩
    refine ((hs.current n hn).waiting hdead).imp_right fun h => ?_
    exact ⟨h.1, (congrArg ClientState.isDown hstate).trans h.2⟩

/-- A notification of a client that is down arms the timer, unless it is
armed. -/
theorem onClientState_down {s : ABBPlatform} {k : ℕ}
    (hdown : (s.getState k).isDown = true) :
    (s.active = true ∧ s.onClientState k =
      { s with reconnectTimer := some .oneShot, active := false }) ∨
    (s.active = false ∧ s.onClientState k = s) := by
  cases hactive : s.active with
  | true =>
      rw [onClientState, if_pos hdown, if_pos hactive]
      exact Or.inl ⟨rfl, rfl⟩
  | false => exact Or.inr ⟨rfl, onClientState_of_not_active hactive k⟩

theorem Tended.notify {s : Link ABBPlatform} (hs : Tended s) {k : ℕ}
    {m : Mark} (hk : s.marks[k]? = some m)
    (hstale : NotStale supervisor s (.notify k)) :
    Tended ⟨s.platform.onClientState k, s.marks.set k
      ⟨m.queued - 1, m.dead || (s.platform.getState k).isDown⟩⟩ := by
  cases hdown : (s.platform.getState k).isDown with
  | false =>
      have hsame : s.platform.onClientState k = s.platform := by
        rw [onClientState, if_neg (by simp [hdown])]
      rw [hsame, Bool.or_false]
      refine ⟨by rw [List.length_set, hs.length], hs.active,
        forall_current_set hk rfl ?_ fun _ => hs.current⟩
      intro (heq : k = s.platform.webClient) hm
      refine ⟨(hs.current m hm).armed, fun hdead => Or.inl ?_⟩
      refine ((hs.current m hm).waiting hdead).resolve_right fun h => ?_
      cases hdown.symm.trans (heq ▸ h.2)
  | true =>
      rw [Bool.or_true]
      rcases onClientState_down hdown with ⟨-, heq⟩ | ⟨hactive, heq⟩
      · rw [heq]
        refine ⟨by rw [List.length_set, hs.length], rfl,
          forall_current_set hk rfl ?_ ?_⟩
        · exact fun _ _ => ⟨fun _ => rfl, fun _ => Or.inl rfl⟩
        · exact fun hne n hn =>
            ⟨fun _ => hstale hne hdown n hn, fun _ => Or.inl rfl⟩
      · rw [heq]
        have harmed : s.platform.reconnectTimer.isSome = true := by
          rw [hs.active, Option.isNone_eq_false_iff] at hactive
          exact hactive
        refine ⟨by rw [List.length_set, hs.length], hs.active,
          forall_current_set hk rfl ?_ fun _ => hs.current⟩
        exact fun _ _ => ⟨fun _ => rfl, fun _ => Or.inl harmed⟩

theorem Tended.next {s t : Link ABBPlatform} {e : Event} (hs : Tended s)
    (he : Heeded s e) (ht : step supervisor s e = some t) : Tended t := by
  cases e with
  | timer o =>
      cases harmed : s.platform.reconnectTimer.isSome with
      | false =>
          have hnot : ¬supervisor.armed s.platform = true :=
            Bool.eq_false_iff.mp harmed
          rw [step, if_neg hnot] at ht
          cases ht
      | true =>
          have hspec :=
            connectToRobot_spec (hs.not_active harmed) o.toSendOutcome
          rw [step_timer_new harmed (hspec.2.2.1.trans hs.length.symm)] at ht
          cases ht
          exact hs.timer harmed (he.2 o rfl)
  | change k st =>
      obtain ⟨m, hk, h⟩ := Option.bind_eq_some_iff.mp ht
      split at h
      · rename_i hstays
        cases h
        exact hs.change hk hstays
      · cases h
  | notify k =>
      obtain ⟨m, hk, h⟩ := Option.bind_eq_some_iff.mp ht
      split at h
      · cases h
      · cases h
        exact hs.notify hk he.1

theorem tended_start (url : String) : Tended (start url) where
  length := rfl
  active := rfl
  current := nofun

/-- A run of heeded steps is supervised throughout. -/
theorem supervised_of_heeded (url : String) {es : List Event}
    (hes : EachStep (step supervisor) Heeded (start url) es) :
    Throughout (step supervisor) (Supervised supervisor) (start url) es :=
  (throughout_of_eachStep (fun _ _ _ hs he ht => Tended.next hs he ht)
    (tended_start url) hes).mono fun _ hs => hs.supervised

end ABBPlatform

end SelfPlugins.Abb
