import SelfPlugins.Framework.Json
import SelfPlugins.Framework.WebClient
import SelfPlugins.Library.MultiMap

/-!
# The ROS platform

`RosPlatform` talks to a robot through a rosbridge web socket.  A recurring
timer replaces the web client once it is no longer active; publishing
advertises a topic the first time it is used; subscriptions are kept in a
multimap by topic.  The state below holds the members of the class together
with what they act on: the web clients created so far and the messages sent on
each of them.
-/

namespace SelfPlugins.Ros

open Json (Value)

/-- A web client, by the order of creation. -/
abbrev ClientId := ℕ

/-- A value drawn from `UniqueID`, by the order of drawing. -/
abbrev UniqueId := ℕ

/-- An object that handlers belong to. -/
abbrev ObjectId := ℕ

/-- A delegate for received messages. -/
structure MessageHandler where
  object : ObjectId
  method : String
deriving DecidableEq, Repr

/-- Does the delegate belong to the object? -/
def MessageHandler.isObject (h : MessageHandler) (object : ObjectId) : Bool :=
  h.object = object

structure Subscription where
  handler : MessageHandler
  topicId : String
  subId : UniqueId
deriving DecidableEq, Repr

abbrev SubscriptionMap := MultiMap String Subscription

/-- The messages of the rosbridge protocol that the platform sends, one
constructor for each `op`. -/
inductive Message where
  | advertise (id type topic : String)
  | publish (id topic : String) (msg : Value)
  | subscribe (id : UniqueId) (type topic compression : String)
      (throttleRate : ℤ)
  | unsubscribe (id : UniqueId) (topic : String)
deriving DecidableEq, Repr

structure Client where
  url : String
  state : ClientState
deriving DecidableEq, Repr

structure RosPlatform where
  url : String
  webClient : ClientId
  idMap : List String
  advertisements : List String
  active : Bool
  counter : ℕ
  subscriptionMap : SubscriptionMap
  /-- All web clients created so far, the replaced ones included. -/
  clients : List Client
  /-- All messages sent so far, each with the client it was sent on. -/
  sent : List (ClientId × Message)
  /-- How many values have been drawn from `UniqueID`. -/
  uniqueIds : ℕ

namespace RosPlatform

/-- What `GetState()` answers; a client is closed until it is used. -/
def getState (s : RosPlatform) (k : ClientId) : ClientState :=
  (s.clients[k]?.map Client.state).getD .closed

def setState (k : ClientId) (st : ClientState) (s : RosPlatform) :
    RosPlatform :=
  { s with clients := s.clients.modify k fun c => { c with state := st } }

def sendText (m : Message) (s : RosPlatform) : RosPlatform :=
  { s with sent := s.sent ++ [(s.webClient, m)] }

/-! ## Connecting -/

/-- The handler looks at the state of the client only, not at whether it is
the current one. -/
def onClientState (k : ClientId) (s : RosPlatform) : RosPlatform :=
  if (s.getState k).isDown then { s with active := false } else s

/-- The client enters a state and reports it. -/
def notify (k : ClientId) (st : ClientState) (s : RosPlatform) : RosPlatform :=
  (s.setState k st).onClientState k

/-- `Send()` of the client `k`. -/
def send (k : ClientId) (o : SendOutcome) (s : RosPlatform) : RosPlatform :=
  (o.notified.foldl (fun s st => s.notify k st) s).setState k o.after

/-- `IWebClient::Create`, assigned to `m_spWebClient`. -/
def createClient (s : RosPlatform) : RosPlatform :=
  { s with
    active := true
    webClient := s.clients.length
    clients := s.clients ++ [⟨s.url, .closed⟩] }

def connectToRobot (o : SendOutcome) (s : RosPlatform) : RosPlatform :=
  if s.active then s
  else
    let s := s.createClient
    let s := s.send s.webClient o
    if o.ok then s else { s with active := false }

/-- The members before the constructor connects, `url` being the address
after its scheme has been rewritten. -/
def blank (url : String) : RosPlatform where
  url := url
  webClient := 0
  idMap := []
  advertisements := []
  active := false
  counter := 0
  subscriptionMap := MultiMap.empty
  clients := []
  sent := []
  uniqueIds := 0

/-- The constructor. -/
def new (url : String) (o : SendOutcome) : RosPlatform :=
  (blank url).connectToRobot o

/-- The two platforms differ in their web clients only. -/
structure SameSession (s t : RosPlatform) : Prop where
  sent : t.sent = s.sent
  advertisements : t.advertisements = s.advertisements
  subscriptionMap : t.subscriptionMap = s.subscriptionMap
  uniqueIds : t.uniqueIds = s.uniqueIds

theorem SameSession.refl (s : RosPlatform) : SameSession s s :=
  ⟨rfl, rfl, rfl, rfl⟩

theorem SameSession.trans {s t u : RosPlatform} (h₁ : SameSession s t)
    (h₂ : SameSession t u) : SameSession s u :=
  ⟨h₂.sent.trans h₁.sent, h₂.advertisements.trans h₁.advertisements,
    h₂.subscriptionMap.trans h₁.subscriptionMap,
    h₂.uniqueIds.trans h₁.uniqueIds⟩

/-- Reporting a state touches neither the session nor the set of clients, and
leaves the reporting client in that state. -/
theorem notify_spec (k : ClientId) (st : ClientState) (s : RosPlatform) :
    SameSession s (s.notify k st) ∧ (s.notify k st).webClient = s.webClient ∧
      (s.notify k st).clients.length = s.clients.length := by
  rw [notify, onClientState]
  split
  · exact ⟨⟨rfl, rfl, rfl, rfl⟩, rfl, List.length_modify ..⟩
  · exact ⟨⟨rfl, rfl, rfl, rfl⟩, rfl, List.length_modify ..⟩

theorem getState_setState {k : ClientId} {s : RosPlatform}
    (hk : k < s.clients.length) (l : ClientId) (st : ClientState) :
    (s.setState k st).getState l = if k = l then st else s.getState l := by
  rw [getState, setState]
  simp only [List.getElem?_modify]
  split
  · rename_i hkl
    subst hkl
    simp [List.getElem?_eq_getElem hk]
  · simp [getState]

theorem getState_notify {k : ClientId} {s : RosPlatform}
    (hk : k < s.clients.length) (l : ClientId) (st : ClientState) :
    (s.notify k st).getState l = if k = l then st else s.getState l := by
  rw [← getState_setState hk, notify, onClientState]
  split <;> rfl

theorem send_spec (k : ClientId) (o : SendOutcome) (s : RosPlatform) :
    SameSession s (s.send k o) ∧ (s.send k o).webClient = s.webClient ∧
      (s.send k o).clients.length = s.clients.length := by
  have hfold : ∀ (sts : List ClientState) (s : RosPlatform),
      SameSession s (sts.foldl (fun s st => s.notify k st) s) ∧
        (sts.foldl (fun s st => s.notify k st) s).webClient = s.webClient ∧
        (sts.foldl (fun s st => s.notify k st) s).clients.length =
          s.clients.length := by
    intro sts
    induction sts with
    | nil => exact fun s => ⟨SameSession.refl s, rfl, rfl⟩
    | cons st sts ih =>
        intro s
        obtain ⟨hsame, hclient, hlength⟩ := notify_spec k st s
        obtain ⟨hsame', hclient', hlength'⟩ := ih (s.notify k st)
        exact ⟨hsame.trans hsame', hclient'.trans hclient,
          hlength'.trans hlength⟩
  obtain ⟨hsame, hclient, hlength⟩ := hfold o.notified s
  refine ⟨hsame.trans ⟨rfl, rfl, rfl, rfl⟩, hclient, ?_⟩
  rw [send, setState, List.length_modify]
  exact hlength

theorem getState_send {k : ClientId} {s : RosPlatform}
    (hk : k < s.clients.length) (o : SendOutcome) :
    (s.send k o).getState k = o.after := by
  have hfold : (o.notified.foldl (fun s st => s.notify k st) s).clients.length =
      s.clients.length := by
    have h := (send_spec k o s).2.2
    rwa [send, setState, List.length_modify] at h
  rw [send, getState_setState (hfold.symm ▸ hk), if_pos rfl]

/-- An active platform is left alone; otherwise a new client takes the place
of the old one. -/
theorem connectToRobot_cases (o : SendOutcome) (s : RosPlatform) :
    (s.active = true ∧ s.connectToRobot o = s) ∨
      (s.active = false ∧ SameSession s (s.connectToRobot o) ∧
        (s.connectToRobot o).webClient = s.clients.length ∧
        (s.connectToRobot o).clients.length = s.clients.length + 1 ∧
        (s.connectToRobot o).getState s.clients.length = o.after) := by
  rw [connectToRobot]
  by_cases hactive : s.active = true
  · rw [if_pos hactive]
    exact Or.inl ⟨hactive, rfl⟩
  · rw [if_neg hactive]
    have hlength : s.createClient.clients.length = s.clients.length + 1 := by
      simp [createClient]
    obtain ⟨hsame, hclient, hlength'⟩ :=
      send_spec s.clients.length o s.createClient
    have hlt : s.clients.length < s.createClient.clients.length := by
      rw [hlength]
      exact Nat.lt_succ_self _
    have hstate : (s.createClient.send s.clients.length o).getState
        s.clients.length = o.after := getState_send hlt o
    have hcreate : SameSession s s.createClient := ⟨rfl, rfl, rfl, rfl⟩
    refine Or.inr ⟨by simpa using hactive, ?_⟩
    change SameSession s (if o.ok = true then _ else _) ∧ _
    cases o.ok with
    | true => exact ⟨hcreate.trans hsame, hclient, hlength'.trans hlength, hstate⟩
    | false =>
        exact ⟨(hcreate.trans hsame).trans ⟨rfl, rfl, rfl, rfl⟩, hclient,
          hlength'.trans hlength, hstate⟩

/-! ## Publishing -/

def advertise (topicId message : String) (s : RosPlatform) : RosPlatform :=
  if topicId ∈ s.advertisements then s
  else
    let publishId := "advertise: " ++ topicId ++ ": " ++ toString (s.counter + 1)
    let s := { s with
      counter := s.counter + 1
      idMap := s.idMap ++ [publishId]
      advertisements := s.advertisements ++ [topicId] }
    s.sendText (.advertise publishId message topicId)

def publish (topicId message : String) (data : Value) (s : RosPlatform) :
    Bool × RosPlatform :=
  let s := s.advertise topicId message
  let publishId := "publish: " ++ topicId ++ ": " ++ toString (s.counter + 1)
  let s := { s with
    counter := s.counter + 1
    idMap := s.idMap ++ [publishId] }
  (true, s.sendText (.publish publishId topicId data))

/-- A topic already in the list is not advertised again. -/
theorem advertise_of_mem {topicId : String} {s : RosPlatform}
    (h : topicId ∈ s.advertisements) (message : String) :
    s.advertise topicId message = s := if_pos h

/-- A new topic is advertised on the current client and noted in the list. -/
theorem advertise_of_not_mem {topicId : String} {s : RosPlatform}
    (h : topicId ∉ s.advertisements) (message : String) :
    (∃ id, (s.advertise topicId message).sent =
        s.sent ++ [(s.webClient, .advertise id message topicId)]) ∧
      (s.advertise topicId message).advertisements =
        s.advertisements ++ [topicId] := by
  rw [advertise, if_neg h]
  exact ⟨⟨_, rfl⟩, rfl⟩

/-- Advertising leaves clients and subscriptions alone. -/
theorem advertise_frame (topicId message : String) (s : RosPlatform) :
    (s.advertise topicId message).webClient = s.webClient ∧
      (s.advertise topicId message).clients = s.clients ∧
      (s.advertise topicId message).subscriptionMap = s.subscriptionMap ∧
      (s.advertise topicId message).uniqueIds = s.uniqueIds := by
  rw [advertise]
  split
  · exact ⟨rfl, rfl, rfl, rfl⟩
  · exact ⟨rfl, rfl, rfl, rfl⟩

/-- `Publish` is `Advertise` followed by one message. -/
theorem publish_sent (topicId message : String) (data : Value)
    (s : RosPlatform) :
    ∃ id, (s.publish topicId message data).2.sent =
      (s.advertise topicId message).sent ++
        [(s.webClient, .publish id topicId data)] := by
  have hclient := (advertise_frame topicId message s).1
  exact ⟨_, by rw [← hclient]; exact rfl⟩

/-! ## Subscriptions -/

def subscribe (path message : String) (callback : MessageHandler)
    (s : RosPlatform) : Bool × RosPlatform :=
  let sub : Subscription :=
    { handler := callback, topicId := path, subId := s.uniqueIds }
  let s := { s with uniqueIds := s.uniqueIds + 1 }
  let s := s.sendText (.subscribe sub.subId message path "none" 0)
  (true, { s with subscriptionMap := s.subscriptionMap.insert path sub })

/-- The search loop of `Unsubscribe`, from the iterator `iSub`.  The result is
the entry to remove, if one is found; `none` stands for reading through the
end of the map, which has no defined outcome. -/
def findSubscription (m : SubscriptionMap) (path : String) (object : ObjectId)
    (iSub : ℕ) : Option (Option (ℕ × Subscription)) :=
  if _hend : iSub = m.finish then
    match m.deref iSub with
    | none => none
    | some entry =>
        if entry.1 ≠ path then some none
        else if entry.2.handler.isObject object then
          some (some (iSub, entry.2))
        else findSubscription m path object (iSub + 1)
  else some none
termination_by m.finish + 1 - iSub

def unsubscribe (path : String) (object : ObjectId) (s : RosPlatform) :
    Option (Bool × RosPlatform) :=
  (findSubscription s.subscriptionMap path object
      (s.subscriptionMap.find path)).map fun
    | none => (false, s)
    | some (iSub, sub) =>
        let s := s.sendText (.unsubscribe sub.subId sub.topicId)
        (true, { s with subscriptionMap := s.subscriptionMap.erase iSub })

/-- The handlers `OnFrame` invokes for a message of the topic. -/
def dispatch (s : RosPlatform) (topic : String) : List MessageHandler :=
  (s.subscriptionMap.range topic).map fun e => e.2.handler

/-! ## Runs -/

/-- What can happen to the platform: a tick of the reconnect timer, a state
change reported by one of the web clients, or a call of one of its users. -/
inductive Event where
  | timer (o : SendOutcome)
  | clientState (k : ClientId) (st : ClientState)
  | publish (topicId message : String) (data : Value)
  | subscribe (path message : String) (callback : MessageHandler)
  | unsubscribe (path : String) (object : ObjectId)
deriving DecidableEq, Repr

def step (s : RosPlatform) : Event → Option RosPlatform
  | .timer o => some (s.connectToRobot o)
  | .clientState k st =>
      if k < s.clients.length then some (s.notify k st) else none
  | .publish topicId message data => some (s.publish topicId message data).2
  | .subscribe path message callback =>
      some (s.subscribe path message callback).2
  | .unsubscribe path object => (s.unsubscribe path object).map Prod.snd

end RosPlatform

end SelfPlugins.Ros
