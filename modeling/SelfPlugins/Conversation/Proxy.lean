import Mathlib.Logic.Function.Basic
import SelfPlugins.Conversation.MessageReq

/-!
# The proxy of the conversation service

`ConversationProxy::ClassifyText` creates a `Request`, which deletes itself.
The constructor asks the service by `Conversation::Message`, whose `MessageReq`
deletes itself as well; `OnTextClassified` may be called before `Message`
returns, by the cache or by the network, or later.

The callback of a request is code of the user, and may classify other texts
before it returns.  `stack` holds what is left to do when the callbacks that
are running return, the innermost first.  Responses of the network that do not
come at once come when no callback is running.

An access of a JSON value may throw.  The exception ends the function and those
that have called it: inside of the constructor of a `Request` the object is
released, and a response that comes later is lost.  The callbacks of the user
are taken to return.
-/

namespace SelfPlugins.Watson

open Json (Value)

variable {F Text Hash : Type}

abbrev RequestId := ℕ

/-! ## The state -/

/-- What a `Text` thing holds: its text, its data, and its JSON form. -/
structure TextThing where
  text : String
  data : Value
  json : Value

/-- A result; the fields that are not set are `none`. -/
structure ClassifyResult where
  result : Value
  topClass : String
  confidence : Option ℚ
  priority : Option Bool
  hasParentProxy : Bool

/-- The data of a proxy; `filters` tells which results its filters ignore. -/
structure ProxyData where
  workspaceId : String
  intentOverride : String
  context : Value
  mergedContext : Value
  useCache : Bool
  previousIntent : String
  priority : Bool
  focus : Bool
  filters : List (Value → Bool)

/-- A `Request`; `callback` tells whether the callback is valid. -/
structure Request where
  text : TextThing
  callback : Bool
  textClassified : Bool

/-- A `MessageReq`, whose callback is one of the request `owner`. -/
structure OwnedReq (Hash : Type) where
  owner : RequestId
  req : MessageReq Hash

/-- What is left to do when the callback of a request returns. -/
inductive Frame (F Hash : Type) where
  /-- The constructor has delivered a failure. -/
  | failed (r : RequestId)
  /-- `OnTextClassified` was called for a response from the cache; `answer` is
  what the network answers at once. -/
  | hit (m : OwnedReq Hash) (answer : Option (Answer F))
  /-- `OnTextClassified` was called for a response of the network, which may
  have come at once. -/
  | answered (r : RequestId) (atOnce : Bool)

/-- What happens to the requests: a member is used, the request is deleted, a
result is made for the callback, `Message` returns, and a `CacheMiss` is added
to the text. -/
inductive RequestEntry where
  | used (r : RequestId)
  | deleted (r : RequestId)
  | result (r : RequestId)
  | returned (r : RequestId)
  | cacheMiss (r : RequestId)
deriving DecidableEq

structure ConversationProxy (F Text Hash : Type) where
  data : ProxyData
  service : Conversation F Text Hash
  requests : RequestId → Request
  nextRequest : RequestId
  /-- The requests to the network that have not been answered. -/
  inFlight : List (OwnedReq Hash)
  stack : List (Frame F Hash)
  /-- The calls of valid callbacks. -/
  delivered : List (RequestId × ClassifyResult)
  log : List RequestEntry

namespace ConversationProxy

def new (data : ProxyData) (service : Conversation F Text Hash) :
    ConversationProxy F Text Hash where
  data := data
  service := service
  requests := fun _ => ⟨⟨"", .null, .null⟩, false, false⟩
  nextRequest := 0
  inFlight := []
  stack := []
  delivered := []
  log := []

/-! ## Results -/

/-- `m_Result["goal_params"]["answer"]["response"]`: an empty text leaves its
place null, and the array ends with the last text. -/
def answerTexts (output : List String) : List Value :=
  (output.reverse.dropWhile (· = "")).reverse.map fun text =>
    if text = "" then .null else .string text

/-- `m_Result`, for a response whose first intent is `intent`. -/
def resultJson (f : Framework F Text Hash) (text : TextThing)
    (r : ConversationResponse F) (intent : ConversationIntent F) : Value :=
  let goalParams :=
    if r.output.any (· ≠ "") then
      [("goal_params", .object
        [("answer", .object [("response", .array (answerTexts r.output))]),
          ("question", text.json)])]
    else []
  .object ([("confidence", .real (f.toDouble intent.confidence)),
      ("conversation", r.toJson f)] ++ goalParams ++
    [("text", .string text.text), ("top_class", .string intent.intent)])

/-- `Json::Value::clear`. -/
def clear? : Value → Option Value
  | .null => some .null
  | .array _ => some (.array [])
  | .object _ => some (.object [])
  | _ => none

/-- A null response, and one without intents, stand for a failure. -/
def failed (response : Option (ConversationResponse F)) : Bool :=
  (response.bind fun r => r.intents.head?).isNone

/-- The result `OnTextClassified` makes of a response, and the data of the
proxy after it; `none` where the context of a failure cannot be cleared. -/
def classify (f : Framework F Text Hash) (text : TextThing)
    (response : Option (ConversationResponse F)) (p : ProxyData) :
    Option (ClassifyResult × ProxyData) :=
  match response.bind fun r => r.intents.head?.map fun intent => (r, intent) with
  | some (r, intent) =>
      let result := resultJson f text r intent
      let p := { p with mergedContext := r.context }
      if p.filters.any fun ignores => ignores result then
        some (⟨result, "ignored", none, none, true⟩, { p with focus := false })
      else
        some (⟨result, intent.intent, some (f.toDouble intent.confidence),
          some p.priority, true⟩, { p with previousIntent := intent.intent })
  | none => do
      let context ← clear? p.context
      some (⟨.null, "failure", none, none, false⟩, { p with context := context })

/-! ## Requests -/

def note (e : RequestEntry) (s : ConversationProxy F Text Hash) :
    ConversationProxy F Text Hash :=
  { s with log := s.log ++ [e] }

def modifyRequest (r : RequestId) (g : Request → Request)
    (s : ConversationProxy F Text Hash) : ConversationProxy F Text Hash :=
  { s with requests := Function.update s.requests r (g (s.requests r)) }

/-- The callback of a request is called, if it is valid. -/
def deliver (r : RequestId) (result : ClassifyResult) (frame : Frame F Hash)
    (s : ConversationProxy F Text Hash) : ConversationProxy F Text Hash :=
  { note (.result r) s with
    delivered := s.delivered ++
      if (s.requests r).callback then [(r, result)] else []
    stack := frame :: s.stack }

/-- How a function ends: it returns, or an exception leaves it. -/
inductive Outcome (σ : Type) where
  | returns (s : σ)
  | throws (s : σ)

/-- The state in which a function has ended. -/
def Outcome.state {σ : Type} : Outcome σ → σ
  | .returns s => s
  | .throws s => s

/-- `OnTextClassified`, up to the call of the callback. -/
def onTextClassified (f : Framework F Text Hash) (r : RequestId)
    (response : Option (ConversationResponse F)) (frame : Frame F Hash)
    (s : ConversationProxy F Text Hash) :
    Outcome (ConversationProxy F Text Hash) :=
  let s := note (.used r) s
  match classify f (s.requests r).text response s.data with
  | some (result, data) =>
      .returns (deliver r result frame { s with data := data })
  | none => .throws s

/-- The end of `OnTextClassified`. -/
def finishClassified (r : RequestId) (s : ConversationProxy F Text Hash) :
    ConversationProxy F Text Hash :=
  let s := note (.used r) s
  if (s.requests r).textClassified then note (.deleted r) s
  else modifyRequest r (fun x => { x with textClassified := true }) s

/-- `Message` has returned to the constructor of the request. -/
def messageReturns (r : RequestId) (s : ConversationProxy F Text Hash) :
    ConversationProxy F Text Hash :=
  let s := note (.used r) (note (.returned r) s)
  if !(s.requests r).textClassified then
    modifyRequest r (fun x => { x with textClassified := true })
      (note (.cacheMiss r) s)
  else note (.deleted r) s

/-- The end of `OnResponse`, where the `MessageReq` is deleted. -/
def finishResponse (r : RequestId) (atOnce : Bool)
    (s : ConversationProxy F Text Hash) : ConversationProxy F Text Hash :=
  if atOnce then messageReturns r s else s

/-- The storage of a request is released when an exception leaves its
constructor. -/
def constructed (r : RequestId) :
    Outcome (ConversationProxy F Text Hash) → ConversationProxy F Text Hash
  | .returns s => s
  | .throws s => note (.deleted r) s

/-- The arguments of `ClassifyText`, and what it finds: whether the service is
there, its workspace in the configuration, the state of the emotions and the
objects, the data cache, the random number, and what the network answers at
once. -/
structure ClassifyArgs (F : Type) where
  text : TextThing
  callback : Bool
  serviceThere : Bool
  workspace : Option String
  emotionalState : ℚ
  recognizedObjects : Value
  cacheThere : Bool
  pick : ℕ
  answer : Option (Answer F)

/-- Both contexts and the data of the text. -/
def mergeAll (merge : Value → Value → Value) (a : ClassifyArgs F)
    (p : ProxyData) : Value :=
  merge (merge p.mergedContext p.context) a.text.data

/-- The context that is sent. -/
def mergeContext (merge : Value → Value → Value) (a : ClassifyArgs F)
    (p : ProxyData) : Option Value := do
  let merged ← (mergeAll merge a p).set? "m_EmotionalState"
    (.real a.emotionalState)
  let merged ← merged.set? "m_PreviousIntent" (.string p.previousIntent)
  merged.set? "m_Objects" a.recognizedObjects

/-- The data of the proxy when `Message` is called. -/
def begun (a : ClassifyArgs F) (merged : Value) (p : ProxyData) : ProxyData :=
  { p with
    mergedContext := merged
    workspaceId := a.workspace.getD p.workspaceId }

/-- No request is sent. -/
def fail (r : RequestId) (s : ConversationProxy F Text Hash) :
    ConversationProxy F Text Hash :=
  deliver r ⟨.null, "failure", none, none, false⟩ (.failed r)
    (note (.used r) s)

section

variable [DecidableEq Hash] (f : Framework F Text Hash) (c : Config)
  (merge : Value → Value → Value)
  (deserialize : Value → Option (Option (ConversationResponse F)))

/-- What `OnResponse` does before it comes to the callback. -/
def cacheFor (m : OwnedReq Hash) (answer : Answer F)
    (service : Conversation F Text Hash) : Option (Option (List Value)) :=
  Conversation.cacheAnswer f c m.req.useCache answer
    (service.caches m.req.workspaceId m.req.inputHash)

/-- `OnResponse`, up to the call of the callback. -/
def onResponse (m : OwnedReq Hash) (answer : Answer F) (atOnce : Bool)
    (s : ConversationProxy F Text Hash) :
    Outcome (ConversationProxy F Text Hash) :=
  match cacheFor f c m answer s.service with
  | none => .throws s
  | some items =>
      let s := { s with
        service := Conversation.deliver m.req answer.response
          (Conversation.saveItems f m.req items s.service) }
      if m.req.callback then
        onTextClassified f m.owner answer.response
          (.answered m.owner atOnce) s
      else .returns (finishResponse m.owner atOnce s)

/-- The end of the constructor of `MessageReq`: the network is asked, and may
answer at once. -/
def sendRequest (m : OwnedReq Hash) (answer : Option (Answer F))
    (s : ConversationProxy F Text Hash) :
    Outcome (ConversationProxy F Text Hash) :=
  match answer with
  | none =>
      .returns (messageReturns m.owner { s with inFlight := s.inFlight ++ [m] })
  | some answer => onResponse f c m answer true s

/-- What the constructor of `MessageReq` makes of its arguments: the request,
and the response that it finds in the cache. -/
def prepare (r : RequestId) (a : ClassifyArgs F) (p : ProxyData)
    (service : Conversation F Text Hash) :
    Option (OwnedReq Hash × Option (ConversationResponse F)) := do
  let input ← Conversation.hashedInput p.mergedContext a.text.text
    p.intentOverride
  let body ← Conversation.fullInput p.mergedContext input
  let stored := if p.useCache && a.cacheThere then
    service.caches p.workspaceId (f.hash input) else none
  let found ← Conversation.findResponse f deserialize stored a.pick
  some (⟨r, p.workspaceId, true, p.useCache, f.hash input, input, body⟩, found)

/-- `Message`, up to the call of the callback or its return. -/
def message (r : RequestId) (a : ClassifyArgs F)
    (s : ConversationProxy F Text Hash) :
    Outcome (ConversationProxy F Text Hash) :=
  match prepare f deserialize r a s.data s.service with
  | none => .throws s
  | some (m, some response) =>
      let s := { s with service := { s.service with
        fromCache := s.service.fromCache ++
          [⟨m.req.workspaceId, m.req.input, response⟩] } }
      onTextClassified f r (some response) (.hit m a.answer) s
  | some (m, none) => sendRequest f c m a.answer s

/-- `ClassifyText`, with the constructor of `Request`. -/
def classifyText (a : ClassifyArgs F) (s : ConversationProxy F Text Hash) :
    ConversationProxy F Text Hash :=
  let r := s.nextRequest
  let s := note (.used r)
    (modifyRequest r (fun _ => ⟨a.text, a.callback, false⟩)
      { s with nextRequest := r + 1 })
  if a.serviceThere then
    match mergeContext merge a s.data with
    | none =>
        constructed r (.throws { s with data :=
          { s.data with mergedContext := mergeAll merge a s.data } })
    | some merged =>
        let s := { s with data := begun a merged s.data }
        if 0 < s.data.workspaceId.length then
          constructed r (message f c deserialize r a s)
        else fail r s
  else fail r s

/-- The callback that was called last returns. -/
def callbackReturns (s : ConversationProxy F Text Hash) :
    Option (ConversationProxy F Text Hash) :=
  match s.stack with
  | [] => none
  | frame :: rest =>
      let s := { s with stack := rest }
      match frame with
      | .failed r => some (note (.deleted r) s)
      | .hit m answer =>
          -- the callback of the `MessageReq` is reset
          some (constructed m.owner (sendRequest f c
            { m with req := { m.req with callback := false } } answer
            (finishClassified m.owner s)))
      | .answered r atOnce =>
          some (finishResponse r atOnce (finishClassified r s))

/-! ## Steps -/

inductive Event (F : Type) where
  | classifyText (a : ClassifyArgs F)
  | callbackReturns
  | response (n : ℕ) (answer : Answer F)
  | invalidate (r : RequestId)

def step (s : ConversationProxy F Text Hash) :
    Event F → Option (ConversationProxy F Text Hash)
  | .classifyText a => some (classifyText f c merge deserialize a s)
  | .callbackReturns => callbackReturns f c s
  | .response n answer =>
      if s.stack.isEmpty then
        -- after an exception nothing is done for the request any more
        (s.inFlight[n]?).map fun m =>
          (onResponse f c m answer false
            { s with inFlight := s.inFlight.eraseIdx n }).state
      else none
  | .invalidate r => some (modifyRequest r (fun x => { x with callback := false }) s)

end

end ConversationProxy

end SelfPlugins.Watson
