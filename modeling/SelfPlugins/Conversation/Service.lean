import SelfPlugins.Conversation.Cache
import SelfPlugins.Library.Runs

/-!
# The conversation service and its cache

`Conversation::Message` hashes its input, answers from the data cache of the
workspace if it can, and asks the service in any case.  The response of the
service is cached if it carries the cache tag, and then handed to the callback
unless the cache has answered before.

The state holds the data caches, the requests under way and the history of the
responses: those the service returned, those delivered from the cache, and
those delivered from the network.  Where a JSON access throws, the call or the
callback has no effect; the data cache may lose an item at any time.
-/

namespace SelfPlugins.Watson

open Runs
open Json (Value assign)

variable {F Text Hash : Type}

structure Config where
  cacheTag : String
  maxCacheAge : ℚ

/-- A request under way; `input` is the value `inputHash` was made of, and
`body` what is sent. -/
structure MessageReq (Hash : Type) where
  workspaceId : String
  callback : Bool
  useCache : Bool
  inputHash : Hash
  input : Value
  body : Value

/-- A response for the input of a workspace. -/
structure Received (F : Type) where
  workspaceId : String
  input : Value
  response : ConversationResponse F

structure Conversation (F Text Hash : Type) where
  caches : String → Hash → Option Text
  pending : List (MessageReq Hash)
  returned : List (Received F)
  fromCache : List (Received F)
  fromNetwork : List (String × Value × Option (ConversationResponse F))

namespace Conversation

def new : Conversation F Text Hash := ⟨fun _ _ => none, [], [], [], []⟩

/-! ## Messages -/

/-- The part of the input that is hashed: the text, the override tag and the
dialog stack of the context. -/
def hashedInput (context : Value) (text intentOverrideTag : String) :
    Option Value := do
  let req := Value.object
    [("intentoverride", .string intentOverrideTag), ("text", .string text)]
  if context.isNull then some (.object [("input", req)])
  else
    let system ← context.get? "system"
    if ← system.isMember? "dialog_stack" then
      let stack ← system.get? "dialog_stack"
      some (.object [("context", stackContext stack), ("input", req)])
    else some (.object [("input", req)])

/-- The whole input has the whole context. -/
def fullInput (context input : Value) : Option Value :=
  if context.isNull then some input else input.set? "context" context

/-- The response found in the cache; `pick` is the random number. -/
def cachedResponse (f : Framework F Text Hash) (stored : Option Text)
    (pick : ℕ) : Option (Option (ConversationResponse F)) :=
  match stored with
  | none => some none
  | some text =>
      match f.parse text with
      | none => some none
      | some v => do
          let items ← itemsOfJson v
          match items[pick % items.length]? with
          | none => some none
          | some item =>
              let r ← ConversationResponse.ofJson f item.response
              some (some r)

/-- The arguments of `Message`, with what decides about its use of the cache:
whether the data cache is there, and the random number. -/
structure MessageArgs where
  workspaceId : String
  context : Value
  text : String
  intentOverrideTag : String
  callback : Bool
  useCache : Bool
  cacheThere : Bool
  pick : ℕ

def message (f : Framework F Text Hash) (a : MessageArgs)
    (s : Conversation F Text Hash) : Option (Conversation F Text Hash) := do
  let input ← hashedInput a.context a.text a.intentOverrideTag
  let body ← fullInput a.context input
  let stored := if a.useCache && a.cacheThere then
    s.caches a.workspaceId (f.hash input) else none
  match ← cachedResponse f stored a.pick with
  | some r =>
      some { s with
        fromCache := s.fromCache ++ [⟨a.workspaceId, input, r⟩]
        pending := s.pending ++
          [⟨a.workspaceId, false, a.useCache, f.hash input, input, body⟩] }
  | none =>
      some { s with
        pending := s.pending ++
          [⟨a.workspaceId, a.callback, a.useCache, f.hash input, input,
            body⟩] }

/-! ## Responses -/

def containsText (f : Framework F Text Hash) (responses : List String)
    (text : String) : Bool :=
  responses.any fun response => f.contains response text

/-- The service returns a response for a request. -/
def receive (req : MessageReq Hash) (r : Option (ConversationResponse F))
    (s : Conversation F Text Hash) : Conversation F Text Hash :=
  { s with returned := s.returned ++
      (r.map fun r => ⟨req.workspaceId, req.input, r⟩).toList }

def deliver (req : MessageReq Hash) (r : Option (ConversationResponse F))
    (s : Conversation F Text Hash) : Conversation F Text Hash :=
  if req.callback then
    { s with fromNetwork := s.fromNetwork ++ [(req.workspaceId, req.input, r)] }
  else s

theorem deliver_caches (req : MessageReq Hash)
    (r : Option (ConversationResponse F)) (s : Conversation F Text Hash) :
    (deliver req r s).caches = s.caches := by
  rw [deliver]
  split
  · rfl
  · rfl

section Response

variable [DecidableEq Hash]

/-- `DataCache::Save`. -/
def save (workspaceId : String) (hash : Hash) (text : Option Text)
    (s : Conversation F Text Hash) : Conversation F Text Hash :=
  { s with caches := fun w h =>
      if w = workspaceId ∧ h = hash then text else s.caches w h }

/-- `OnResponse`; the response is null if the request failed. -/
def onResponse (f : Framework F Text Hash) (c : Config)
    (req : MessageReq Hash) (r : Option (ConversationResponse F)) (now : ℚ)
    (cacheThere : Bool) (s : Conversation F Text Hash) :
    Option (Conversation F Text Hash) :=
  match r with
  | none => some (deliver req none s)
  | some r =>
      if req.useCache && containsText f r.output c.cacheTag && cacheThere then
        do
          let stored := s.caches req.workspaceId req.inputHash
          let text ← saveResponse f c.maxCacheAge now r stored
          some (deliver req (some r)
            (save req.workspaceId req.inputHash (some text) s))
      else some (deliver req (some r) s)

/-- `Message` is called, the service answers request `n` by a JSON value or
fails, or an item of the data cache is lost. -/
inductive Event (Hash : Type) where
  | message (a : MessageArgs)
  | response (n : ℕ) (json : Option Value) (now : ℚ) (cacheThere : Bool)
  | evict (workspaceId : String) (hash : Hash)

def step (f : Framework F Text Hash) (c : Config)
    (s : Conversation F Text Hash) :
    Event Hash → Option (Conversation F Text Hash)
  | .message a => some ((message f a s).getD s)
  | .response n json now cacheThere =>
      (s.pending[n]?).map fun req =>
        let r := json.bind (ConversationResponse.ofJson f)
        let s := receive req r { s with pending := s.pending.eraseIdx n }
        (onResponse f c req r now cacheThere s).getD s
  | .evict workspaceId hash => some (save workspaceId hash none s)

/-! ## Maintenance of the cache -/

end Response

end Conversation

/-! ## An instance of the framework -/

/-- Numbers, texts and hashes are values themselves, and texts are searched
without regard to case. -/
def Framework.exact : Framework ℚ Value Value where
  toDouble := id
  ofDouble := id
  blank := 0
  realText := fun q => toString q.num ++ "/" ++ toString q.den
  print := id
  parse := some
  hash := id
  contains := fun s t => s.toList.tails.any fun u =>
    (t.toList.map Char.toLower).isPrefixOf (u.map Char.toLower)

theorem Framework.exact_lawful : Framework.exact.Lawful where
  ofDouble_toDouble _ := rfl
  parse_print _ := rfl

namespace Conversation

/-- A greeting the service may return, with more context than is kept. -/
def greeting (text : String) : ConversationResponse ℚ where
  intents := [⟨"greet", 1⟩]
  entities := [⟨"joint", "arm"⟩]
  output := [text]
  intentOverrideTag := ""
  context := .object [("system", .object
    [("dialog_counter", .int 1), ("dialog_stack", .array [.string "root"])])]

def greetingItem (text : String) (timestamp : ℚ) : CacheItem where
  response :=
    { greeting text with
      context := stackContext (.array [.string "root"]) }.toJson .exact
  timestamp := timestamp

end Conversation

end SelfPlugins.Watson
