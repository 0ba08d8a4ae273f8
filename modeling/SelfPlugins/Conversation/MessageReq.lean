import SelfPlugins.Conversation.Service

/-!
# What a `MessageReq` reads

The constructor of a `MessageReq` looks for a response in the data cache, and
`OnResponse` saves a tagged response there.  Both read JSON values that others
have written: the context, and the stored list.  This module contains the two
with all their accesses of these values; `none` is an exception.
-/

namespace SelfPlugins.Watson

open Json (Value)

variable {F Text Hash : Type}

/-- The network answers: the response, or null, the time, and whether the data
cache is there. -/
structure Answer (F : Type) where
  response : Option (ConversationResponse F)
  now : ℚ
  cacheThere : Bool

namespace Conversation

/-! ## The constructor -/

/-- The response the cache has for an input.  `deserialize` is
`ISerializable::DeserializeObject`, which returns null, an object, or
throws. -/
def findResponse (f : Framework F Text Hash)
    (deserialize : Value → Option (Option (ConversationResponse F)))
    (stored : Option Text) (pick : ℕ) :
    Option (Option (ConversationResponse F)) :=
  match stored.bind f.parse with
  | none => some none
  | some items =>
      if 0 < items.size then do
        let item ← items.at? (pick % items.size)
        let response ← item.get? "response"
        deserialize response
      else some none

/-! ## The response of the network -/

section Response

variable [DecidableEq Hash]

/-- The loop over the items of the cache that looks for a match. -/
def refreshItems (f : Framework F Text Hash) (responseHash : Hash) (now : ℚ) :
    List Value → Option (List Value × Bool)
  | [] => some ([], true)
  | item :: items => do
      let response ← item.get? "response"
      if f.hash response = responseHash then
        let item ← item.set? "timestamp" (.real now)
        some (item :: items, false)
      else
        let rest ← refreshItems f responseHash now items
        some (item :: rest.1, rest.2)

/-- The age of an item in hours. -/
def itemAge (now : ℚ) (item : Value) : Option ℚ := do
  let timestamp ← (← item.get? "timestamp").asDouble?
  some ((now - timestamp) / 3600)

/-- The items that are saved for a response in the place of the stored ones;
`none` if an access throws. -/
def updateItems (f : Framework F Text Hash) (maxCacheAge now : ℚ)
    (response : Value) : Value → Option (List Value)
  | .null => some [CacheItem.toJson ⟨response, now⟩]
  | .array items => do
      let refreshed ← refreshItems f (f.hash response) now items
      let _ages ← refreshed.1.mapM (itemAge now)
      let items := swapRemoveLoop
        (fun item => (itemAge now item).any fun age => maxCacheAge < age)
        refreshed.1 0
      some (if refreshed.2 then items ++ [CacheItem.toJson ⟨response, now⟩]
        else items)
  | _ => none

/-- What `OnResponse` does before it comes to the callback: the items it
saves, if it saves any. -/
def cacheAnswer (f : Framework F Text Hash) (c : Config) (useCache : Bool)
    (answer : Answer F) (stored : Option Text) :
    Option (Option (List Value)) :=
  match answer.response with
  | none => some none
  | some r =>
      if useCache && containsText f r.output c.cacheTag && answer.cacheThere
      then do
        let response ← reduceContext (r.toJson f)
        let items ← updateItems f c.maxCacheAge answer.now response
          ((stored.bind f.parse).getD .null)
        some (some items)
      else some none

/-- The data caches after `OnResponse` has saved the items. -/
def saveItems (f : Framework F Text Hash) (req : MessageReq Hash)
    (items : Option (List Value)) (s : Conversation F Text Hash) :
    Conversation F Text Hash :=
  match items with
  | some items =>
      save req.workspaceId req.inputHash (some (f.print (.array items))) s
  | none => s

end Response

end Conversation

end SelfPlugins.Watson
