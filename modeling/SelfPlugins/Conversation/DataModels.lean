import SelfPlugins.Framework.Json

/-!
# Responses of the conversation service

`ConversationResponse` and its JSON form.  `Serialize` and `Deserialize` are
not inverse to each other: decoding may rewrite the first intent by the intent
override, whose tag is not encoded.  A response that has been decoded and
encoded comes back unchanged, except for the tag (`ofJson_toJson`).

The framework is a parameter: single-precision numbers, the printer and parser
of JSON texts, the hash of a value, and the search for a text.
-/

namespace SelfPlugins.Watson

open Json (Value)

/-- What the conversation code uses of the framework.  `blank` is the number
an uninitialised `float` holds. -/
structure Framework (F Text Hash : Type) where
  toDouble : F → ℚ
  ofDouble : ℚ → F
  blank : F
  realText : ℚ → String
  print : Value → Text
  parse : Text → Option Value
  hash : Value → Hash
  contains : String → String → Bool

/-- Widening and narrowing a number changes nothing, and what is printed can be
parsed. -/
structure Framework.Lawful {F Text Hash : Type} (f : Framework F Text Hash) :
    Prop where
  ofDouble_toDouble : ∀ x, f.ofDouble (f.toDouble x) = x
  parse_print : ∀ v, f.parse (f.print v) = some v

structure ConversationIntent (F : Type) where
  intent : String
  confidence : F

structure ConversationEntities where
  entity : String
  value : String

structure ConversationResponse (F : Type) where
  intents : List (ConversationIntent F)
  entities : List ConversationEntities
  output : List String
  intentOverrideTag : String
  context : Value

variable {F Text Hash : Type}

/-! ## Serialize -/

def ConversationIntent.toJson (f : Framework F Text Hash)
    (i : ConversationIntent F) : Value :=
  .object [("confidence", .real (f.toDouble i.confidence)),
    ("intent", .string i.intent)]

def ConversationEntities.toJson (e : ConversationEntities) : Value :=
  .object [("entity", .string e.entity), ("value", .string e.value)]

def ConversationResponse.toJson (f : Framework F Text Hash)
    (r : ConversationResponse F) : Value :=
  .object [("context", r.context),
    ("entities", .array (r.entities.map ConversationEntities.toJson)),
    ("intents", .array (r.intents.map (ConversationIntent.toJson f))),
    ("output", .object [("text", .array (r.output.map .string))])]

/-! ## Deserialize -/

def ConversationIntent.ofJson (f : Framework F Text Hash) (json : Value) :
    Option (ConversationIntent F) := do
  let confidence ← json.read? "confidence"
    (fun v => v.asDouble?.map f.ofDouble) f.blank
  let intent ← json.read? "intent" (Value.asString? f.realText) ""
  some ⟨intent, confidence⟩

def ConversationEntities.ofJson (f : Framework F Text Hash) (json : Value) :
    Option ConversationEntities := do
  let entity ← json.read? "entity" (Value.asString? f.realText) ""
  let value ← json.read? "value" (Value.asString? f.realText) ""
  some ⟨entity, value⟩

/-- Replace the name of the first intent. -/
def overrideIntent (name : String) :
    List (ConversationIntent F) → List (ConversationIntent F)
  | [] => []
  | i :: is => { i with intent := name } :: is

/-- The intent override: if the tag is a member of the context with a text, it
names the first intent. -/
def applyOverride (f : Framework F Text Hash) (tag : String) (context : Value)
    (intents : List (ConversationIntent F)) :
    Option (List (ConversationIntent F)) := do
  if tag.length > 0 then
    if (← context.isMember? tag) && intents.length > 0 then
      let name ← (← context.get? tag).asString? f.realText
      if name.length > 0 then some (overrideIntent name intents)
      else some intents
    else some intents
  else some intents

def ConversationResponse.ofJson (f : Framework F Text Hash) (json : Value) :
    Option (ConversationResponse F) := do
  let intents ← json.read? "intents"
    (fun v => v.elements.mapM (ConversationIntent.ofJson f)) []
  let output ← json.read? "output"
    (fun v => v.read? "text"
      (fun w => w.elements.mapM (Value.asString? f.realText)) []) []
  let entities ← json.read? "entities"
    (fun v => v.elements.mapM (ConversationEntities.ofJson f)) []
  if ← json.isMember? "context" then
    let context ← json.get? "context"
    let tag ← json.read? "input"
      (fun v => v.read? "intentoverride" (Value.asString? f.realText) "") ""
    let intents ← applyOverride f tag context intents
    some ⟨intents, entities, output, tag, context⟩
  else some ⟨intents, entities, output, "", .null⟩

/-! ## Round trips -/

theorem ConversationIntent.ofJson_toJson {f : Framework F Text Hash}
    (hf : f.Lawful) (i : ConversationIntent F) :
    ofJson f (toJson f i) = some i := by
  simp [ofJson, toJson, hf.ofDouble_toDouble]

theorem ConversationEntities.ofJson_toJson (f : Framework F Text Hash)
    (e : ConversationEntities) : ofJson f (toJson e) = some e := by
  simp [ofJson, toJson]

/-- Decoding an encoded response gives it back without its override tag. -/
theorem ConversationResponse.ofJson_toJson {f : Framework F Text Hash}
    (hf : f.Lawful) (r : ConversationResponse F) :
    ofJson f (toJson f r) = some { r with intentOverrideTag := "" } := by
  have hintents :
      (r.intents.map (ConversationIntent.toJson f)).mapM
        (ConversationIntent.ofJson f) = some r.intents :=
    Json.mapM_map_of_inverse fun i _ =>
      ConversationIntent.ofJson_toJson hf i
  have hentities :
      (r.entities.map ConversationEntities.toJson).mapM
        (ConversationEntities.ofJson f) = some r.entities :=
    Json.mapM_map_of_inverse fun e _ =>
      ConversationEntities.ofJson_toJson f e
  have houtput :
      (r.output.map Value.string).mapM (Value.asString? f.realText) =
        some r.output :=
    Json.mapM_map_of_inverse fun x _ =>
      Value.asString?_string f.realText x
  simp [ofJson, toJson, applyOverride, hintents, hentities, houtput]

end SelfPlugins.Watson
