import SelfPlugins.Framework.Json
import SelfPlugins.Library.Runs

/-!
# The WEX agent

`WEXAgent` answers `WEXIntent` objects of the blackboard by searches of the
WEX service.  It works on one intent at a time: further intents wait in
`m_WexRequests`, and the response of a search, which carries no identity, is
attributed to `m_spActive`.

`WEX::Search` lets its responses be kept, by the hash of the url: the response
of a search is what its callback is called with, be it from the cache.

The state consists of the two members of the agent, the searches the service
has not answered yet, and three logs: the intents that arrived, those
`ExecuteRequest` was called for, and the changes made to the blackboard.
Parsing a response is a parameter: `makeJSON` is `none` where TinyXML reports
an error, and otherwise gives the members of the object `MakeJSON` fills.
-/

namespace SelfPlugins.Wex

open Json (Value assign)

/-- An intent; `id` tells the objects of equal text apart. -/
structure WEXIntent where
  id : ℕ
  text : String
  collection : String
deriving DecidableEq

inductive IntentState where
  | processing
  | error
  | completed
deriving DecidableEq

structure Goal where
  name : String
  params : Value
deriving DecidableEq

/-- A change of the blackboard. -/
inductive Effect where
  | setState (wex : WEXIntent) (state : IntentState)
  | addChild (wex : WEXIntent) (goal : Goal)
deriving DecidableEq

/-- An unanswered search, with the intent it was made for. -/
structure Search where
  intent : WEXIntent
  query : String
  collection : String
deriving DecidableEq

structure WEXAgent where
  spActive : Option WEXIntent
  wexRequests : List WEXIntent
  searches : List Search
  arrived : List WEXIntent
  executed : List WEXIntent
  effects : List Effect

def WEXAgent.new : WEXAgent := ⟨none, [], [], [], [], []⟩

/-- The search an intent is answered by. -/
def searchOf (wex : WEXIntent) : Search := ⟨wex, wex.text, wex.collection⟩

namespace WEXAgent

def setState (wex : WEXIntent) (state : IntentState) (s : WEXAgent) :
    WEXAgent :=
  { s with effects := s.effects ++ [.setState wex state] }

def addChild (wex : WEXIntent) (goal : Goal) (s : WEXAgent) : WEXAgent :=
  { s with effects := s.effects ++ [.addChild wex goal] }

def search (wex : WEXIntent) (s : WEXAgent) : WEXAgent :=
  { s with searches := s.searches ++ [⟨wex, wex.text, wex.collection⟩] }

/-- `ExecuteRequest`; `service` is the outcome of `FindService`. -/
def executeRequest (service : Bool) (wex : WEXIntent) (s : WEXAgent) :
    WEXAgent :=
  let s := { s with executed := s.executed ++ [wex] }
  if service then
    search wex (setState wex .processing { s with spActive := some wex })
  else setState wex .error s

/-- `OnWexIntent`; the thing of the event may fail to be a `WEXIntent`. -/
def onWexIntent (service : Bool) (thing : Option WEXIntent) (s : WEXAgent) :
    WEXAgent :=
  match thing with
  | none => s
  | some wex =>
      match s.spActive with
      | none => executeRequest service wex s
      | some _ => { s with wexRequests := s.wexRequests ++ [wex] }

variable (makeJSON : String → Option (List (String × Value)))

/-- The parameters of the goal for a well-formed response. -/
def goalParams (wex : WEXIntent) (members : List (String × Value)) : Value :=
  .object (assign "question" (.string wex.text) members)

/-- The first half of `OnMessage`: the active intent gets its goal and its
final state. -/
def complete (wex : WEXIntent) (callback : String) (s : WEXAgent) :
    WEXAgent :=
  if callback.length > 0 then
    match makeJSON callback with
    | some members =>
        setState wex .completed
          (addChild wex ⟨"WEX", goalParams wex members⟩ s)
    | none => setState wex .error s
  else setState wex .error s

/-- `OnMessage`; it uses `m_spActive` without a check. -/
def onMessage (callback : String) (service : Bool) (s : WEXAgent) :
    Option WEXAgent :=
  s.spActive.map fun wex =>
    let s := complete makeJSON wex callback s
    match s.wexRequests with
    | next :: rest => executeRequest service next { s with wexRequests := rest }
    | [] => { s with spActive := none }

/-- The agent hears of a new intent, or of the response of a search. -/
inductive Event where
  | added (thing : Option (String × String)) (service : Bool)
  | message (n : ℕ) (callback : String) (service : Bool)
deriving DecidableEq

/-- The intent of an arrival. -/
def arrival (s : WEXAgent) (thing : Option (String × String)) :
    Option WEXIntent :=
  thing.map fun p => ⟨s.arrived.length, p.1, p.2⟩

def step (s : WEXAgent) : Event → Option WEXAgent
  | .added thing service =>
      let wex := s.arrival thing
      some (onWexIntent service wex
        { s with arrived := s.arrived ++ wex.toList })
  | .message n callback service =>
      if n < s.searches.length then
        onMessage makeJSON callback service
          { s with searches := s.searches.eraseIdx n }
      else none

/-! ## What the handlers do -/

/-- The changes made for the response of the search of an intent. -/
def answer (wex : WEXIntent) (callback : String) : List Effect :=
  match (if callback.length > 0 then makeJSON callback else none) with
  | some members =>
      [.addChild wex ⟨"WEX", goalParams wex members⟩,
        .setState wex .completed]
  | none => [.setState wex .error]

/-- The changes made when an intent is executed. -/
def execution (service : Bool) (wex : WEXIntent) : List Effect :=
  [.setState wex (if service then .processing else .error)]

theorem executeRequest_true (wex : WEXIntent) (s : WEXAgent) :
    executeRequest true wex s =
      { s with
        spActive := some wex
        searches := s.searches ++ [searchOf wex]
        executed := s.executed ++ [wex]
        effects := s.effects ++ execution true wex } := rfl

theorem executeRequest_false (wex : WEXIntent) (s : WEXAgent) :
    executeRequest false wex s =
      { s with
        executed := s.executed ++ [wex]
        effects := s.effects ++ execution false wex } := rfl

theorem executeRequest_effects (service : Bool) (wex : WEXIntent)
    (s : WEXAgent) : (executeRequest service wex s).effects =
      s.effects ++ execution service wex := by
  cases service with
  | true => rfl
  | false => rfl

theorem complete_eq (wex : WEXIntent) (callback : String) (s : WEXAgent) :
    complete makeJSON wex callback s =
      { s with effects := s.effects ++ answer makeJSON wex callback } := by
  rw [complete, answer]
  split
  · cases makeJSON callback with
    | some members => simp [setState, addChild]
    | none => rfl
  · rfl

end WEXAgent

end SelfPlugins.Wex
