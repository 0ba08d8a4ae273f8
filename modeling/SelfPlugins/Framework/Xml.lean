import Mathlib.Data.String.Basic

/-!
# XML documents

The trees of the XML library, as far as the plugins read them: they look for
child elements by name, and take the text of an element, which it has only if
its first child is a text.
-/

namespace SelfPlugins.Xml

/-- An element with its name and its children, a text, or another node. -/
inductive Node where
  | element (name : String) (children : List Node)
  | text (value : String)
  | other

/-- `FirstChildElement`, with a name, among the children of a node: the children
of the element. -/
def firstChildElement (name : String) : List Node → Option (List Node)
  | [] => none
  | .element n children :: nodes =>
      if n = name then some children else firstChildElement name nodes
  | .text _ :: nodes => firstChildElement name nodes
  | .other :: nodes => firstChildElement name nodes

/-- The child elements in their order, as `FirstChildElement` without a name
and `NextSiblingElement` find them. -/
def childElements : List Node → List (List Node)
  | [] => []
  | .element _ children :: nodes => children :: childElements nodes
  | .text _ :: nodes => childElements nodes
  | .other :: nodes => childElements nodes

/-- `GetText`, which is `NULL` for an element that does not start with a
text. -/
def getText : List Node → Option String
  | .text value :: _ => some value
  | _ => none

end SelfPlugins.Xml
