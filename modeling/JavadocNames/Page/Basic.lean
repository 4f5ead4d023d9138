import JavadocNames.Html.Token

/-!
# Pages

A page is a tree of elements and texts.  Every element carries a number, which
tells in which order the elements were made; that need not be the order in which
they stand.
-/

namespace JavadocNames

/-- Nodes that stand beside each other, from the first to the last. -/
inductive Nodes where
  | nil
  | text (content : Text) (next : Nodes)
  | element (serial : Nat) (name : String) (attributes : Html.Attributes)
      (children next : Nodes)
  deriving DecidableEq

/-- An element by itself. -/
structure Element where
  serial : Nat
  name : String
  attributes : Html.Attributes
  children : Nodes
  deriving DecidableEq

namespace Nodes

/-- The elements among some nodes, without those inside them. -/
def elements : Nodes → List Element
  | nil => []
  | text _ next => next.elements
  | element serial name attributes children next =>
      ⟨serial, name, attributes, children⟩ :: next.elements

/-- The elements of a name among some nodes. -/
def named (name : String) (nodes : Nodes) : List Element :=
  nodes.elements.filter (·.name = name)

/-- All text in some nodes, from the first character to the last. -/
def innerText : Nodes → Text
  | nil => []
  | text content next => content ++ next.innerText
  | element _ _ _ children next => children.innerText ++ next.innerText

/-- The numbers of all elements in some nodes, each element before those inside
it. -/
def serials : Nodes → List Nat
  | nil => []
  | text _ next => next.serials
  | element serial _ _ children next => serial :: (children.serials ++ next.serials)

end Nodes

/-- The value of an attribute. -/
def Element.attribute? (e : Element) (name : String) : Option String :=
  Html.attribute? name e.attributes

/-- The text in an element. -/
def Element.innerText (e : Element) : Text :=
  e.children.innerText

/-- A page, in which no two elements have the same number. -/
structure Page where
  nodes : Nodes
  distinct : nodes.serials.Nodup

end JavadocNames
