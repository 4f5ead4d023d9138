import JavadocNames.Html.Kind
import JavadocNames.Html.Lexer

/-!
# A page while it is built

While a page is built its nodes are numbered in the order of their making, and
each knows its parent and its children.  Besides the nodes there are the stack of
open elements, the list of formatting that has to be taken up again, and the mode,
which decides how the next token is understood.
-/

namespace JavadocNames

namespace Html

/-- What a node is. -/
inductive VertexKind where
  | document
  /-- A text, its last character first. -/
  | text (reversed : Text)
  | element (name : ElementName) (attributes : Attributes)

/-- A node with its place in the tree. -/
structure Vertex where
  kind : VertexKind
  parent : Option Nat
  children : List Nat

/-- How the next token is understood. -/
inductive Mode where
  | initial
  | beforeHtml
  | beforeHead
  | inHead
  | afterHead
  | inBody
  | text
  | inTable
  | inTableText
  | inCaption
  | inColumnGroup
  | inTableBody
  | inRow
  | inCell
  | inSelect
  | inSelectInTable
  | inTemplate
  | afterBody
  | inFrameset
  | afterFrameset
  | afterAfterBody
  | afterAfterFrameset
  deriving DecidableEq

/-- An entry in the list of formatting: an element and the tag that made it, or a
mark that bounds the list. -/
inductive Formatting where
  | mark
  | element (node : Nat) (tag : Tag)

/-- The state of building. -/
structure Growth where
  vertices : Array Vertex
  /-- The open elements, the innermost first. -/
  stack : List Nat
  /-- The list of formatting, the latest first. -/
  formatting : List Formatting
  mode : Mode
  /-- The mode to go back to after text. -/
  outerMode : Mode
  /-- The modes of the open templates, the innermost first. -/
  templateModes : List Mode
  head : Option Nat
  form : Option Nat
  /-- A table does not end a paragraph. -/
  isOld : Bool
  framesetAllowed : Bool
  /-- What may not stand in a table is put before it. -/
  fostering : Bool
  /-- A line feed that comes next is dropped. -/
  dropsLineFeed : Bool
  /-- Text within a table that is not placed yet, the last character first. -/
  tableText : Text
  /-- What the lexer is to expect from now on, when that changes. -/
  request : Option Content

namespace Growth

/-- The document alone. -/
def empty : Growth :=
  { vertices := #[⟨.document, none, []⟩], stack := [], formatting := [],
    mode := .initial, outerMode := .initial, templateModes := [], head := none,
    form := none, isOld := false, framesetAllowed := true, fostering := false,
    dropsLineFeed := false, tableText := [], request := none }

/-- The number of the document. -/
def document : Nat := 0

/-! ## Nodes -/

/-- Change a node. -/
def adjust (g : Growth) (node : Nat) (f : Vertex → Vertex) : Growth :=
  { g with vertices := g.vertices.modify node f }

/-- The name of an element. -/
def name? (g : Growth) (node : Nat) : Option ElementName :=
  match g.vertices[node]? with
  | some ⟨.element name _, _, _⟩ => some name
  | _ => none

/-- The node is an element with a property. -/
def isNamed (g : Growth) (node : Nat) (p : ElementName → Bool) : Bool :=
  (g.name? node).any p

/-- The node is an HTML element of a set of names. -/
def isHtml (g : Growth) (node : Nat) (names : String → Bool) : Bool :=
  g.isNamed node (·.isHtml names)

/-- The parent of a node, unless it has none. -/
def parent? (g : Growth) (node : Nat) : Option Nat :=
  g.vertices[node]?.bind (·.parent)

/-- The children of a node in order. -/
def children (g : Growth) (node : Nat) : List Nat :=
  match g.vertices[node]? with
  | some v => v.children
  | none => []

/-- Make a node that has no parent yet. -/
def make (g : Growth) (kind : VertexKind) : Nat × Growth :=
  (g.vertices.size, { g with vertices := g.vertices.push ⟨kind, none, []⟩ })

/-- Take a node out of its parent. -/
def detach (g : Growth) (node : Nat) : Growth :=
  match g.parent? node with
  | none => g
  | some parent =>
      (g.adjust parent fun v => { v with children := v.children.filter (· ≠ node) }).adjust
        node fun v => { v with parent := none }

/-- A place for a new child. -/
inductive Spot where
  | lastIn (parent : Nat)
  | before (sibling : Nat)

/-- Put `node` in front of `sibling`. -/
def insertBefore (node sibling : Nat) : List Nat → List Nat
  | [] => []
  | n :: rest => if n = sibling then node :: n :: rest else n :: insertBefore node sibling rest

/-- The child in front of `sibling`. -/
def childBefore? (sibling : Nat) : List Nat → Option Nat
  | a :: b :: rest => if b = sibling then some a else childBefore? sibling (b :: rest)
  | _ => none

/-- Move a node to a place. -/
def place (g : Growth) (node : Nat) (spot : Spot) : Growth :=
  let g := g.detach node
  match spot with
  | .lastIn parent =>
      (g.adjust parent fun v => { v with children := v.children ++ [node] }).adjust
        node fun v => { v with parent := some parent }
  | .before sibling =>
      match g.parent? sibling with
      | none => g
      | some parent =>
          (g.adjust parent fun v =>
            { v with children := insertBefore node sibling v.children }).adjust
              node fun v => { v with parent := some parent }

/-- The node after which a text at a place would stand. -/
def neighbour? (g : Growth) : Spot → Option Nat
  | .lastIn parent => (g.children parent).getLast?
  | .before sibling =>
      (g.parent? sibling).bind fun parent => childBefore? sibling (g.children parent)

/-- Put a character at a place, into the text that is there if there is one. -/
def placeCharacter (g : Growth) (c : Char) (spot : Spot) : Growth :=
  let extended : Option Nat :=
    match g.neighbour? spot with
    | none => none
    | some node =>
        match g.vertices[node]? with
        | some ⟨.text _, _, _⟩ => some node
        | _ => none
  match extended with
  | some node =>
      g.adjust node fun v =>
        match v.kind with
        | .text reversed => { v with kind := .text (c :: reversed) }
        | _ => v
  | none =>
      let (node, g) := g.make (.text [c])
      g.place node spot

/-- Move all children of a node to the end of another. -/
def moveChildren (g : Growth) (source target : Nat) : Growth :=
  (g.children source).foldl (fun g child => g.place child (.lastIn target)) g

/-! ## Open elements -/

/-- The innermost open element. -/
def current? (g : Growth) : Option Nat :=
  g.stack.head?

/-- The current element has a property. -/
def currentIs (g : Growth) (p : ElementName → Bool) : Bool :=
  g.current?.any (g.isNamed · p)

/-- The current element is an HTML element of a set of names. -/
def currentIn (g : Growth) (names : String → Bool) : Bool :=
  g.currentIs (·.isHtml names)

/-- Some open element is a template. -/
def inTemplate (g : Growth) : Bool :=
  g.stack.any (g.isHtml · (· = "template"))

/-- Close the current element. -/
def pop (g : Growth) : Growth :=
  { g with stack := g.stack.tail }

/-- Open an element. -/
def push (g : Growth) (node : Nat) : Growth :=
  { g with stack := node :: g.stack }

/-- Close a given element, wherever it is on the stack. -/
def unstack (g : Growth) (node : Nat) : Growth :=
  { g with stack := g.stack.erase node }

/-- Close elements up to and with the first of a set. -/
def popThrough (g : Growth) (names : String → Bool) : Growth :=
  { g with stack := (g.stack.dropWhile fun n => !g.isHtml n names).tail }

/-- Close elements until the current one is of a set. -/
def popTo (g : Growth) (names : String → Bool) : Growth :=
  { g with stack := g.stack.dropWhile fun n => !g.isHtml n names }

/-- Close the elements that end without an end tag. -/
def closeImplied (g : Growth) (names : String → Bool) : Growth :=
  { g with stack := g.stack.dropWhile fun n => g.isHtml n names }

/-- Close the implied elements but those of one name. -/
def closeImpliedBut (g : Growth) (name : String) : Growth :=
  g.closeImplied fun n => n ≠ name && isImplied n

/-- An element with a property is open, and none that bounds the scope is open
inside it. -/
def scopeHas (g : Growth) (bounds : ElementName → Bool) (p : Nat → Bool) : Bool :=
  go g.stack
where
  go : List Nat → Bool
    | [] => false
    | n :: rest => p n || (!g.isNamed n bounds && go rest)

/-- An HTML element of a name is in scope. -/
def hasInScope (g : Growth) (bounds : ElementName → Bool) (name : String) : Bool :=
  g.scopeHas bounds (g.isHtml · (· = name))

/-- Close a paragraph and what is implied in it. -/
def closeParagraph (g : Growth) : Growth :=
  (g.closeImpliedBut "p").popThrough (· = "p")

/-- Close the paragraph in scope, if there is one. -/
def closeOpenParagraph (g : Growth) : Growth :=
  if g.hasInScope boundsButtonScope "p" then g.closeParagraph else g

/-- Close the implied elements and then everything up to an element of a name. -/
def closeThrough (g : Growth) (name : String) : Growth :=
  (g.closeImplied isImplied).popThrough (· = name)

/-! ## New elements -/

/-- Where a child of `target` goes.  While fostering, what would go into a part of
a table goes before the table. -/
def spotIn (g : Growth) (target : Nat) : Spot :=
  if g.fostering && g.isHtml target isTablePart then foster g.stack
  else .lastIn target
where
  foster : List Nat → Spot
    | [] => .lastIn (g.stack.getLast?.getD document)
    | n :: outer =>
        if g.isHtml n (· = "template") then .lastIn n
        else if g.isHtml n (· = "table") then
          if (g.parent? n).isSome then .before n
          else .lastIn (outer.head?.getD document)
        else foster outer

/-- Where a child of the current element goes. -/
def spot (g : Growth) : Spot :=
  g.spotIn (g.current?.getD document)

/-- Put a character into the current element. -/
def addCharacter (g : Growth) (c : Char) : Growth :=
  g.placeCharacter c g.spot

/-- Make an element and put it into the current one. -/
def insertVoid (g : Growth) (name : ElementName) (attributes : Attributes) :
    Nat × Growth :=
  let spot := g.spot
  let (node, g) := g.make (.element name attributes)
  (node, g.place node spot)

/-- Make an element, put it into the current one and open it. -/
def insert (g : Growth) (name : ElementName) (attributes : Attributes) : Nat × Growth :=
  let (node, g) := g.insertVoid name attributes
  (node, g.push node)

/-- Insert and open the HTML element of a tag. -/
def insertTag (g : Growth) (tag : Tag) : Growth :=
  (g.insert ⟨.html, tag.name⟩ tag.attributes).2

/-- Insert the HTML element of a tag, closed at once. -/
def insertVoidTag (g : Growth) (tag : Tag) : Growth :=
  (g.insertVoid ⟨.html, tag.name⟩ tag.attributes).2

/-- Insert and open an HTML element that no tag stands for. -/
def insertImplied (g : Growth) (name : String) : Growth :=
  (g.insert ⟨.html, name⟩ []).2

/-- Insert an element whose content is text. -/
def insertTextElement (g : Growth) (tag : Tag) (content : Content) : Growth :=
  let g := g.insertTag tag
  { g with outerMode := g.mode, mode := .text, request := some content }

/-- Insert an element with raw text. -/
def insertRawText (g : Growth) (tag : Tag) : Growth :=
  g.insertTextElement tag (.rawText tag.name)

/-! ## The mode after a table, a selection or a template -/

/-- The mode that the open elements ask for. -/
def modeOfStack (g : Growth) : Mode :=
  go g.stack
where
  inSelection : List Nat → Mode
    | [] => .inSelect
    | n :: outer =>
        if g.isHtml n (· = "template") then .inSelect
        else if g.isHtml n (· = "table") then .inSelectInTable
        else inSelection outer
  go : List Nat → Mode
    | [] => .inBody
    | n :: outer =>
        match g.name? n with
        | some ⟨.html, name⟩ =>
            match name with
            | "select" => inSelection outer
            | "td" | "th" => if outer = [] then .inBody else .inCell
            | "tr" => .inRow
            | "tbody" | "thead" | "tfoot" => .inTableBody
            | "caption" => .inCaption
            | "colgroup" => .inColumnGroup
            | "table" => .inTable
            | "template" => g.templateModes.head?.getD .inBody
            | "head" => if outer = [] then .inBody else .inHead
            | "body" => .inBody
            | "frameset" => .inFrameset
            | "html" => if g.head.isNone then .beforeHead else .afterHead
            | _ => go outer
        | _ => go outer

/-- Go to the mode that the open elements ask for. -/
def resetMode (g : Growth) : Growth :=
  { g with mode := g.modeOfStack }

end Growth

end Html

end JavadocNames
