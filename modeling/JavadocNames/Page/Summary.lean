import JavadocNames.Page.Basic

/-!
# Summary tables

A class page sums up its constructors and its methods in tables.  The tables of a
summary stand behind an anchor with a fixed name.  Below its heading every row has
a cell of a fixed class, and in it the signature as code.
-/

namespace JavadocNames

/-- What a summary table lists. -/
inductive Summary where
  | constructors
  | methods
  deriving DecidableEq

namespace Summary

/-- The name of the anchor in front of the tables. -/
def anchorName : Summary → String
  | constructors => "constructor_summary"
  | methods => "method_summary"

/-- The class of the cells that hold signatures. -/
def cellClass : Summary → String
  | constructors => "colOne"
  | methods => "colLast"

/-- An element is an anchor of the summary. -/
def isAnchor (summary : Summary) (e : Element) : Bool :=
  e.name = "a" && e.attribute? "name" = some summary.anchorName

/-- The anchors in some nodes, each as its number and the nodes behind it. -/
def anchors (summary : Summary) : Nodes → List (Nat × Nodes)
  | .nil => []
  | .text _ next => summary.anchors next
  | .element serial name attributes children next =>
      (if summary.isAnchor ⟨serial, name, attributes, children⟩ then [(serial, next)]
        else []) ++
        summary.anchors children ++ summary.anchors next

/-- The anchors in the order in which they were made. -/
def orderedAnchors (summary : Summary) (nodes : Nodes) : List (Nat × Nodes) :=
  (summary.anchors nodes).mergeSort fun a b => a.1 ≤ b.1

/-- Elements without those whose number occurs earlier in the list, or among
`seen`. -/
def firstOnes (seen : List Nat) : List Element → List Element
  | [] => []
  | e :: rest =>
      if e.serial ∈ seen then firstOnes seen rest
      else e :: firstOnes (e.serial :: seen) rest

/-- The tables of the summary: those behind each of its anchors, each table
once. -/
def tables (summary : Summary) (page : Page) : List Element :=
  firstOnes [] <|
    (summary.orderedAnchors page.nodes).flatMap fun anchor => anchor.2.named "table"

/-- A part of a table that groups rows. -/
def isRowGroup (e : Element) : Bool :=
  e.name = "thead" || e.name = "tbody" || e.name = "tfoot"

/-- The rows of a table, in groups or not. -/
def rows (table : Element) : List Element :=
  table.children.elements.flatMap fun e =>
    if e.name = "tr" then [e]
    else if isRowGroup e then e.children.named "tr"
    else []

/-- The signatures in a row. -/
def rowCells (summary : Summary) (row : Element) : List Element :=
  ((row.children.named "td").filter
    fun cell => cell.attribute? "class" = some summary.cellClass).flatMap
      fun cell => cell.children.named "code"

/-- The signatures of a summary; the first row of each table is its heading. -/
def cells (summary : Summary) (page : Page) : List Element :=
  (summary.tables page).flatMap fun table =>
    ((rows table).drop 1).flatMap summary.rowCells

end Summary

end JavadocNames
