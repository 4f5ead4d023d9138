import JavadocNames.Html.Growth

/-!
# Formatting that spans elements

Elements such as `a`, `b` and `code` may be closed out of order.  The list of
formatting remembers which of them were cut off by the end of what held them, so
that they are made anew in what follows; and an end tag that crosses a block moves
the block out of the formatting, with copies of the formatting inside it.
-/

namespace JavadocNames

namespace Html

namespace Growth

/-- The entries since the last mark, the latest first. -/
def recentFormatting (g : Growth) : List (Nat × Tag) :=
  go g.formatting
where
  go : List Formatting → List (Nat × Tag)
    | .element node tag :: earlier => (node, tag) :: go earlier
    | _ => []

/-- Bound the list of formatting. -/
def markFormatting (g : Growth) : Growth :=
  { g with formatting := .mark :: g.formatting }

/-- Forget the formatting since the last mark, and the mark. -/
def forgetFormatting (g : Growth) : Growth :=
  { g with formatting := go g.formatting }
where
  go : List Formatting → List Formatting
    | [] => []
    | .mark :: earlier => earlier
    | .element .. :: earlier => go earlier

/-- The entry is that of a node. -/
def isEntryOf (node : Nat) : Formatting → Bool
  | .mark => false
  | .element n _ => n = node

/-- Forget the entry of a node. -/
def forgetEntry (g : Growth) (node : Nat) : Growth :=
  { g with formatting := g.formatting.eraseP (isEntryOf node) }

/-- The node has an entry. -/
def hasEntry (g : Growth) (node : Nat) : Bool :=
  g.formatting.any (isEntryOf node)

/-- The tag in the entry of a node. -/
def entryTag? (g : Growth) (node : Nat) : Option Tag :=
  go g.formatting
where
  go : List Formatting → Option Tag
    | [] => none
    | .mark :: earlier => go earlier
    | .element n tag :: earlier => if n = node then some tag else go earlier

/-- Put another entry for that of a node. -/
def replaceEntry (g : Growth) (node : Nat) (entry : Formatting) : Growth :=
  { g with formatting := g.formatting.map fun e => if isEntryOf node e then entry else e }

/-- Put an entry right after that of a node, as the later of the two. -/
def insertEntryAfter (g : Growth) (node : Nat) (entry : Formatting) : Growth :=
  { g with
    formatting :=
      g.formatting.flatMap fun e => if isEntryOf node e then [entry, e] else [e] }

/-- Two tags ask for the same formatting. -/
def sameFormatting (a b : Tag) : Bool :=
  a.name = b.name && a.attributes.length = b.attributes.length &&
    a.attributes.all (b.attributes.contains ·)

/-- Make the formatting anew that is not open any more. -/
def reconstruct (g : Growth) : Growth :=
  let isOpen := fun e : Formatting =>
    match e with
    | .mark => true
    | .element node _ => g.stack.contains node
  let closed := g.formatting.takeWhile (!isOpen ·)
  closed.reverse.foldl
    (fun g e =>
      match e with
      | .mark => g
      | .element node tag =>
          let (copy, g) := g.insert ⟨.html, tag.name⟩ tag.attributes
          g.replaceEntry node (.element copy tag))
    g

/-- Insert and open a formatting element, and remember it.  Of entries that ask for
the same, at most three are kept. -/
def insertFormatting (g : Growth) (tag : Tag) : Growth :=
  let same := g.recentFormatting.filter fun entry => sameFormatting tag entry.2
  let g :=
    match same.getLast? with
    | some (node, _) => if 3 ≤ same.length then g.forgetEntry node else g
    | none => g
  let (node, g) := g.insert ⟨.html, tag.name⟩ tag.attributes
  { g with formatting := .element node tag :: g.formatting }

/-- Close the innermost element of a name, unless a special element is in the
way. -/
def closeOrdinary (g : Growth) (name : String) : Growth :=
  let way := g.stack.takeWhile fun n => !g.isHtml n (· = name)
  if way.any (g.isHtml · isSpecial) || way.length = g.stack.length then g
  else (g.closeImpliedBut name).popThrough (· = name)

/-- Where the entry of the copied formatting element goes. -/
inductive Bookmark where
  | replacing
  | after (node : Nat)

/-- Walk outward from a block to the formatting element that its end tag closes.
Elements without formatting are closed; up to three others get copies, each of
which takes the one before it as a child.  `inner` holds the open elements inside
the place reached, the outermost first; `last` is the outermost element moved so
far, and the answer. -/
def copyBetween (formatting block : Nat) :
    Nat → List Nat → List Nat → Nat → Bookmark → Growth → Nat × Bookmark × Growth
  | _, _, [], last, bookmark, g => (last, bookmark, g)
  | count, inner, node :: outer, last, bookmark, g =>
      if node = formatting then
        (last, bookmark, { g with stack := inner.reverse ++ node :: outer })
      else if 3 ≤ count then
        copyBetween formatting block (count + 1) inner outer last bookmark
          (g.forgetEntry node)
      else
        match g.entryTag? node with
        | none => copyBetween formatting block (count + 1) inner outer last bookmark g
        | some tag =>
            let (copy, g) := g.make (.element ⟨.html, tag.name⟩ tag.attributes)
            let g := g.replaceEntry node (.element copy tag)
            let bookmark := if last = block then .after copy else bookmark
            copyBetween formatting block (count + 1) (copy :: inner) outer copy bookmark
              (g.place last (.lastIn copy))

/-- One round of closing a formatting element of a name across blocks.  The answer
tells whether another round may be needed. -/
def adoptOnce (g : Growth) (name : String) : Growth × Bool :=
  match g.recentFormatting.find? fun entry => entry.2.name = name with
  | none => (g.closeOrdinary name, false)
  | some (formatting, tag) =>
      if !g.stack.contains formatting then (g.forgetEntry formatting, false)
      else if !g.scopeHas boundsScope (· = formatting) then (g, false)
      else
        let inside := g.stack.takeWhile (· ≠ formatting)
        let outside := (g.stack.dropWhile (· ≠ formatting)).tail
        match (inside.filter (g.isHtml · isSpecial)).getLast? with
        | none => (({ g with stack := outside }).forgetEntry formatting, false)
        | some block =>
            let ancestor := outside.head?.getD document
            let below := inside.takeWhile (· ≠ block)
            let between := (inside.dropWhile (· ≠ block)).tail
            let (last, bookmark, g) :=
              copyBetween formatting block 0 (block :: below.reverse)
                (between ++ formatting :: outside) block .replacing g
            let g := (g.detach last)
            let g := g.place last (g.spotIn ancestor)
            let (copy, g) := g.make (.element ⟨.html, tag.name⟩ tag.attributes)
            let g := g.moveChildren block copy
            let g := g.place copy (.lastIn block)
            let entry := Formatting.element copy tag
            let g :=
              match bookmark with
              | .replacing => g.replaceEntry formatting entry
              | .after node => (g.insertEntryAfter node entry).forgetEntry formatting
            let g := g.unstack formatting
            ({ g with
              stack := g.stack.flatMap fun n => if n = block then [copy, n] else [n] },
              true)

/-- Close a formatting element of a name, across blocks if need be. -/
def adopt (g : Growth) (name : String) : Growth :=
  match g.current? with
  | some node =>
      if g.isHtml node (· = name) && !g.hasEntry node then g.pop else rounds 8 g
  | none => g
where
  rounds : Nat → Growth → Growth
    | 0, g => g
    | n + 1, g =>
        match g.adoptOnce name with
        | (g, true) => rounds n g
        | (g, false) => g

/-- Close an `a` element that is still open, before another one begins. -/
def closeOpenAnchor (g : Growth) : Growth :=
  match g.recentFormatting.find? fun entry => g.isHtml entry.1 (· = "a") with
  | none => g
  | some (node, _) => ((g.adopt "a").forgetEntry node).unstack node

end Growth

end Html

end JavadocNames
