import JavadocNames.Pattern.CharSet

/-!
# Patterns

Regular expressions with numbered groups.  Of several ways to match, the one that
is first in the order of preference counts: the left branch of a choice before
the right one, another repetition before stopping when the repetition is greedy,
and after it when it is lazy.
-/

namespace JavadocNames

/-- A condition on a place in the text, between two characters. -/
inductive Anchor where
  | textStart
  | textEnd
  | lineStart
  | lineEnd
  | wordBoundary
  | noWordBoundary
  | wordStart
  | wordEnd
  | wordStartHalf
  | wordEndHalf
  deriving DecidableEq

/-- A regular expression. -/
inductive Pattern where
  | empty
  | one (set : CharSet)
  | anchor (condition : Anchor)
  | group (index : Nat) (body : Pattern)
  | sequence (first second : Pattern)
  | choice (first second : Pattern)
  | repeated (greedy : Bool) (least : Nat) (most : Option Nat) (body : Pattern)

namespace Pattern

/-- The pattern has a part that stands for a character. -/
def consumes : Pattern → Bool
  | empty => false
  | one _ => true
  | anchor _ => false
  | group _ body => consumes body
  | sequence first second => consumes first || consumes second
  | choice first second => consumes first || consumes second
  | repeated _ _ _ body => consumes body

/-- A repetition of a pattern.  One round of a pattern without characters is as
good as many; no round leaves no group behind; a single round is the pattern. -/
def rounds (greedy : Bool) (least : Nat) (most : Option Nat) (body : Pattern) :
    Pattern :=
  let (least, most) :=
    if body.consumes then (least, most)
    else (min least 1, some (min (most.getD 1) 1))
  match least, most with
  | 0, some 0 => empty
  | 1, some 1 => body
  | _, _ => repeated greedy least most body

end Pattern

/-- A place in a text: how many characters precede it, the last of them, and the
characters that follow. -/
structure Cursor where
  position : Nat
  previous : Option Char
  rest : Text

namespace Cursor

/-- The places of a text whose first character stands at `position`, after
`previous`; the last place is the end. -/
def places (position : Nat) (previous : Option Char) : Text → List Cursor
  | [] => [⟨position, previous, []⟩]
  | c :: rest => ⟨position, previous, c :: rest⟩ :: places (position + 1) (some c) rest

/-- A word character, when there is a character at all. -/
def isWordAt (c : Option Char) : Bool :=
  c.any Text.isWord

/-- The condition holds at this place. -/
def satisfies (cursor : Cursor) (condition : Anchor) : Bool :=
  let left := isWordAt cursor.previous
  let right := isWordAt cursor.rest.head?
  match condition with
  | .textStart => cursor.previous.isNone
  | .textEnd => cursor.rest.isEmpty
  | .lineStart => cursor.previous.isNone || cursor.previous = some '\n'
  | .lineEnd => cursor.rest.isEmpty || cursor.rest.head? = some '\n'
  | .wordBoundary => left != right
  | .noWordBoundary => left == right
  | .wordStart => !left && right
  | .wordEnd => left && !right
  | .wordStartHalf => !left
  | .wordEndHalf => !right

end Cursor

/-- The place where a group begins or ends. -/
inductive Mark where
  | opened (group : Nat) (place : Cursor)
  | closed (group : Nat) (place : Cursor)

namespace Mark

/-- The place where the given group begins. -/
def openedAt? (group : Nat) : Mark → Option Cursor
  | opened index place => if index = group then some place else none
  | closed _ _ => none

/-- The place where the given group ends. -/
def closedAt? (group : Nat) : Mark → Option Cursor
  | opened _ _ => none
  | closed index place => if index = group then some place else none

end Mark

/-- A way from a place to the end of a match: the marks that it passes, in order,
and the place where it ends. -/
structure Way where
  marks : List Mark
  stop : Cursor

namespace Way

/-- The way that ends where it starts. -/
def here (place : Cursor) : Way :=
  ⟨[], place⟩

/-- The way that passes some marks before. -/
def after (marks : List Mark) (way : Way) : Way :=
  { way with marks := marks ++ way.marks }

/-- The text of the last stretch of a group; `none` when the way does not pass
through the group. -/
def groupText? (way : Way) (group : Nat) : Option Text := do
  let first ← way.marks.reverse.findSome? (·.openedAt? group)
  let last ← way.marks.reverse.findSome? (·.closedAt? group)
  return first.rest.take (last.position - first.position)

end Way

/-- A match: the place where it starts, and the way to its end. -/
structure Match where
  start : Cursor
  way : Way

/-- The match lies behind a match that ended at `last`, and is not empty if it
starts there. -/
def Match.isBehind (found : Match) (last : Nat) : Bool :=
  last ≤ found.start.position && last < found.way.stop.position

end JavadocNames
