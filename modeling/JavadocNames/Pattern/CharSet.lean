import JavadocNames.Text.Blank
import JavadocNames.Text.CaseFolding
import JavadocNames.Text.Digit
import JavadocNames.Text.Word

/-!
# Sets of characters

What one character of a pattern may stand for.  A set is kept as the expression
that a pattern spells, and membership is decided on it.
-/

namespace JavadocNames

/-- A set of characters. -/
inductive CharSet where
  | none
  | any
  | range (first last : Char)
  | word
  | digit
  | blank
  | union (a b : CharSet)
  | inter (a b : CharSet)
  | complement (a : CharSet)
  /-- The set together with the case variants of its members. -/
  | folded (a : CharSet)

namespace CharSet

/-- Membership in a set. -/
def contains : CharSet → Char → Bool
  | none, _ => false
  | any, _ => true
  | range first last, c => first ≤ c && c ≤ last
  | word, c => Text.isWord c
  | digit, c => Text.isDecimalDigit c
  | blank, c => Text.isBlank c
  | union a b, c => a.contains c || b.contains c
  | inter a b, c => a.contains c && b.contains c
  | complement a, c => !a.contains c
  | folded a, c => (Text.caseVariants c).any fun d => a.contains d

/-- The set of one character. -/
def single (c : Char) : CharSet :=
  range c c

/-- The members of the first set that are not in the second. -/
def minus (a b : CharSet) : CharSet :=
  inter a (complement b)

/-- The members of exactly one of the two sets. -/
def exclusive (a b : CharSet) : CharSet :=
  union (minus a b) (minus b a)

/-- The set under case folding, when `fold` is on. -/
def foldedIf (fold : Bool) (a : CharSet) : CharSet :=
  if fold then folded a else a

/-- The complement of the set, when `negate` is on. -/
def complementIf (negate : Bool) (a : CharSet) : CharSet :=
  if negate then complement a else a

/-- The union of ranges. -/
def ranges (pairs : List (Char × Char)) : CharSet :=
  pairs.foldr (fun p set => union (range p.1 p.2) set) none

/-- The named sets of ASCII characters, written `[:name:]` inside brackets. -/
def named? (name : Text) : Option CharSet :=
  (table.find? fun entry => entry.1.toList = name).map (·.2)
where
  table : List (String × CharSet) :=
    [("alnum", ranges [('0', '9'), ('A', 'Z'), ('a', 'z')]),
      ("alpha", ranges [('A', 'Z'), ('a', 'z')]),
      ("ascii", ranges [('\x00', '\x7F')]),
      ("blank", ranges [('\t', '\t'), (' ', ' ')]),
      ("cntrl", ranges [('\x00', '\x1F'), ('\x7F', '\x7F')]),
      ("digit", ranges [('0', '9')]),
      ("graph", ranges [('!', '~')]),
      ("lower", ranges [('a', 'z')]),
      ("print", ranges [(' ', '~')]),
      ("punct", ranges [('!', '/'), (':', '@'), ('[', '\x60'), ('\x7B', '~')]),
      ("space", ranges [('\t', '\r'), (' ', ' ')]),
      ("upper", ranges [('A', 'Z')]),
      ("word", ranges [('0', '9'), ('A', 'Z'), ('_', '_'), ('a', 'z')]),
      ("xdigit", ranges [('0', '9'), ('A', 'F'), ('a', 'f')])]

end CharSet

end JavadocNames
