import JavadocNames.Pattern.Basic
import JavadocNames.Text.Letter

/-!
# How patterns are written

The written form of patterns: literals, `.`, bracketed sets with the operators
`&&`, `--` and `~~`, the escapes `\d \s \w` and their complements, anchors, groups
(numbered, named and plain), alternatives, repetitions, and the flags `i`, `m`,
`s` and `U`.  Reading goes once over the text and keeps a stack of what is open; it
counts the levels on which parts are nested, which are limited.
A text that uses more than this is refused: property classes such as `\pL`, the flags `x`
and `R`, and the flag `u` switched off, with the line ends and word boundaries that go with
them.  What holds whatever the pattern is said of every engine, see `Extractor`.
-/

namespace JavadocNames

namespace Pattern

/-- What a flag letter switches on or off from its place to the end of the group. -/
structure Flags where
  ignoreCase : Bool
  multiLine : Bool
  dotAll : Bool
  swapGreed : Bool

/-- The flags at the start of a pattern. -/
def Flags.off : Flags :=
  ⟨false, false, false, false⟩

/-- What a backslash and the characters after it stand for. -/
inductive Escape where
  | literal (c : Char)
  | set (s : CharSet)
  | anchor (a : Anchor)

/-- The value of a hexadecimal digit. -/
def hexValue? (c : Char) : Option Nat :=
  if '0' ≤ c && c ≤ '9' then some (c.toNat - '0'.toNat)
  else if 'a' ≤ c && c ≤ 'f' then some (c.toNat - 'a'.toNat + 10)
  else if 'A' ≤ c && c ≤ 'F' then some (c.toNat - 'A'.toNat + 10)
  else none

/-- The number that hexadecimal digits spell. -/
def hexNumber? (digits : Text) : Option Nat :=
  digits.foldlM (fun n c => (hexValue? c).map (16 * n + ·)) 0

/-- The character with a number. -/
def charOfNumber? (n : Nat) : Option Char :=
  if n.isValidChar then some (Char.ofNat n) else none

/-- A character given by `width` hexadecimal digits, or by any number of them in
braces. -/
def readHex (width : Nat) : Text → Option (Escape × Text)
  | '{' :: rest =>
      let digits := rest.takeWhile (· ≠ '}')
      match rest.dropWhile (· ≠ '}') with
      | [] => none
      | _ :: after =>
          if digits = [] then none
          else do
            let c ← charOfNumber? (← hexNumber? digits)
            return (.literal c, after)
  | rest =>
      let digits := rest.take width
      if digits.length < width then none
      else do
        let c ← charOfNumber? (← hexNumber? digits)
        return (.literal c, rest.drop width)

/-- The kinds of word boundary that may stand in braces after `\b`. -/
def boundaryNamed? (name : Text) : Option Anchor :=
  if name = "start".toList then some .wordStart
  else if name = "end".toList then some .wordEnd
  else if name = "start-half".toList then some .wordStartHalf
  else if name = "end-half".toList then some .wordEndHalf
  else none

/-- A letter or hyphen, of which the names of boundaries are made. -/
def isBoundaryLetter (c : Char) : Bool :=
  c.isAlpha || c = '-'

/-- What follows `\b`: a named kind of boundary in braces, or nothing.  Braces
that hold anything but letters and hyphens belong to a repetition. -/
def readBoundary (rest : Text) : Option (Escape × Text) :=
  match rest with
  | '{' :: c :: more =>
      if isBoundaryLetter c then
        match (c :: more).dropWhile isBoundaryLetter with
        | '}' :: after =>
            (boundaryNamed? ((c :: more).takeWhile isBoundaryLetter)).map
              fun a => (.anchor a, after)
        | _ => none
      else some (.anchor .wordBoundary, rest)
  | _ => some (.anchor .wordBoundary, rest)

/-- The meaning of the characters after a backslash. -/
def readEscape : Text → Option (Escape × Text)
  | [] => none
  | c :: rest =>
      match c with
      | 'd' => some (.set .digit, rest)
      | 'D' => some (.set (.complement .digit), rest)
      | 's' => some (.set .blank, rest)
      | 'S' => some (.set (.complement .blank), rest)
      | 'w' => some (.set .word, rest)
      | 'W' => some (.set (.complement .word), rest)
      | 'a' => some (.literal '\x07', rest)
      | 'f' => some (.literal '\x0C', rest)
      | 'n' => some (.literal '\n', rest)
      | 'r' => some (.literal '\r', rest)
      | 't' => some (.literal '\t', rest)
      | 'v' => some (.literal '\x0B', rest)
      | 'x' => readHex 2 rest
      | 'u' => readHex 4 rest
      | 'U' => readHex 8 rest
      | 'A' => some (.anchor .textStart, rest)
      | 'z' => some (.anchor .textEnd, rest)
      | 'b' => readBoundary rest
      | 'B' => some (.anchor .noWordBoundary, rest)
      | '<' => some (.anchor .wordStart, rest)
      | '>' => some (.anchor .wordEnd, rest)
      | _ =>
          if c.toNat < 0x80 && !c.isAlphanum then some (.literal c, rest) else none

/-! ## Bracketed sets -/

/-- A set and the number of levels on which its expression is nested. -/
structure DeepSet where
  set : CharSet
  depth : Nat

/-- A bracketed set that is still open: whether it is a complement, the operators
waiting for their right side and the depth of their left side, and the union of the
items since the last one, how many they are, and their depth. -/
structure OpenSet where
  negated : Bool
  waiting : Option (Nat × (CharSet → CharSet))
  items : CharSet
  count : Nat
  depth : Nat

namespace OpenSet

/-- A set without items. -/
def new (negated : Bool) : OpenSet :=
  ⟨negated, none, .none, 0, 0⟩

/-- Add an item. -/
def add (o : OpenSet) (item : DeepSet) : OpenSet :=
  { o with
    items := .union o.items item.set
    count := o.count + 1
    depth := max o.depth item.depth }

/-- Add an item of a single character. -/
def addSingle (o : OpenSet) (c : Char) : OpenSet :=
  o.add ⟨.single c, 0⟩

/-- The value of the items and of the operators before them.  Several items are one
level deeper than the deepest of them, and so are the two sides of an operator. -/
def value (o : OpenSet) (fold : Bool) : DeepSet :=
  let depth := if o.count ≤ 1 then o.depth else o.depth + 1
  match o.waiting with
  | none => ⟨o.items, depth⟩
  | some (left, apply) => ⟨apply (o.items.foldedIf fold), max left depth + 1⟩

/-- Let an operator wait for its right side. -/
def wait (o : OpenSet) (fold : Bool) (op : CharSet → CharSet → CharSet) : OpenSet :=
  let left := o.value fold
  { new o.negated with waiting := some (left.depth, op (left.set.foldedIf fold)) }

/-- The finished set, whose brackets are a level of their own. -/
def close (o : OpenSet) (fold : Bool) : DeepSet :=
  let whole := o.value fold
  ⟨(whole.set.foldedIf fold).complementIf o.negated, whole.depth + 1⟩

end OpenSet

/-- Add hyphens, which stand for themselves at the start of a set. -/
def leadingHyphens (o : OpenSet) : Text → OpenSet × Text
  | '-' :: rest => leadingHyphens (o.addSingle '-') rest
  | rest => (o, rest)

/-- What follows an opening bracket: `^`, hyphens, and a closing bracket that
stands for itself because it comes first. -/
def openSet (text : Text) : OpenSet × Text :=
  let (negated, text) := match text with
    | '^' :: rest => (true, rest)
    | _ => (false, text)
  let (o, text) := leadingHyphens (.new negated) text
  match text with
  | ']' :: rest => if o.count = 0 then (o.addSingle ']', rest) else (o, text)
  | _ => (o, text)

/-- A named set after `[:`; `none` when the text is not of that form. -/
def readNamedSet (fold : Bool) (text : Text) : Option (CharSet × Text) :=
  let (negated, text) := match text with
    | '^' :: rest => (true, rest)
    | _ => (false, text)
  match text.dropWhile (· ≠ ':') with
  | ':' :: ']' :: rest =>
      (CharSet.named? (text.takeWhile (· ≠ ':'))).map
        fun s => ((s.foldedIf fold).complementIf negated, rest)
  | _ => none

/-- One item of a set: a character or an escape. -/
def readItem : Text → Option (Escape × Text)
  | [] => none
  | '\\' :: rest => readEscape rest
  | c :: rest => some (.literal c, rest)

/-- An item, or a range when a hyphen and another character follow. -/
def readRange (text : Text) : Option (CharSet × Text) := do
  let (first, rest) ← readItem text
  let alone : Option (CharSet × Text) :=
    match first with
    | .literal c => some (CharSet.single c, rest)
    | .set s => some (s, rest)
    | .anchor _ => none
  match rest with
  | [] => none
  | '-' :: ']' :: _ => alone
  | '-' :: '-' :: _ => alone
  | '-' :: more =>
      let (last, after) ← readItem more
      match first, last with
      | .literal a, .literal b => if a ≤ b then some (.range a b, after) else none
      | _, _ => none
  | _ => alone

/-- Read sets up to the bracket that closes the outermost one.  Each step uses up
some characters, so the length of the text is enough `fuel`. -/
def readSet (fold : Bool) : Nat → OpenSet → List OpenSet → Text →
    Option (DeepSet × Text)
  | 0, _, _, _ => none
  | fuel + 1, current, outer, text =>
      match text with
      | [] => none
      | '[' :: ':' :: rest =>
          match readNamedSet fold rest with
          | some (s, rest) => readSet fold fuel (current.add ⟨s, 0⟩) outer rest
          | none =>
              let (inner, rest) := openSet (':' :: rest)
              readSet fold fuel inner (current :: outer) rest
      | '[' :: rest =>
          let (inner, rest) := openSet rest
          readSet fold fuel inner (current :: outer) rest
      | ']' :: rest =>
          match outer with
          | [] => some (current.close fold, rest)
          | o :: outer => readSet fold fuel (o.add (current.close fold)) outer rest
      | '&' :: '&' :: rest => readSet fold fuel (current.wait fold .inter) outer rest
      | '-' :: '-' :: rest => readSet fold fuel (current.wait fold .minus) outer rest
      | '~' :: '~' :: rest =>
          readSet fold fuel (current.wait fold .exclusive) outer rest
      | _ => do
          let (s, rest) ← readRange text
          readSet fold fuel (current.add ⟨s, 0⟩) outer rest

/-! ## Groups and repetitions -/

/-- A part of a pattern: what it matches, the number of levels on which it is
nested, and whether a repetition may follow it. -/
structure Part where
  pattern : Pattern
  depth : Nat
  repeatable : Bool

namespace Part

/-- A part on its own. -/
def leaf (pattern : Pattern) : Part :=
  ⟨pattern, 0, true⟩

/-- The greatest depth of some parts. -/
def depthOf (parts : List Part) : Nat :=
  (parts.map depth).foldl max 0

/-- Patterns in order, listed with the last one first. -/
def ordered : List Pattern → Pattern
  | [] => .empty
  | [pattern] => pattern
  | pattern :: before => .sequence (ordered before) pattern

/-- Parts in order, listed with the last one first.  Several parts are one level
deeper than the deepest of them. -/
def inOrder : List Part → Part
  | [] => leaf .empty
  | [part] => part
  | parts => ⟨ordered (parts.map pattern), depthOf parts + 1, true⟩

/-- Alternatives, listed with the last one first and without it.  Several
alternatives are one level deeper than the deepest of them. -/
def anyOf (last : Part) (before : List Part) : Part :=
  match before with
  | [] => last
  | _ =>
      ⟨(before.map pattern).foldl (fun later choice => .choice choice later) last.pattern,
        depthOf (last :: before) + 1, true⟩

end Part

/-- A group that is open: its number if it has one, the flags at this place, the
alternatives that are finished and the parts of the one that is not, both with
the last one first. -/
structure Level where
  index : Option Nat
  flags : Flags
  choices : List Part
  parts : List Part

namespace Level

/-- A group of which nothing has been read. -/
def new (index : Option Nat) (flags : Flags) : Level :=
  ⟨index, flags, [], []⟩

/-- Add a part. -/
def push (level : Level) (part : Part) : Level :=
  { level with parts := part :: level.parts }

/-- Set the flags.  The setting is an empty part that cannot be repeated. -/
def setFlags (level : Level) (flags : Flags) : Level :=
  { level.push ⟨.empty, 0, false⟩ with flags := flags }

/-- End an alternative. -/
def nextChoice (level : Level) : Level :=
  { level with choices := Part.inOrder level.parts :: level.choices, parts := [] }

/-- The alternatives of a finished group. -/
def body (level : Level) : Part :=
  Part.anyOf (Part.inOrder level.parts) level.choices

/-- A finished group. -/
def close (level : Level) : Part :=
  let body := level.body
  match level.index with
  | some index => ⟨.group index body.pattern, body.depth + 1, true⟩
  | none => ⟨body.pattern, body.depth + 1, true⟩

/-- Repeat the last part; `none` when there is nothing to repeat. -/
def repeatLast (level : Level) (greedy : Bool) (least : Nat) (most : Option Nat) :
    Option Level :=
  match level.parts with
  | [] => none
  | part :: before =>
      if part.repeatable then
        let rounds :=
          Pattern.rounds (greedy != level.flags.swapGreed) least most part.pattern
        some { level with parts := ⟨rounds, part.depth + 1, true⟩ :: before }
      else none

end Level

/-- A question mark after a repetition makes it lazy. -/
def readGreed : Text → Bool × Text
  | '?' :: rest => (false, rest)
  | rest => (true, rest)

/-- A number in decimal digits, below 2^32, with blanks around it. -/
def readCount (text : Text) : Option (Nat × Text) :=
  let text := text.dropWhile Text.isBlank
  let digits := text.takeWhile Char.isDigit
  let n := Nat.ofDigitChars 10 digits 0
  if digits = [] || 0x100000000 ≤ n then none
  else some (n, (text.dropWhile Char.isDigit).dropWhile Text.isBlank)

/-- The bounds of a repetition, after the opening brace. -/
def readBounds (text : Text) : Option (Nat × Option Nat × Text) := do
  let (least, rest) ← readCount text
  match rest with
  | '}' :: rest => some (least, some least, rest)
  | ',' :: '}' :: rest => some (least, none, rest)
  | ',' :: rest =>
      let (most, rest) ← readCount rest
      match rest with
      | '}' :: rest => if least ≤ most then some (least, some most, rest) else none
      | _ => none
  | _ => none

/-- A character that a group name may start with. -/
def isNameStart (c : Char) : Bool :=
  c = '_' || Text.isLetter c

/-- A character that a group name may continue with. -/
def isNamePart (c : Char) : Bool :=
  c = '_' || c = '.' || c = '[' || c = ']' || Text.isLetterOrNumber c

/-- A group name up to its closing bracket. -/
def readName (text : Text) : Option (Text × Text) :=
  let name := text.takeWhile (· ≠ '>')
  match name, text.dropWhile (· ≠ '>') with
  | c :: more, _ :: rest =>
      if isNameStart c && more.all isNamePart then some (name, rest) else none
  | _, _ => none

/-- Set one flag; `none` for a letter that is no flag. -/
def Flags.set? (flags : Flags) (on : Bool) : Char → Option Flags
  | 'i' => some { flags with ignoreCase := on }
  | 'm' => some { flags with multiLine := on }
  | 's' => some { flags with dotAll := on }
  | 'U' => some { flags with swapGreed := on }
  | 'u' => if on then some flags else none
  | _ => none

/-- Read flag letters, after `(?`.  A letter occurs once, a hyphen turns the
letters after it off.  The answer tells whether a colon ended them, which opens a
group. -/
def readFlags (flags : Flags) (seen : List Char) (on : Bool) :
    Text → Option (Flags × Bool × Text)
  | [] => none
  | c :: rest =>
      if c = ':' || c = ')' then
        if seen.head? = some '-' || seen = [] && c = ')' then none
        else some (flags, c = ':', rest)
      else if c ∈ seen then none
      else if c = '-' then readFlags flags ('-' :: seen) false rest
      else
        match flags.set? on c with
        | some flags => readFlags flags (c :: seen) on rest
        | none => none

/-- The state of reading: the innermost open group, the groups around it, the
number of the next group, and the names in use. -/
structure Reader where
  level : Level
  outer : List Level
  nextIndex : Nat
  names : List Text

namespace Reader

/-- Nothing has been read. -/
def new : Reader :=
  ⟨Level.new none Flags.off, [], 1, []⟩

/-- Add a part to the innermost group. -/
def push (r : Reader) (part : Part) : Reader :=
  { r with level := r.level.push part }

/-- Add a part that is not nested. -/
def pushLeaf (r : Reader) (pattern : Pattern) : Reader :=
  r.push (.leaf pattern)

/-- Open a group. -/
def openGroup (r : Reader) (index : Option Nat) (flags : Flags) : Reader :=
  { r with level := Level.new index flags, outer := r.level :: r.outer }

/-- Open the next numbered group. -/
def openNumbered (r : Reader) : Reader :=
  { r.openGroup (some r.nextIndex) r.level.flags with nextIndex := r.nextIndex + 1 }

/-- Open a named group; `none` when the name is in use. -/
def openNamed (r : Reader) (name : Text) : Option Reader :=
  if name ∈ r.names then none
  else some { r.openNumbered with names := name :: r.names }

/-- Close the innermost group; `none` when there is none. -/
def closeGroup (r : Reader) : Option Reader :=
  match r.outer with
  | [] => none
  | o :: outer => some { r with level := o.push r.level.close, outer := outer }

/-- Repeat the last part. -/
def repeatLast (r : Reader) (greedy : Bool) (least : Nat) (most : Option Nat) :
    Option Reader :=
  (r.level.repeatLast greedy least most).map fun level => { r with level := level }

/-- What follows an opening parenthesis. -/
def readGroup (r : Reader) (text : Text) : Option (Reader × Text) :=
  match text with
  | '?' :: '=' :: _ => none
  | '?' :: '!' :: _ => none
  | '?' :: '<' :: '=' :: _ => none
  | '?' :: '<' :: '!' :: _ => none
  | '?' :: 'P' :: '<' :: rest => do
      let (name, rest) ← readName rest
      return (← r.openNamed name, rest)
  | '?' :: '<' :: rest => do
      let (name, rest) ← readName rest
      return (← r.openNamed name, rest)
  | '?' :: rest => do
      let (flags, isGroup, rest) ← readFlags r.level.flags [] true rest
      if isGroup then return (r.openGroup none flags, rest)
      else return ({ r with level := r.level.setFlags flags }, rest)
  | rest => some (r.openNumbered, rest)

/-- A character as a part of a pattern. -/
def literal (r : Reader) (c : Char) : Pattern :=
  .one ((CharSet.single c).foldedIf r.level.flags.ignoreCase)

/-- One step of reading: a part, a repetition, or the start or end of a group. -/
def step (r : Reader) : Char → Text → Option (Reader × Text)
  | '(', rest => r.readGroup rest
  | ')', rest => r.closeGroup.map (·, rest)
  | '|', rest => some ({ r with level := r.level.nextChoice }, rest)
  | '[', rest => do
      let (current, text) := openSet rest
      let (s, rest) ← readSet r.level.flags.ignoreCase (text.length + 1) current [] text
      return (r.push ⟨.one s.set, s.depth, true⟩, rest)
  | '*', rest =>
      let (greedy, rest) := readGreed rest
      (r.repeatLast greedy 0 none).map (·, rest)
  | '+', rest =>
      let (greedy, rest) := readGreed rest
      (r.repeatLast greedy 1 none).map (·, rest)
  | '?', rest =>
      let (greedy, rest) := readGreed rest
      (r.repeatLast greedy 0 (some 1)).map (·, rest)
  | '{', rest => do
      let (least, most, rest) ← readBounds rest
      let (greedy, rest) := readGreed rest
      return (← r.repeatLast greedy least most, rest)
  | '.', rest =>
      some
        (r.pushLeaf (.one (if r.level.flags.dotAll then .any
          else .complement (CharSet.single '\n'))), rest)
  | '^', rest =>
      some
        (r.pushLeaf (.anchor (if r.level.flags.multiLine then .lineStart else .textStart)),
          rest)
  | '$', rest =>
      some
        (r.pushLeaf (.anchor (if r.level.flags.multiLine then .lineEnd else .textEnd)), rest)
  | '\\', rest => do
      let (escape, rest) ← readEscape rest
      match escape with
      | .literal c => return (r.pushLeaf (r.literal c), rest)
      | .set s => return (r.pushLeaf (.one s), rest)
      | .anchor a => return (r.pushLeaf (.anchor a), rest)
  | c, rest => some (r.pushLeaf (r.literal c), rest)

/-- How many levels the parts of a pattern may be nested on. -/
def deepest : Nat :=
  250

/-- Read to the end of the text, where no group may be open and the pattern may not
be nested too deeply.  Each step uses up some characters, so the length of the text
is enough `fuel`. -/
def readAll : Nat → Reader → Text → Option Pattern
  | 0, _, _ => none
  | fuel + 1, r, text =>
      match text with
      | [] =>
          let body := r.level.body
          if r.outer = [] && body.depth ≤ deepest then some body.pattern else none
      | c :: rest => do
          let (r, rest) ← r.step c rest
          readAll fuel r rest

end Reader

/-- The pattern that a text spells; `none` when it spells none. -/
def read? (text : Text) : Option Pattern :=
  Reader.new.readAll (text.length + 1) text

end Pattern

end JavadocNames
