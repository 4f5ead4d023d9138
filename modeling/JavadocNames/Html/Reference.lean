import JavadocNames.Html.ReferenceNames
import JavadocNames.Html.Token

/-!
# Character references

An ampersand may begin a reference: `&#` and a number, or a name, of which the
longest that fits is taken.  In an attribute a name without semicolon is left
alone before an equals sign, a letter or a digit.
-/

namespace JavadocNames

namespace Html

/-- The characters that the numbers from 0x80 to 0x9F stand for, 0 where a number
stands for itself. -/
def windowsCharacters : List Nat :=
  [0x20AC, 0, 0x201A, 0x0192, 0x201E, 0x2026, 0x2020, 0x2021,
    0x02C6, 0x2030, 0x0160, 0x2039, 0x0152, 0, 0x017D, 0,
    0, 0x2018, 0x2019, 0x201C, 0x201D, 0x2022, 0x2013, 0x2014,
    0x02DC, 0x2122, 0x0161, 0x203A, 0x0153, 0, 0x017E, 0x0178]

/-- The character with a number in a reference.  Numbers that are no character
give U+FFFD. -/
def numberedCharacter (n : Nat) : Char :=
  if n = 0 || !n.isValidChar then '\uFFFD'
  else if 0x80 ≤ n && n ≤ 0x9F then
    match windowsCharacters[n - 0x80]? with
    | some 0 => Char.ofNat n
    | some m => Char.ofNat m
    | none => Char.ofNat n
  else Char.ofNat n

/-- Drop a semicolon at the start of a text. -/
def dropSemicolon : Text → Text
  | ';' :: rest => rest
  | rest => rest

/-- A hexadecimal digit of either case. -/
def isHexDigit (c : Char) : Bool :=
  c.isDigit || ('a' ≤ c.toLower && c.toLower ≤ 'f')

/-- A reference by number, after `&#`. -/
def readNumber (text : Text) : Option (Text × Text) :=
  let (base, digits, rest) :=
    match text with
    | 'x' :: rest => (16, rest.takeWhile isHexDigit, rest.dropWhile isHexDigit)
    | 'X' :: rest => (16, rest.takeWhile isHexDigit, rest.dropWhile isHexDigit)
    | _ => (10, text.takeWhile Char.isDigit, text.dropWhile Char.isDigit)
  if digits = [] then none
  else
    let n := digits.foldl (fun n c => base * n + hexDigitValue c.toLower) 0
    some ([numberedCharacter n], dropSemicolon rest)

/-- The longest name of a reference at the start of a text. -/
def longestName (text : Text) : Option (Text × Text) :=
  references.foldl
    (fun best entry =>
      if entry.1.isPrefixOf text &&
          best.all (fun b => b.1.length < entry.1.length) then some entry
      else best)
    none

/-- A reference by name, after the ampersand. -/
def readName (inAttribute : Bool) (text : Text) : Option (Text × Text) :=
  match longestName text with
  | none => none
  | some (name, characters) =>
      let rest := text.drop name.length
      let bound := name.getLast? ≠ some ';' &&
        rest.head?.any (fun c => c = '=' || c.isAlphanum)
      if inAttribute && bound then none else some (characters, rest)

/-- The characters of a reference and the text after it; `none` when the text
after an ampersand is no reference. -/
def readReference (inAttribute : Bool) (text : Text) : Option (Text × Text) :=
  match text with
  | '#' :: rest => readNumber rest
  | c :: _ => if c.isAlphanum then readName inAttribute text else none
  | [] => none

/-- The value of an attribute, its references replaced.  Each step uses up a
character, so the length of the text is enough `fuel`. -/
def decodeValue : Nat → Text → Text
  | 0, _ => []
  | _ + 1, [] => []
  | fuel + 1, c :: rest =>
      if c = '&' then
        match readReference true rest with
        | some (characters, rest) => characters ++ decodeValue fuel rest
        | none => c :: decodeValue fuel rest
      else withoutNull c :: decodeValue fuel rest

end Html

end JavadocNames
