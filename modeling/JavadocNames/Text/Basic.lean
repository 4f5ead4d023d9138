/-!
# Text

A text is a list of Unicode characters.  This file holds the few operations on
texts that the rest of the library is built from: replacing a word, cutting at a
character, joining lines, and writing a number in decimal.
-/

namespace JavadocNames

/-- A text: its characters in order. -/
abbrev Text := List Char

namespace Text

/-- Copy a text from its `skip`-th character on, writing `new` for each
occurrence of the word `old`.  Occurrences are taken from the left and do not
overlap. -/
def replaceFrom (old new : Text) : Nat → Text → Text
  | _, [] => []
  | skip + 1, _ :: rest => replaceFrom old new skip rest
  | 0, c :: rest =>
      if old.isPrefixOf (c :: rest) then
        new ++ replaceFrom old new (old.length - 1) rest
      else
        c :: replaceFrom old new 0 rest

/-- Write `new` for every occurrence of the non-empty word `old`. -/
def replace (old new text : Text) : Text :=
  replaceFrom old new 0 text

/-- The part of a text before the first occurrence of `stop`; all of it when
there is none. -/
def before (stop : Char) (text : Text) : Text :=
  text.takeWhile (· ≠ stop)

/-- A natural number in decimal digits. -/
def decimal (n : Nat) : Text :=
  Nat.toDigits 10 n

/-- An integer in decimal digits, behind a minus sign if it is negative. -/
def signed : Int → Text
  | .ofNat n => decimal n
  | .negSucc n => '-' :: decimal (n + 1)

/-- Join texts with a separator between neighbours. -/
def join (separator : Text) (texts : List Text) : Text :=
  separator.intercalate texts

/-- A line: the text and the line feed that ends it. -/
def line (text : Text) : Text :=
  text ++ ['\n']

end Text

end JavadocNames
