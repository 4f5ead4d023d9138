import JavadocNames.Text.Basic

/-!
# Tokens of a page

The markup of a page is cut into tokens before its tree is built.  Comments count
only by their place, so their text is not kept.
-/

namespace JavadocNames

namespace Html

/-- The attributes of a tag in order, each a name with its value. -/
abbrev Attributes := List (String × String)

/-- A tag: its name in lower case, its attributes, the first of each name, and
whether it ends in a slash. -/
structure Tag where
  name : String
  attributes : Attributes
  selfClosing : Bool

/-- The value of an attribute. -/
def attribute? (name : String) : Attributes → Option String
  | [] => none
  | (n, value) :: rest => if n = name then some value else attribute? name rest

/-- A document type: its name and identifiers, and whether it was malformed. -/
structure Doctype where
  name : Option Text
  publicId : Option Text
  systemId : Option Text
  malformed : Bool

/-- A token. -/
inductive Token where
  | doctype (d : Doctype)
  | startTag (tag : Tag)
  | endTag (tag : Tag)
  | comment
  | character (c : Char)
  /-- U+0000 in the text of the page. -/
  | null
  /-- Malformed markup that stands for nothing, but shields a line feed behind it from
  being dropped. -/
  | fault
  | endOfFile

/-- A character that separates the parts of a tag. -/
def isSpace (c : Char) : Bool :=
  c = ' ' || c = '\t' || c = '\n' || c = '\x0c' || c = '\r'

/-- An ASCII letter in lower case; any other character as it is. -/
def lowerAscii (text : Text) : Text :=
  text.map Char.toLower

/-- The character that stands for U+0000 where it may not occur. -/
def withoutNull (c : Char) : Char :=
  if c = '\x00' then '\uFFFD' else c

end Html

end JavadocNames
