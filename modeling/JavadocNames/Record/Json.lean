import JavadocNames.Record.Basic

/-!
# Records as JSON objects

A record is one object without blanks, its seven fields in a fixed order.  In a
string the quote, the backslash and the characters below U+0020 are escaped, by a
letter where JSON has one; every other character stands for itself.
-/

namespace JavadocNames

namespace Json

/-- A hexadecimal digit, in lower case. -/
def hexDigit (n : Nat) : Char :=
  Nat.digitChar n

/-- A character inside a JSON string. -/
def escape (c : Char) : Text :=
  if c = '"' then ['\\', '"']
  else if c = '\\' then ['\\', '\\']
  else if c = '\x08' then ['\\', 'b']
  else if c = '\t' then ['\\', 't']
  else if c = '\n' then ['\\', 'n']
  else if c = '\x0c' then ['\\', 'f']
  else if c = '\r' then ['\\', 'r']
  else if c.toNat < 0x20 then
    ['\\', 'u', '0', '0', hexDigit (c.toNat / 16), hexDigit (c.toNat % 16)]
  else [c]

/-- A text as a JSON string. -/
def quoted (text : Text) : Text :=
  '"' :: text.flatMap escape ++ ['"']

/-- A field: its name, a colon and the written value. -/
def field (name value : Text) : Text :=
  quoted name ++ ':' :: value

/-- An object of the given written fields. -/
def object (fields : List Text) : Text :=
  '{' :: Text.join [','] fields ++ ['}']

end Json

namespace NamingRecord

/-- The record as a JSON object. -/
def jsonObject (r : NamingRecord) : Text :=
  Json.object
    [Json.field "package".toList (Json.quoted r.package),
      Json.field "class".toList (Json.quoted r.className),
      Json.field "method".toList (Json.quoted r.method),
      Json.field "parameter".toList (Json.quoted r.parameter),
      Json.field "position".toList (Text.decimal r.position),
      Json.field "total".toList (Text.decimal r.total),
      Json.field "overload".toList (Text.decimal r.overload)]

end NamingRecord

end JavadocNames
