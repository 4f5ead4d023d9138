import JavadocNames.Text.Basic

/-!
# The text of a row

A signature in a summary table may hold no-break spaces, decoded or spelled
`&nbsp;`, and line ends.  Before it is read, each of them becomes one plain space.
-/

namespace JavadocNames

namespace RowText

/-- A no-break space spelled as a character reference. -/
def spelledSpace : Text :=
  "&nbsp;".toList

/-- The decoded no-break space. -/
def noBreakSpace : Char :=
  '\u00A0'

/-- The text with a plain space for each no-break space, decoded or spelled, and
for each line end, `\r\n` or `\n`.  A lone `\r` stays. -/
def normalize (text : Text) : Text :=
  let spelled := Text.replace spelledSpace [' '] text
  let decoded := Text.replace [noBreakSpace] [' '] spelled
  let joined := Text.replace ['\r', '\n'] [' '] decoded
  Text.replace ['\n'] [' '] joined

end RowText

end JavadocNames
