import JavadocNames.Text.Utf8

/-!
# Printable text

A text that came from outside may steer a terminal.  Before it is shown in a
message, control characters and control sequences are taken out of it; line ends,
tabs and spaces stay.
-/

namespace JavadocNames

namespace Text

/-- How far into a control sequence a text is. -/
inductive ControlState where
  | outside
  /-- After the escape character. -/
  | escape
  /-- After the escape character and an intermediate one. -/
  | intermediate
  /-- Among the parameters of a control sequence. -/
  | parameters
  /-- In a command for the operating system, which a bell may end. -/
  | command
  /-- At the start of a string for a device. -/
  | device
  /-- Among the parameters of a string for a device. -/
  | deviceParameters
  /-- Behind the parameters of a string for a device. -/
  | deviceIntermediate
  /-- In a string, which the string terminator may end. -/
  | string

/-- A character between two others. -/
def isBetween (first last c : Char) : Bool :=
  first ≤ c && c ≤ last

/-- A control character that is white space. -/
def isLayout (c : Char) : Bool :=
  c = '\t' || c = '\n' || c = '\x0c' || c = '\r'

/-- The byte that ends a string.  It counts also inside the UTF-8 form of a
character. -/
def stringTerminator : UInt8 := 0x9C

/-- The state after a character outside all strings, where `ends` are the
characters that end a sequence; `none` when the character is shown. -/
def sequenceStep (state : ControlState) (ends : Char → Bool) (c : Char) :
    Option ControlState :=
  if isLayout c then none
  else if ends c then some .outside
  else some state

/-- The state after the character that follows the escape character. -/
def escapeStep (c : Char) : Option ControlState :=
  match c with
  | '[' => some .parameters
  | ']' => some .command
  | 'P' => some .device
  | 'X' | '^' | '_' => some .string
  | _ =>
      if isBetween ' ' '/' c then some .intermediate
      else sequenceStep .escape (isBetween '0' '~') c

/-- The state after a character before the contents of a string for a device, where
`starts` are the characters with which the contents start or the string is
broken. -/
def deviceStep (state : ControlState) (starts : Char → Bool) (c : Char) :
    ControlState :=
  if starts c || isBetween '@' '~' c then .string
  else if isBetween ' ' '/' c then .deviceIntermediate
  else if isBetween '0' '?' c then .deviceParameters
  else state

/-- The state after a character; `none` when the character is shown, which ends any
sequence. -/
def controlStep (state : ControlState) (c : Char) : Option ControlState :=
  if c = '\x1b' then some .escape
  else if c = '\x18' || c = '\x1a' then some .outside
  else
    match state with
    | .outside =>
        if isLayout c || (' ' ≤ c && c ≠ '\x7f') then none else some .outside
    | .escape => escapeStep c
    | .intermediate => sequenceStep .intermediate (isBetween '0' '~') c
    | .parameters => sequenceStep .parameters (isBetween '@' '~') c
    | .command => some (if c = '\x07' then .outside else .command)
    | .device => some (deviceStep .device (· = ':') c)
    | .deviceParameters =>
        some (deviceStep .deviceParameters (fun c => c = ':' || isBetween '<' '?' c) c)
    | .deviceIntermediate => some (deviceStep .deviceIntermediate (isBetween '0' '?') c)
    | .string =>
        some (if stringTerminator ∈ Utf8.encode [c] then .outside else .string)

/-- The part of a text that is shown, from a state on. -/
def printableFrom : ControlState → Text → Text
  | _, [] => []
  | state, c :: rest =>
      match controlStep state c with
      | none => c :: printableFrom .outside rest
      | some next => printableFrom next rest

/-- The part of a text that is shown. -/
def printable (text : Text) : Text :=
  printableFrom .outside text

end Text

end JavadocNames
