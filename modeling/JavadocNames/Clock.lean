import JavadocNames.Text.Basic

/-!
# Clock readings

A run does not read a clock; it is given the readings that its log mentions.
-/

namespace JavadocNames

/-- A moment of local time, to the second. -/
structure Moment where
  year : Nat
  month : Nat
  day : Nat
  hour : Nat
  minute : Nat
  second : Nat

/-- The readings of one run. -/
structure Clock where
  /-- When the log was opened. -/
  started : Moment
  /-- When the log was closed. -/
  ended : Moment
  /-- Milliseconds that the tool took. -/
  elapsed : Nat
  /-- Milliseconds between opening and closing the log: fewer than none when the clock was
  set back in between. -/
  duration : Int

namespace Moment

/-- A number in decimal, with zeros in front up to a width. -/
def padded (width n : Nat) : Text :=
  let digits := Text.decimal n
  List.replicate (width - digits.length) '0' ++ digits

/-- The date as `YYYY-MM-DD`. -/
def date (m : Moment) : Text :=
  Text.join ['-'] [padded 4 m.year, padded 2 m.month, padded 2 m.day]

/-- The time of day, its three parts separated by `separator`. -/
def time (m : Moment) (separator : Char) : Text :=
  Text.join [separator] [padded 2 m.hour, padded 2 m.minute, padded 2 m.second]

/-- Date and time of day as `YYYY-MM-DD HH:MM:SS`. -/
def display (m : Moment) : Text :=
  m.date ++ ' ' :: m.time ':'

end Moment

end JavadocNames
