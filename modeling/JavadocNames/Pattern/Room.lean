import JavadocNames.Pattern.Basic
import JavadocNames.Pattern.Span

/-!
# Room

A pattern stands for two automata that read the bytes of a text, one forwards and
one backwards.  The room that they would take is computed without building them, and
a pattern that needs more than the limit is refused.
-/

namespace JavadocNames

/-- The room of a part of a pattern in the forward and the backward automaton, in
bytes. -/
structure Room where
  forwards : Nat
  backwards : Nat

namespace Room

instance : Add Room where
  add a b := ⟨a.forwards + b.forwards, a.backwards + b.backwards⟩

/-- The same room in both automata. -/
def both (size : Nat) : Room :=
  ⟨size, size⟩

/-- Some states without branches. -/
def states (count : Nat) : Room :=
  both (32 * count)

/-- Some branches to other states. -/
def branches (count : Nat) : Room :=
  both (4 * count)

/-- The room of several copies. -/
def times (count : Nat) (room : Room) : Room :=
  ⟨count * room.forwards, count * room.backwards⟩

/-- The most that a pattern may take. -/
def limit : Nat :=
  10 * 1024 * 1024

/-- Both automata are within the limit. -/
def isAllowed (room : Room) : Bool :=
  room.forwards ≤ limit && room.backwards ≤ limit

/-! ## Sets of characters -/

/-- The ranges of the first byte in order, each with the ranges of the bytes after
it. -/
def byFirst (encodings : List Span.ByteRanges) :
    List ((UInt8 × UInt8) × List Span.ByteRanges) :=
  encodings.foldr
    (fun ranges groups =>
      match ranges, groups with
      | [], _ => groups
      | first :: rest, [] => [(first, [rest])]
      | first :: rest, (other, rests) :: groups =>
          if first = other then (other, (rest :: rests)) :: groups
          else (first, [rest]) :: (other, rests) :: groups)
    []

/-- What may be left to read on the way through a character: the encodings, and the
rests of them after each byte but the last. -/
def residuals : Nat → List Span.ByteRanges → List (List Span.ByteRanges)
  | 0, _ => []
  | length + 1, encodings =>
      encodings :: (byFirst encodings).flatMap fun (_, rests) =>
        if rests = [[]] then [] else residuals length rests

/-- The length of the common beginning. -/
def common : Span.ByteRanges → Span.ByteRanges → Nat
  | a :: as, b :: bs => if a = b then common as bs + 1 else 0
  | _, _ => 0

/-- The number of different beginnings of sorted encodings that follow `before`. -/
def beginnings (before : Span.ByteRanges) : List Span.ByteRanges → Nat
  | [] => 0
  | ranges :: others => (ranges.length - common before ranges) + beginnings ranges others

/-- A set of ASCII characters takes one state; a single character takes one for each
byte.  Other sets take, forwards, a state for each different rest, with a branch for
each range of the next byte, and backwards a state for each different beginning, with
a branch for each encoding. -/
def ofSet (set : CharSet) : Room :=
  let spans := Span.ofSet set
  let single : Bool :=
    match spans with
    | [span] => span.first = span.last
    | _ => false
  let encodings := spans.flatMap Span.encodings
  if single then states (encodings.foldl (fun n ranges => n + ranges.length) 0)
  else if spans.all (·.last < 0x80) then states 2 + both (8 * spans.length)
  else
    let rests := (residuals 4 encodings).eraseDups
    let ranges := rests.foldl (fun n rest => n + (byFirst rest).length) 0
    ⟨32 * (rests.length + 1) + 8 * ranges,
      32 * (beginnings [] encodings + 2) + 4 * encodings.length⟩

end Room

namespace Pattern

/-- The pattern may match the empty text at some place. -/
def mayBeEmpty : Pattern → Bool
  | empty => true
  | one _ => false
  | anchor _ => true
  | group _ body => mayBeEmpty body
  | sequence first second => mayBeEmpty first && mayBeEmpty second
  | choice first second => mayBeEmpty first || mayBeEmpty second
  | repeated _ least _ body => least = 0 || mayBeEmpty body

/-- The set of a pattern that stands for a single character. -/
def set? : Pattern → Option CharSet
  | one set => some set
  | choice first second => do return .union (← set? first) (← set? second)
  | _ => none

/-- The room of a repetition of a pattern that takes `body`. -/
def roundsRoom (mayBeEmpty : Bool) (least : Nat) (most : Option Nat) (body : Room) :
    Room :=
  let fork := Room.states 1 + Room.branches 2
  match least, most with
  | 0, none => if mayBeEmpty then body + fork + fork + Room.states 1 else body + fork
  | n + 1, none => body.times (n + 1) + fork
  | 0, some 1 => body + fork + Room.states 1
  | 0, some n => (body + fork).times n + Room.states 2
  | n + 1, some m =>
      if m = n + 1 then body.times m
      else body.times (n + 1) + (body + fork).times (m - (n + 1)) + Room.states 1

/-- The room of a pattern.  Alternatives share one fork; `inFork` tells that the
pattern is one of them. -/
def roomIn (inFork : Bool) (pattern : Pattern) : Room :=
  let own :=
    match pattern with
    | empty => Room.states 1
    | one set => Room.ofSet set
    | anchor _ => Room.states 1
    | group _ body => roomIn false body + ⟨64, 0⟩
    | sequence first second => roomIn false first + roomIn false second
    | choice first second =>
        match (choice first second).set? with
        | some set => Room.ofSet set
        | none =>
            roomIn true first + roomIn true second +
              (if inFork then Room.states 0 else Room.states 2)
    | repeated _ least most body =>
        roundsRoom body.mayBeEmpty least most (roomIn false body)
  match pattern with
  | choice _ _ => own
  | _ => if inFork then own + Room.branches 1 else own

/-- The room of a whole pattern, with the search for its start, the marks of its
ends and the state behind it. -/
def room (pattern : Pattern) : Room :=
  roomIn false pattern + ⟨208, 144⟩

end Pattern

end JavadocNames
