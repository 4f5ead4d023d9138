import JavadocNames.Pattern.Scanner

/-!
# Matching

Matches of a text are taken from the left and do not overlap; an empty match right
after the previous match does not count.
-/

namespace JavadocNames

namespace Pattern

/-- A scanner on its way, and the preferred matches at the places that it has left
behind, the first place first. -/
structure Scan where
  scanner : Scanner
  found : List Match

/-- Go on to the place before. -/
def Scan.step (place : Cursor) (scan : Scan) : Scan :=
  let next := some (Way.here place)
  ⟨scan.scanner.retreat place next,
    match (scan.scanner.crossing place).answer next with
    | some way => ⟨place, way⟩ :: scan.found
    | none => scan.found⟩

/-- The preferred match at each place where there is one, in order. -/
def matchesAt (pattern : Pattern) (text : Text) : List Match :=
  ((Cursor.places 0 none text).foldr Scan.step ⟨Scanner.ofPattern pattern, []⟩).found

/-- The matches that count, after one that ended at `last`. -/
def separate (last : Option Nat) : List Match → List Match
  | [] => []
  | found :: others =>
      if last.all found.isBehind then
        found :: separate (some found.way.stop.position) others
      else separate last others

/-- All matches of a text. -/
def matchesOf (pattern : Pattern) (text : Text) : List Match :=
  separate none (pattern.matchesAt text)

end Pattern

end JavadocNames
