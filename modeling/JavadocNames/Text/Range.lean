/-!
# Ranges of characters

A class of characters is given by its ranges of code points, sorted and disjoint.
Membership is found by halving.
-/

namespace JavadocNames

namespace Text

/-- Look for `n` among the ranges with index from `low` up to `high`.  Each step
halves the number of ranges; `steps` bounds how often. -/
def findRange (table : Array (Nat × Nat)) (n : Nat) : Nat → Nat → Nat → Bool
  | 0, _, _ => false
  | steps + 1, low, high =>
      if low < high then
        let middle := (low + high) / 2
        match table[middle]? with
        | none => false
        | some (first, last) =>
            if n < first then findRange table n steps low middle
            else if last < n then findRange table n steps (middle + 1) high
            else true
      else false

/-- The number lies in one of the ranges of a sorted table. -/
def inRanges (table : Array (Nat × Nat)) (n : Nat) : Bool :=
  findRange table n (table.size + 1) 0 table.size

end Text

end JavadocNames
