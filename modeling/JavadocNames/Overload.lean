import JavadocNames.Text.Basic

/-!
# Overloads

Methods are told apart by name and number of parameters only.  Each further
method with the same key gets the next index, counted from one.
-/

namespace JavadocNames

/-- What tells methods apart: the name and the number of parameters. -/
structure MethodKey where
  name : Text
  arity : Nat
  deriving DecidableEq

/-- How often each key has been seen.  A key is listed once it has been seen, in
the order of first sight. -/
structure OverloadCounter where
  tally : List (MethodKey × Nat)

namespace OverloadCounter

/-- The counter of a document that has not been read yet. -/
def new : OverloadCounter :=
  ⟨[]⟩

/-- The count of a key in a tally; 0 for a key that is not listed. -/
def countIn (key : MethodKey) : List (MethodKey × Nat) → Nat
  | [] => 0
  | (k, n) :: rest => if k = key then n else countIn key rest

/-- Raise the count of a key by one, listing it last when it is new. -/
def raise (key : MethodKey) : List (MethodKey × Nat) → List (MethodKey × Nat)
  | [] => [(key, 1)]
  | (k, n) :: rest => if k = key then (k, n + 1) :: rest else (k, n) :: raise key rest

/-- How often a key has been seen. -/
def count (counter : OverloadCounter) (key : MethodKey) : Nat :=
  countIn key counter.tally

/-- See a key once more; the answer is the index of this sight. -/
def next (counter : OverloadCounter) (key : MethodKey) : Nat × OverloadCounter :=
  (counter.count key + 1, ⟨raise key counter.tally⟩)

/-- No key has been seen. -/
def isEmpty (counter : OverloadCounter) : Bool :=
  counter.tally.isEmpty

end OverloadCounter

end JavadocNames
