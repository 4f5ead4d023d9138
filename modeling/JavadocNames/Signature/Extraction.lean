import JavadocNames.Failure
import JavadocNames.Pattern.Excerpts
import JavadocNames.Pattern.Room
import JavadocNames.Pattern.Syntax

/-!
# Signatures

The signature of a method is read off the text of its row by a pattern: each match
gives one parameter, its type in group 3 and its name in group 4.  The standard pattern
knows nothing of angle brackets.  What ends in one is no type, so that the parameter
behind it is left out, but what stands between them, such as the bound of a wildcard, or
behind them, such as the brackets of an array, can be read as a type.  A row without
parameters has no signature.
-/

namespace JavadocNames

/-- A parameter: its declared type and its name. -/
structure Parameter where
  typeName : Text
  name : Text
  deriving DecidableEq

/-- A method name and its parameters in order. -/
structure Signature where
  name : Text
  parameters : List Parameter
  deriving DecidableEq

/-- The number of parameters. -/
def Signature.arity (signature : Signature) : Nat :=
  signature.parameters.length

/-- What a match gives: its groups 3 and 4, as far as they took part in it. -/
structure Captures where
  typeName? : Option Text
  name? : Option Text

/-- The parameter that a match gives; `none` when one of the groups took no part in it. -/
def Captures.parameter? (captures : Captures) : Option Parameter := do
  return ⟨← captures.typeName?, ← captures.name?⟩

/-- A way to find parameters in a text: the engine that runs a pattern.  Whatever the pattern
is, a group is an excerpt of the text that is searched. -/
structure Extractor where
  /-- The matches of a text, in order. -/
  capturesOf : Text → List Captures
  infix_of_mem : ∀ text, ∀ captures ∈ capturesOf text, ∀ piece,
    captures.typeName? = some piece ∨ captures.name? = some piece → piece <:+: text

namespace Extractor

/-- The captures of a match. -/
def capturesIn (found : Match) : Captures :=
  ⟨found.way.groupText? 3, found.way.groupText? 4⟩

/-- The extractor that matches a pattern. -/
def matching (pattern : Pattern) : Extractor where
  capturesOf text := (pattern.matchesOf text).map capturesIn
  infix_of_mem text captures hcaptures piece hpiece := by
    obtain ⟨found, hfound, rfl⟩ := List.mem_map.mp hcaptures
    have hmarks := Pattern.allIn_of_mem_matchesOf hfound
    exact hpiece.elim (Way.infix_of_groupText? hmarks) (Way.infix_of_groupText? hmarks)

/-- The standard pattern: a type of word characters, dots and brackets, one space,
and a name of word characters, perhaps after a comma. -/
def standardText : Text :=
  "(,\\s*)?(([\\w\\.\\[\\]]+) (\\w+))".toList

/-- The characters of a type. -/
def typeSet : CharSet :=
  .union (.union (.union (.union .none .word) (.single '.')) (.single '[')) (.single ']')

/-- The pattern that `standardText` spells. -/
def standardPattern : Pattern :=
  .sequence
    (.repeated true 0 (some 1)
      (.group 1
        (.sequence (.one (.single ',')) (.repeated true 0 none (.one .blank)))))
    (.group 2
      (.sequence
        (.sequence (.group 3 (.repeated true 1 none (.one typeSet))) (.one (.single ' ')))
        (.group 4 (.repeated true 1 none (.one .word)))))

/-- The extractor with the standard pattern. -/
def standard : Extractor :=
  matching standardPattern

/-- The extractor with the pattern that a text of the pattern language spells, if it needs no
more room than allowed. -/
def ofText (text : Text) : Except Failure Extractor :=
  match Pattern.read? text with
  | some pattern =>
      if pattern.room.isAllowed then .ok (matching pattern) else .error (.badPattern text)
  | none => .error (.badPattern text)

/-- The parameter that a match gives. -/
def parameterOf? (found : Match) : Option Parameter :=
  (capturesIn found).parameter?

/-- The parameters found in a text, in order. -/
def parameters (extractor : Extractor) (text : Text) : List Parameter :=
  (extractor.capturesOf text).filterMap Captures.parameter?

/-- The signature that a text holds; `none` when no parameter is found.  The name
is what precedes the first parenthesis. -/
def extract (extractor : Extractor) (text : Text) : Option Signature :=
  match extractor.parameters text with
  | [] => none
  | p :: rest => some ⟨Text.before '(' text, p :: rest⟩

/-- The standard text spells the standard pattern. -/
theorem read_standardText : Pattern.read? standardText = some standardPattern := by
  rfl

end Extractor

end JavadocNames
