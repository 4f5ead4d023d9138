import JavadocNames.Text.Basic

/-!
# Naming records

A naming record gives one parameter of one method its name.  It is written
either as an `attr` element, whose path addresses the parameter, or as a JSON
object.  In the element the texts stand as they are; nothing is escaped.
-/

namespace JavadocNames

/-- The name of one parameter, addressed by package, class, method name, number of
parameters, overload and position. -/
structure NamingRecord where
  package : Text
  className : Text
  method : Text
  parameter : Text
  /-- The position of the parameter, counted from one. -/
  position : Nat
  /-- The number of parameters of the method. -/
  total : Nat
  /-- The occurrence of method and total within the document, counted from one. -/
  overload : Nat
  deriving DecidableEq

namespace NamingRecord

/-- The record as an `attr` element. -/
def attrElement (r : NamingRecord) : Text :=
  "  <attr path=\"/api/package[@name='".toList ++ r.package ++
    "']/class[@name='".toList ++ r.className ++
    "']/method[@name='".toList ++ r.method ++
    "' and count(parameter)=".toList ++ Text.decimal r.total ++
    "][".toList ++ Text.decimal r.overload ++
    "]/parameter[position()=".toList ++ Text.decimal r.position ++
    "]\" name=\"name\">".toList ++ r.parameter ++ "</attr>".toList

/-- The `attr` element of a parameter, given what names it and then where it stands. -/
def formatRecord (className method parameter : Text) (position total overload : Nat)
    (package : Text) : Text :=
  attrElement ⟨package, className, method, parameter, position, total, overload⟩

end NamingRecord

end JavadocNames
