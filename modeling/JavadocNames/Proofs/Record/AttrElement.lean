import JavadocNames.Proofs.Text.Decimal
import JavadocNames.Record.Basic

/-!
# Reading `attr` elements

Nothing is escaped in an `attr` element.  Still it tells its record, as long as package
and class are known and the method has no parenthesis that opens: the method ends where
the first such parenthesis stands, and every number at the first bracket behind it.
-/

namespace JavadocNames

namespace Text

/-- Two texts cut at the first `stop` are equal part by part. -/
theorem append_cons_inj {stop : Char} {front front' back back' : Text}
    (hfront : stop ∉ front) (hfront' : stop ∉ front')
    (h : front ++ stop :: back = front' ++ stop :: back') : front = front' ∧ back = back' := by
  induction front generalizing front' with
  | nil =>
      cases front' with
      | nil => exact ⟨rfl, List.tail_eq_of_cons_eq h⟩
      | cons c front' =>
          obtain ⟨rfl, -⟩ := List.cons.inj h
          exact absurd List.mem_cons_self hfront'
  | cons c front ih =>
      cases front' with
      | nil =>
          obtain ⟨rfl, -⟩ := List.cons.inj h
          exact absurd List.mem_cons_self hfront
      | cons c' front' =>
          obtain ⟨rfl, hrest⟩ := List.cons.inj h
          obtain ⟨rfl, hback⟩ := ih (fun hmem => hfront (List.mem_cons_of_mem c hmem))
            (fun hmem => hfront' (List.mem_cons_of_mem c hmem)) hrest
          exact ⟨rfl, hback⟩

/-- A number is read up to the bracket that follows it. -/
theorem decimal_append_inj {m n : Nat} {back back' : Text}
    (h : decimal m ++ ']' :: back = decimal n ++ ']' :: back') : m = n ∧ back = back' := by
  have hbracket : ∀ k, ']' ∉ decimal k := fun k => not_mem_decimal (by decide) k
  obtain ⟨hdigits, hback⟩ := append_cons_inj (hbracket m) (hbracket n) h
  exact ⟨decimal_injective hdigits, hback⟩

end Text

namespace NamingRecord

/-- The element in front of the method. -/
def attrFront (package className : Text) : Text :=
  "  <attr path=\"/api/package[@name='".toList ++ package ++
    "']/class[@name='".toList ++ className ++ "']/method[@name='".toList

/-- The element behind the position. -/
def attrBack (parameter : Text) : Text :=
  "\" name=\"name\">".toList ++ parameter ++ "</attr>".toList

theorem attrElement_eq (r : NamingRecord) :
    r.attrElement = attrFront r.package r.className ++ (r.method ++ "' and count".toList ++
      '(' :: ("parameter)=".toList ++ (Text.decimal r.total ++
        ']' :: '[' :: (Text.decimal r.overload ++
          ']' :: ("/parameter[position()=".toList ++ (Text.decimal r.position ++
            ']' :: attrBack r.parameter)))))) := by
  have hcount : "' and count(parameter)=".toList =
      "' and count".toList ++ ['('] ++ "parameter)=".toList := by decide
  have hbrackets : "][".toList = [']'] ++ ['['] := by decide
  have hposition : "]/parameter[position()=".toList =
      [']'] ++ "/parameter[position()=".toList := by decide
  have hname : "]\" name=\"name\">".toList = [']'] ++ "\" name=\"name\">".toList := by decide
  unfold attrElement attrFront attrBack
  rw [hcount, hbrackets, hposition, hname]
  simp only [List.append_assoc]
  rfl

/-- Among records of one package and class whose methods have no parenthesis that opens,
the element tells the record. -/
theorem eq_of_attrElement_eq {r s : NamingRecord} (hpackage : r.package = s.package)
    (hclass : r.className = s.className) (hr : '(' ∉ r.method) (hs : '(' ∉ s.method)
    (h : r.attrElement = s.attrElement) : r = s := by
  rw [attrElement_eq, attrElement_eq, hpackage, hclass] at h
  have hbehind := List.append_cancel_left h
  have hcount : '(' ∉ "' and count".toList := by decide
  obtain ⟨hmethod, hnumbers⟩ := Text.append_cons_inj
    (List.not_mem_append hr hcount) (List.not_mem_append hs hcount) hbehind
  have hmethod := List.append_cancel_right hmethod
  obtain ⟨htotal, hrest⟩ := Text.decimal_append_inj
    (List.append_cancel_left hnumbers)
  obtain ⟨hoverload, hrest⟩ := Text.decimal_append_inj
    (List.tail_eq_of_cons_eq hrest)
  obtain ⟨hposition, hback⟩ := Text.decimal_append_inj
    (List.append_cancel_left hrest)
  have hparameter : r.parameter = s.parameter :=
    List.append_cancel_left (List.append_cancel_right hback)
  cases r
  cases s
  simp_all

/-- An element is one line when its texts are. -/
theorem lineFeed_not_mem_attrElement {r : NamingRecord} (hpackage : '\n' ∉ r.package)
    (hclass : '\n' ∉ r.className) (hmethod : '\n' ∉ r.method) (hparameter : '\n' ∉ r.parameter) :
    '\n' ∉ r.attrElement := by
  have hnumber : ∀ n, '\n' ∉ Text.decimal n := fun n => Text.not_mem_decimal (by decide) n
  unfold attrElement
  -- What stands around the texts and the numbers is written out and has none.
  repeat' apply List.not_mem_append
  all_goals first | assumption | exact hnumber _ | decide

end NamingRecord

end JavadocNames
