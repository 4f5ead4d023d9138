import JavadocNames.Proofs.Document.Rows
import JavadocNames.Proofs.Page.Order

/-!
# Overload indices in the order of the page

Rows are counted in the order in which they are read, so of two rows of the same name and
number of parameters the one that is read first has the smaller overload index.  The rows
of a summary are read in the order in which they stand as long as no anchor overtakes
another one.  On a page where one does, a row that stands first is counted second.
-/

namespace JavadocNames

namespace Naming

variable {naming : Naming} {className : Text} {counter : OverloadCounter} {texts : List Text}

/-- The row at a place has a signature, and its records, which come behind those of the rows
before it, have an overload index. -/
structure Adds (naming : Naming) (className : Text) (counter : OverloadCounter)
    (texts : List Text) (i : Nat) (signature : Signature) (overload : Nat) : Prop where
  row : texts[i]?.bind naming.extractor.extract = some signature
  records : (naming.rows className counter (texts.take (i + 1))).1 =
    (naming.rows className counter (texts.take i)).1 ++
      naming.records className signature overload

theorem signatures_take_succ {i : Nat} {signature : Signature}
    (h : texts[i]?.bind naming.extractor.extract = some signature) :
    naming.extractor.signatures (texts.take (i + 1)) =
      naming.extractor.signatures (texts.take i) ++ [signature] := by
  obtain ⟨text, htext, hextract⟩ := Option.bind_eq_some_iff.mp h
  rw [Extractor.signatures, List.take_add_one, htext, List.filterMap_append]
  simp [Extractor.signatures, hextract]

/-- The overload index of a row counts the rows of its key up to it. -/
theorem adds_of_row {i : Nat} {signature : Signature}
    (h : texts[i]?.bind naming.extractor.extract = some signature) :
    naming.Adds className counter texts i signature (counter.count signature.key + 1 +
      (naming.extractor.signatures (texts.take i)).countP (·.key = signature.key)) := by
  refine ⟨h, ?_⟩
  rw [rows_records, rows_records, signatures_take_succ h, blocks_concat, List.flatten_append,
    List.flatten_singleton]

/-- Between two rows of the same key the count grows. -/
theorem countP_signatures_lt {i j : Nat} {signature : Signature} {key : MethodKey}
    (hrow : texts[i]?.bind naming.extractor.extract = some signature) (hkey : signature.key = key)
    (hij : i < j) :
    (naming.extractor.signatures (texts.take i)).countP (·.key = key) <
      (naming.extractor.signatures (texts.take j)).countP (·.key = key) := by
  have hprefix : (naming.extractor.signatures (texts.take (i + 1))).Sublist
      (naming.extractor.signatures (texts.take j)) :=
    (List.take_sublist_take_left hij).filterMap _
  have hcount := hprefix.countP_le (p := fun s => decide (s.key = key))
  rw [signatures_take_succ hrow, List.countP_append] at hcount
  have hone : [signature].countP (fun s => decide (s.key = key)) = 1 := by simp [hkey]
  omega

/-- Of two rows of the same key the one that is read first has the smaller overload index. -/
theorem exists_adds_lt {i j : Nat} {s s' : Signature}
    (hi : texts[i]?.bind naming.extractor.extract = some s)
    (hj : texts[j]?.bind naming.extractor.extract = some s') (hkey : s.key = s'.key)
    (hij : i < j) :
    ∃ m n, naming.Adds className counter texts i s m ∧
      naming.Adds className counter texts j s' n ∧ m < n := by
  have hcount := countP_signatures_lt hi hkey hij
  refine ⟨_, _, adds_of_row hi, adds_of_row hj, ?_⟩
  rw [hkey]
  omega

end Naming

/-- On a page whose elements were made in the order in which they stand, the cells of a summary
come in this order exactly when none of its anchors overtakes another one.  Then, of two
rows of the same name and number of parameters, the one that stands first has the smaller
overload index, whatever was counted before them. -/
theorem cells_in_order_iff {page : Page} (hpage : page.nodes.serials.Pairwise (· < ·))
    (summary : Summary) :
    let cells := summary.cells page
    let texts := cells.map fun cell => RowText.normalize cell.innerText
    (cells.Pairwise (fun c d => c.serial < d.serial) ↔ ¬ summary.IsOvertaking page.nodes) ∧
      (¬ summary.IsOvertaking page.nodes →
        ∀ (naming : Naming) (className : Text) (counter : OverloadCounter) (i j : Nat)
          (c d : Element) (s s' : Signature),
          cells[i]? = some c → cells[j]? = some d → c.serial < d.serial →
          naming.extractor.extract (RowText.normalize c.innerText) = some s →
          naming.extractor.extract (RowText.normalize d.innerText) = some s' →
          s.key = s'.key →
          ∃ m n, naming.Adds className counter texts i s m ∧
            naming.Adds className counter texts j s' n ∧ m < n) := by
  intro cells texts
  refine ⟨Summary.pairwise_cells_iff hpage, ?_⟩
  intro hover naming className counter i j c d s s' hc hd hcd hs hs' hkey
  have hordered := (Summary.pairwise_cells_iff hpage).mpr hover
  have hrow : ∀ {k : Nat} {e : Element} {signature : Signature}, cells[k]? = some e →
      naming.extractor.extract (RowText.normalize e.innerText) = some signature →
      texts[k]?.bind naming.extractor.extract = some signature := by
    intro k e signature he hsignature
    rw [List.getElem?_map, he]
    exact hsignature
  refine Naming.exists_adds_lt (hrow hc hs) (hrow hd hs') hkey (Nat.lt_of_not_le fun hji => ?_)
  obtain ⟨hi, rfl⟩ := List.getElem?_eq_some_iff.mp hc
  obtain ⟨hj, rfl⟩ := List.getElem?_eq_some_iff.mp hd
  rcases Nat.eq_or_lt_of_le hji with rfl | hji
  · exact Nat.lt_irrefl _ hcd
  · exact Nat.lt_asymm hcd (List.pairwise_iff_getElem.mp hordered j i hj hi hji)

/-! ## Anchors inside of what stands behind an anchor -/

namespace Nested

/-- The signature of a method as code. -/
def code (serial : Nat) (text : String) : Element :=
  ⟨serial, "code", [], .text text.toList .nil⟩

/-- Nodes that begin with a table of one method. -/
def table (serial : Nat) (text : String) (next : Nodes) : Nodes :=
  .element serial "table" []
    (.element (serial + 1) "tbody" []
      (.element (serial + 2) "tr" [] (.element (serial + 3) "td" [] .nil .nil)
        (.element (serial + 4) "tr" []
          (.element (serial + 5) "td" [("class", "colLast")]
            (.element (serial + 6) "code" [] (code (serial + 6) text).children .nil) .nil)
          .nil))
      .nil)
    next

/-- Nodes that begin with an anchor of the methods. -/
def anchor (serial : Nat) (next : Nodes) : Nodes :=
  .element serial "a" [("name", "method_summary")] .nil next

def document (body : Nodes) : Nodes :=
  .element 1 "html" [] (.element 2 "head" [] .nil (.element 3 "body" [] body .nil)) .nil

/-- An anchor, an element with an anchor and a table in it, and a table. -/
def overtaking : Page :=
  ⟨document (anchor 4 (.element 5 "div" [] (anchor 6 (table 7 "move(int inner)" .nil))
    (table 15 "move(int outer)" .nil))), by decide⟩

/-- An anchor and a table, and an element with an anchor and a table in it. -/
def apart : Page :=
  ⟨document (anchor 4 (table 5 "move(int outer)"
    (.element 13 "div" [] (anchor 14 (table 15 "move(int inner)" .nil)) .nil))), by decide⟩

def naming : Naming :=
  ⟨"com.robot".toList, .standard⟩

theorem cells_overtaking :
    Summary.methods.cells overtaking = [code 21 "move(int outer)", code 13 "move(int inner)"] := by
  rw [Summary.cells_eq_listing (by decide)]
  decide

theorem cells_apart :
    Summary.methods.cells apart = [code 11 "move(int outer)", code 21 "move(int inner)"] := by
  rw [Summary.cells_eq_listing (by decide)]
  decide

end Nested

/-- An anchor overtakes another one on one of two pages, and only there the row that stands
first is not counted first. -/
theorem cells_in_order_iff_nested :
    (Nested.overtaking.nodes.serials.Pairwise (· < ·) ∧
        Summary.methods.IsOvertaking Nested.overtaking.nodes) ∧
      Nested.apart.nodes.serials.Pairwise (· < ·) ∧
      ¬ Summary.methods.IsOvertaking Nested.apart.nodes ∧
      ∃ m n, Nested.naming.Adds "Robot".toList .new
          ["move(int outer)".toList, "move(int inner)".toList] 0
          ⟨"move".toList, [⟨"int".toList, "outer".toList⟩]⟩ m ∧
        Nested.naming.Adds "Robot".toList .new
          ["move(int outer)".toList, "move(int inner)".toList] 1
          ⟨"move".toList, [⟨"int".toList, "inner".toList⟩]⟩ n ∧ m < n := by
  have hovertaking : Nested.overtaking.nodes.serials.Pairwise (· < ·) := by decide
  have hapart : Nested.apart.nodes.serials.Pairwise (· < ·) := by decide
  have hfirst := (cells_in_order_iff hovertaking .methods).1
  obtain ⟨hsecond, hrows⟩ := cells_in_order_iff hapart .methods
  have hover : Summary.methods.IsOvertaking Nested.overtaking.nodes := by
    refine Classical.not_not.mp fun hnot => ?_
    have hordered := hfirst.mpr hnot
    rw [Nested.cells_overtaking] at hordered
    exact absurd hordered (by decide)
  have hnot : ¬ Summary.methods.IsOvertaking Nested.apart.nodes := by
    refine hsecond.mp ?_
    rw [Nested.cells_apart]
    decide
  refine ⟨⟨hovertaking, hover⟩, hapart, hnot, ?_⟩
  rw [Nested.cells_apart] at hrows
  exact hrows hnot Nested.naming "Robot".toList .new 0 1 (Nested.code 11 "move(int outer)")
    (Nested.code 21 "move(int inner)") _ _ rfl rfl (by decide) (by decide +kernel)
    (by decide +kernel) (by decide)

/-- On a page where an anchor overtakes another one, the row that stands first is read and
counted second. -/
theorem overtaking_cells_out_of_order :
    Nested.overtaking.nodes.serials.Pairwise (· < ·) ∧
      ¬ ((Summary.methods.cells Nested.overtaking).Pairwise fun c d => c.serial < d.serial) ∧
      (Nested.naming.page "Robot".toList .new Nested.overtaking).1.map
          (fun r => (r.method, r.total, r.parameter, r.overload)) =
        [("move".toList, 1, "outer".toList, 1), ("move".toList, 1, "inner".toList, 2)] := by
  have hpage : Nested.overtaking.nodes.serials.Pairwise (· < ·) := by decide
  have hconstructors : Summary.constructors.cells Nested.overtaking = [] := by
    rw [Summary.cells_eq_listing hpage]
    decide
  refine ⟨hpage, ?_, ?_⟩
  · rw [Nested.cells_overtaking]
    decide
  · rw [Naming.page, Naming.pageRows, hconstructors, Nested.cells_overtaking]
    decide +kernel

end JavadocNames
