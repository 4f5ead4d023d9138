import JavadocNames.Proofs.Document.Addressing
import JavadocNames.Proofs.Page.Sections

/-!
# Class pages

A class page sums up the constructors and the methods of a class.  Its records address
the parameters of all of them, constructors before methods; a signature without
parameters counts as a row and gives no record.
-/

namespace JavadocNames

/-- Only signatures with parameters are found. -/
theorem filterMap_found? (signatures : List Signature) :
    signatures.filterMap Signature.found? =
      signatures.filter fun signature => signature.parameters ≠ [] := by
  induction signatures with
  | nil => rfl
  | cons signature rest ih =>
      by_cases hnone : signature.parameters = []
      · have hfound : signature.found? = none := by rw [Signature.found?, if_pos hnone]
        rw [List.filterMap_cons_none hfound, List.filter_cons_of_neg (by simpa using hnone), ih]
      · have hfound : signature.found? = some signature := by
          rw [Signature.found?, if_neg hnone]
        rw [List.filterMap_cons_some hfound, List.filter_cons_of_pos (by simpa using hnone), ih]

theorem isNone_comp_found? :
    Option.isNone ∘ Signature.found? = fun signature => decide (signature.parameters = []) := by
  ext signature
  by_cases hnone : signature.parameters = []
  · rw [Function.comp_apply, Signature.found?, if_pos hnone, decide_eq_true hnone]
    rfl
  · rw [Function.comp_apply, Signature.found?, if_neg hnone, decide_eq_false hnone]
    rfl

/-- The signatures found in some texts are known once it is known what each text gives. -/
theorem signatures_of_map_extract {texts : List Text} {signatures : List Signature}
    (h : texts.map Extractor.standard.extract = signatures.map Signature.found?) :
    Extractor.standard.signatures texts =
      signatures.filter fun signature => signature.parameters ≠ [] := by
  have hmap := congrArg (List.filterMap id) h
  rw [List.filterMap_map, List.filterMap_map] at hmap
  rw [← filterMap_found?]
  exact hmap

/-- The texts without a signature are those of signatures without parameters. -/
theorem countP_isNone_of_map_extract {texts : List Text} {signatures : List Signature}
    (h : texts.map Extractor.standard.extract = signatures.map Signature.found?) :
    texts.countP (fun text => (Extractor.standard.extract text).isNone) =
      signatures.countP fun signature => signature.parameters = [] := by
  have hcount := congrArg (List.countP Option.isNone) h
  rw [List.countP_map, List.countP_map, isNone_comp_found?] at hcount
  exact hcount

/-- The rows of a class page give the signatures that it sums up. -/
theorem map_extract_pageRows {page : Page} {constructors methods : List Signature}
    (hplain : ∀ signature ∈ constructors ++ methods, signature.IsPlain)
    (hconstructors : page.Sums "constructor_summary" "colOne" constructors)
    (hmethods : page.Sums "method_summary" "colLast" methods) :
    (Naming.pageRows page).map Extractor.standard.extract =
      (constructors ++ methods).map Signature.found? := by
  have hfirst := Summary.cells_of_sums .constructors hconstructors
  have hsecond := Summary.cells_of_sums .methods hmethods
  rw [Naming.pageRows, List.map_map]
  exact map_extract_of_renders hplain (List.rel_append hfirst hsecond)

/-! ## Lines -/

/-- A step of a path: the name of an element, and what the element has to meet. -/
structure PathStep where
  element : Text
  conditions : List Text

def PathStep.text (step : PathStep) : Text :=
  "/".toList ++ step.element ++
    step.conditions.flatMap fun condition => "[".toList ++ condition ++ "]".toList

/-- The element has a name. -/
def hasName (name : Text) : Text :=
  "@name='".toList ++ name ++ "'".toList

/-- The steps to the parameter of a record. -/
def NamingRecord.steps (r : NamingRecord) : List PathStep :=
  [⟨"api".toList, []⟩,
    ⟨"package".toList, [hasName r.package]⟩,
    ⟨"class".toList, [hasName r.className]⟩,
    ⟨"method".toList,
      [hasName r.method ++ " and count(parameter)=".toList ++ Text.decimal r.total,
        Text.decimal r.overload]⟩,
    ⟨"parameter".toList, ["position()=".toList ++ Text.decimal r.position]⟩]

/-- A record is written as its path and the name of the parameter. -/
theorem render_attr (r : NamingRecord) :
    OutputFormat.attr.render r =
      "  <attr path=\"".toList ++ r.steps.flatMap PathStep.text ++
        "\" name=\"name\">".toList ++ r.parameter ++ "</attr>".toList := by
  have hpackage : "  <attr path=\"/api/package[@name='".toList =
      "  <attr path=\"".toList ++ "/".toList ++ "api".toList ++ "/".toList ++
        "package".toList ++ "[".toList ++ "@name='".toList := by decide
  have hclass : "']/class[@name='".toList =
      "'".toList ++ "]".toList ++ "/".toList ++ "class".toList ++ "[".toList ++
        "@name='".toList := by decide
  have hmethod : "']/method[@name='".toList =
      "'".toList ++ "]".toList ++ "/".toList ++ "method".toList ++ "[".toList ++
        "@name='".toList := by decide
  have htotal : "' and count(parameter)=".toList =
      "'".toList ++ " and count(parameter)=".toList := by decide
  have hoverload : "][".toList = "]".toList ++ "[".toList := by decide
  have hposition : "]/parameter[position()=".toList =
      "]".toList ++ "/".toList ++ "parameter".toList ++ "[".toList ++
        "position()=".toList := by decide
  have hend : "]\" name=\"name\">".toList = "]".toList ++ "\" name=\"name\">".toList := by
    decide
  change r.attrElement = _
  unfold NamingRecord.attrElement
  rw [hpackage, hclass, hmethod, htotal, hoverload, hposition, hend, NamingRecord.steps]
  unfold hasName
  simp only [List.flatMap_cons, List.flatMap_nil]
  unfold PathStep.text
  simp only [List.flatMap_cons, List.flatMap_nil, List.append_nil, List.append_assoc]

/-! ## Records of a class page -/

/-- The records of a class page address the parameters of all its signatures, and the
counts are those of its signatures. -/
theorem classPage_addresses (package className : Text) {page : Page}
    {constructors methods : List Signature}
    (hplain : ∀ signature ∈ constructors ++ methods, signature.IsPlain)
    (hconstructors : page.Sums "constructor_summary" "colOne" constructors)
    (hmethods : page.Sums "method_summary" "colLast" methods) :
    let signatures := constructors ++ methods
    let (records, tally, _) := Naming.page ⟨package, .standard⟩ className .new page
    Addresses package className signatures records ∧
      tally.rows = signatures.length ∧
      tally.skipped = (signatures.countP fun signature => signature.parameters = []) ∧
      tally.records = (signatures.flatMap Signature.parameters).length ∧
      ∀ record ∈ records, OutputFormat.attr.render record =
        "  <attr path=\"".toList ++ record.steps.flatMap PathStep.text ++
          "\" name=\"name\">".toList ++ record.parameter ++ "</attr>".toList := by
  intro signatures
  let naming : Naming := ⟨package, .standard⟩
  have hextract := map_extract_pageRows hplain hconstructors hmethods
  have hrecords : (naming.page className .new page).1 =
      (naming.blocks className .new signatures).flatten := by
    rw [Naming.page, Naming.rows_records, signatures_of_map_extract hextract]
    exact naming.flatten_blocks_filter className (fun _ _ => rfl) signatures
  have hrows : (Naming.pageRows page).length = signatures.length := by
    have hlength := congrArg List.length hextract
    rwa [List.length_map, List.length_map] at hlength
  have hlength : (naming.page className .new page).1.length =
      (signatures.flatMap Signature.parameters).length := by
    rw [hrecords, naming.length_flatten_blocks]
  have htally : (naming.page className .new page).2.1 =
      ⟨signatures.length, signatures.countP fun signature => signature.parameters = [],
        (signatures.flatMap Signature.parameters).length⟩ := by
    rw [← hrows, ← countP_isNone_of_map_extract hextract, ← hlength]
    exact naming.rows_tally className .new (Naming.pageRows page)
  refine ⟨?_, congrArg Tally.rows htally, congrArg Tally.skipped htally,
    congrArg Tally.records htally, fun record _ => render_attr record⟩
  change Addresses package className signatures (naming.page className .new page).1
  rw [hrecords]
  exact blocks_addresses naming className signatures

/-! ## A class page -/

namespace Robot

/-- Nodes that begin with an element. -/
def before (e : Element) (next : Nodes) : Nodes :=
  .element e.serial e.name e.attributes e.children next

def code (serial : Nat) (text : String) : Element :=
  ⟨serial, "code", [], .text text.toList .nil⟩

def cell (serial : Nat) (cellClass text : String) : Element :=
  ⟨serial, "td", [("class", cellClass)], before (code (serial + 1) text) .nil⟩

def row (serial : Nat) (cellClass text : String) : Element :=
  ⟨serial, "tr", [("class", "altColor")], before (cell (serial + 1) cellClass text) .nil⟩

def heading (serial : Nat) : Element :=
  ⟨serial, "tr", [], .element (serial + 1) "td" [("class", "colLast")] .nil .nil⟩

def constructorAnchor : Element :=
  ⟨2, "a", [("name", "constructor_summary")], .nil⟩

def methodAnchor : Element :=
  ⟨21, "a", [("name", "method_summary")], .text ['\n'] .nil⟩

/-- A table with its rows in a group. -/
def constructorTable : Element :=
  ⟨3, "table", [],
    .text ['\n'] (.element 4 "tbody" []
      (before (heading 5) (before (row 7 "colOne" "Robot(int\u00A0id)") .nil)) .nil)⟩

/-- A table with its rows side by side. -/
def methodTable : Element :=
  ⟨22, "table", [],
    before (heading 23) (before (row 25 "colLast" "move(int\u00A0x, float[] y)")
      (.text ['\n'] (before (row 28 "colLast" "stop()")
        (before (row 31 "colLast" "move(int\u00A0dx, int dy)") .nil))))⟩

/-- The nodes behind the anchor of the constructors. -/
def behindConstructors : Nodes :=
  before constructorTable
    (.element 20 "ul" [] (before methodAnchor (before methodTable .nil)) .nil)

def page : Page :=
  ⟨.element 0 "html" [] (.element 1 "body" [] (before constructorAnchor behindConstructors) .nil)
    .nil, by decide⟩

def constructors : List Signature :=
  [⟨"Robot".toList, [⟨"int".toList, "id".toList⟩]⟩]

def methods : List Signature :=
  [⟨"move".toList, [⟨"int".toList, "x".toList⟩, ⟨"float[]".toList, "y".toList⟩]⟩,
    ⟨"stop".toList, []⟩,
    ⟨"move".toList, [⟨"int".toList, "dx".toList⟩, ⟨"int".toList, "dy".toList⟩]⟩]

/-- A row whose text is a rendered signature shows it. -/
theorem row_shows (serial : Nat) (cellClass text : String) {signature : Signature}
    (layouts : List Rendering.Layout)
    (hparameters : layouts.map Rendering.Layout.parameter = signature.parameters)
    (hregular : ∀ layout ∈ layouts, layout.IsRegular)
    (htext : text.toList = Rendering.render signature.name layouts) :
    (row serial cellClass text).Shows cellClass signature := by
  refine ⟨cell (serial + 1) cellClass text, code (serial + 2) text, ?_, ?_, layouts,
    hparameters, hregular, ?_⟩
  · simp [row, before, cell, Nodes.elements, Element.attribute?, Html.attribute?]
  · simp [cell, before, code, Nodes.elements]
  · rw [← htext]
    exact List.append_nil text.toList

theorem sums_constructors : page.Sums "constructor_summary" "colOne" constructors := by
  have hholds : page.nodes.Holds constructorAnchor behindConstructors :=
    .inside (.inside (.here _ _ _ _ _))
  have hanchors : Summary.constructors.anchors page.nodes = [(2, behindConstructors)] := by
    decide
  have hrows : constructorTable.children.Rows
      [heading 5, row 7 "colOne" "Robot(int\u00A0id)"] :=
    .text (.group (Or.inr (Or.inl rfl)) .nil)
  have hshows : (row 7 "colOne" "Robot(int\u00A0id)").Shows "colOne"
      ⟨"Robot".toList, [⟨"int".toList, "id".toList⟩]⟩ :=
    row_shows 7 "colOne" _ [⟨⟨"int".toList, "id".toList⟩, .noBreak, [.blank ' ' rfl]⟩]
      (by decide) (by decide) (by decide)
  exact .table hholds ⟨rfl, rfl⟩ (Summary.alone_of_anchors hanchors) rfl hrows
    (.cons hshows .nil)

theorem sums_methods : page.Sums "method_summary" "colLast" methods := by
  have hholds : page.nodes.Holds methodAnchor (before methodTable .nil) :=
    .inside (.inside (.next (.next (.inside (.here _ _ _ _ _)))))
  have hanchors : Summary.methods.anchors page.nodes = [(21, before methodTable .nil)] := by
    decide
  have hrows : methodTable.children.Rows
      [heading 23, row 25 "colLast" "move(int\u00A0x, float[] y)", row 28 "colLast" "stop()",
        row 31 "colLast" "move(int\u00A0dx, int dy)"] :=
    .row rfl (.row rfl (.text (.row rfl (.row rfl .nil))))
  have hfirst : (row 25 "colLast" "move(int\u00A0x, float[] y)").Shows "colLast"
      ⟨"move".toList, [⟨"int".toList, "x".toList⟩, ⟨"float[]".toList, "y".toList⟩]⟩ :=
    row_shows 25 "colLast" _ [⟨⟨"int".toList, "x".toList⟩, .noBreak, [.blank ' ' rfl]⟩,
      ⟨⟨"float[]".toList, "y".toList⟩, .space, [.blank ' ' rfl]⟩]
      (by decide) (by decide) (by decide)
  have hsecond : (row 28 "colLast" "stop()").Shows "colLast" ⟨"stop".toList, []⟩ :=
    row_shows 28 "colLast" _ [] rfl (by decide) (by decide)
  have hthird : (row 31 "colLast" "move(int\u00A0dx, int dy)").Shows "colLast"
      ⟨"move".toList, [⟨"int".toList, "dx".toList⟩, ⟨"int".toList, "dy".toList⟩]⟩ :=
    row_shows 31 "colLast" _ [⟨⟨"int".toList, "dx".toList⟩, .noBreak, [.blank ' ' rfl]⟩,
      ⟨⟨"int".toList, "dy".toList⟩, .space, [.blank ' ' rfl]⟩]
      (by decide) (by decide) (by decide)
  exact .table hholds ⟨rfl, rfl⟩ (Summary.alone_of_anchors hanchors) rfl hrows
    (.cons hfirst (.cons hsecond (.cons hthird .nil)))

/-- A page with a constructor, an overloaded method and a method without parameters. -/
theorem classPage_addresses_robot :
    (∀ signature ∈ constructors ++ methods, signature.IsPlain) ∧
      page.Sums "constructor_summary" "colOne" constructors ∧
      page.Sums "method_summary" "colLast" methods ∧
      let (records, tally, _) :=
        Naming.page ⟨"com.robot".toList, .standard⟩ "Robot".toList .new page
      records.map (fun r => (r.method, r.total, r.overload, r.position, r.parameter)) =
          [("Robot".toList, 1, 1, 1, "id".toList), ("move".toList, 2, 1, 1, "x".toList),
            ("move".toList, 2, 1, 2, "y".toList), ("move".toList, 2, 2, 1, "dx".toList),
            ("move".toList, 2, 2, 2, "dy".toList)] ∧
        tally.rows = 4 ∧ tally.skipped = 1 ∧ tally.records = 5 := by
  have hplain : ∀ signature ∈ constructors ++ methods, signature.IsPlain := by
    decide +kernel
  have haddresses := classPage_addresses "com.robot".toList "Robot".toList hplain
    sums_constructors sums_methods
  obtain ⟨hrecords, hrows, hskipped, hcount, -⟩ := haddresses
  refine ⟨hplain, sums_constructors, sums_methods, ?_, hrows, hskipped, hcount⟩
  rw [hrecords.blocks]
  decide

end Robot

end JavadocNames
