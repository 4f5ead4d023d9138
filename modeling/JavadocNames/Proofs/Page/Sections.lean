import Mathlib.Data.List.Forall2
import JavadocNames.Proofs.Page.Anchors
import JavadocNames.Proofs.Signature.Rendering

/-!
# Sections of a class page

A class page sums up some signatures behind an anchor: one table, a heading, and below
it one row for each signature, with the rendered signature as code in a cell of its own.
What else stands on the page does not matter.
-/

namespace JavadocNames

/-- The rows among the children of a table: those beside each other and those in a
group, from the first to the last. -/
inductive Nodes.Rows : Nodes → List Element → Prop
  | nil : Rows .nil []
  | text {content : Text} {next : Nodes} {rows : List Element} (h : Rows next rows) :
      Rows (.text content next) rows
  | row {serial : Nat} {name : String} {attributes : Html.Attributes}
      {children next : Nodes} {rows : List Element} (isRow : name = "tr")
      (h : Rows next rows) :
      Rows (.element serial name attributes children next)
        (⟨serial, name, attributes, children⟩ :: rows)
  | group {serial : Nat} {name : String} {attributes : Html.Attributes}
      {children next : Nodes} {rows : List Element}
      (isGroup : name = "thead" ∨ name = "tbody" ∨ name = "tfoot") (h : Rows next rows) :
      Rows (.element serial name attributes children next)
        (children.elements.filter (fun e => e.name = "tr") ++ rows)
  | other {serial : Nat} {name : String} {attributes : Html.Attributes}
      {children next : Nodes} {rows : List Element}
      (isOther : name ∉ ["tr", "thead", "tbody", "tfoot"]) (h : Rows next rows) :
      Rows (.element serial name attributes children next) rows

/-- A signature that can be read off its row: its name and its parameters are plain. -/
structure Signature.IsPlain (signature : Signature) : Prop where
  name : Rendering.IsPlainName signature.name
  parameters : ∀ p ∈ signature.parameters, Rendering.IsPlain p

instance (signature : Signature) : Decidable signature.IsPlain :=
  decidable_of_iff (Rendering.IsPlainName signature.name ∧
      ∀ p ∈ signature.parameters, Rendering.IsPlain p)
    ⟨fun ⟨name, parameters⟩ => ⟨name, parameters⟩, fun ⟨name, parameters⟩ => ⟨name, parameters⟩⟩

/-- The layout of class pages: a plain or a no-break space between type and name, and one
space behind a comma. -/
def Rendering.Layout.IsRegular (layout : Layout) : Prop :=
  (layout.gap = .space ∨ layout.gap = .noBreak) ∧ layout.fillers = [.blank ' ' rfl]

instance (layout : Rendering.Layout) : Decidable layout.IsRegular :=
  inferInstanceAs (Decidable (_ ∧ _))

/-- The text of the element is a rendered signature. -/
def Element.Renders (e : Element) (signature : Signature) : Prop :=
  ∃ layouts : List Rendering.Layout,
    layouts.map Rendering.Layout.parameter = signature.parameters ∧
      (∀ layout ∈ layouts, layout.IsRegular) ∧
      e.innerText = Rendering.render signature.name layouts

/-- The row has one cell of the class, and in it one code element, which renders the
signature. -/
def Element.Shows (row : Element) (cellClass : String) (signature : Signature) : Prop :=
  ∃ cell code : Element,
    row.children.elements.filter
        (fun e => e.name = "td" && e.attribute? "class" = some cellClass) = [cell] ∧
      cell.children.elements.filter (fun e => e.name = "code") = [code] ∧
      code.Renders signature

/-- The element is an anchor of a name. -/
def Element.IsAnchor (e : Element) (anchorName : String) : Prop :=
  e.name = "a" ∧ e.attribute? "name" = some anchorName

/-- A page sums up some signatures: without any there need be no anchor, and else there
is one, with one table behind it and in the table one row for each signature below the
heading. -/
inductive Page.Sums (page : Page) (anchorName cellClass : String) : List Signature → Prop
  | absent
      (noAnchor : ∀ e behind, page.nodes.Holds e behind → ¬ e.IsAnchor anchorName) :
      Sums page anchorName cellClass []
  | table {anchor : Element} {behind : Nodes} {table heading : Element}
      {body : List Element} {signatures : List Signature}
      (holds : page.nodes.Holds anchor behind) (isAnchor : anchor.IsAnchor anchorName)
      (alone : ∀ other after, page.nodes.Holds other after → other.IsAnchor anchorName →
        other.serial = anchor.serial)
      (single : behind.elements.filter (fun e => e.name = "table") = [table])
      (rows : table.children.Rows (heading :: body))
      (shows : List.Forall₂ (fun row signature => row.Shows cellClass signature)
        body signatures) :
      Sums page anchorName cellClass signatures

namespace Summary

theorem isAnchor_iff (summary : Summary) (e : Element) :
    summary.isAnchor e = true ↔ e.IsAnchor summary.anchorName := by
  simp [isAnchor, Element.IsAnchor]

/-- An anchor that is found alone stands alone. -/
theorem alone_of_anchors {summary : Summary} {nodes : Nodes} {serial : Nat} {behind : Nodes}
    (h : summary.anchors nodes = [(serial, behind)]) (other : Element) (after : Nodes)
    (hholds : nodes.Holds other after) (hanchor : other.IsAnchor summary.anchorName) :
    other.serial = serial := by
  have hmem : (other.serial, after) ∈ summary.anchors nodes :=
    mem_anchors_iff.mpr ⟨other, rfl, (isAnchor_iff summary other).mpr hanchor, hholds⟩
  rw [h, List.mem_singleton] at hmem
  exact congrArg Prod.fst hmem

/-- The rows of a table are found in groups and outside of them. -/
theorem rows_eq {nodes : Nodes} {found : List Element} (h : nodes.Rows found) (serial : Nat)
    (name : String) (attributes : Html.Attributes) :
    rows ⟨serial, name, attributes, nodes⟩ = found := by
  unfold rows
  induction h with
  | nil => rfl
  | text h ih => exact ih
  | row isRow h ih =>
      rw [Nodes.elements, List.flatMap_cons, ih, if_pos isRow]
      rfl
  | group isGroup h ih =>
      -- A group is no row, so the rows inside it count.
      have hrow : ∀ name : String, name = "thead" ∨ name = "tbody" ∨ name = "tfoot" →
          name ≠ "tr" := by
        rintro name hname rfl
        revert hname
        decide
      have hgroup : ∀ e : Element, e.name = "thead" ∨ e.name = "tbody" ∨ e.name = "tfoot" →
          isRowGroup e = true := by
        intro e he
        simpa [isRowGroup, or_assoc] using he
      rw [Nodes.elements, List.flatMap_cons, ih, if_neg (hrow _ isGroup),
        if_pos (hgroup ⟨_, _, _, _⟩ isGroup)]
      rfl
  | other isOther h ih =>
      simp only [List.mem_cons, List.not_mem_nil, or_false, not_or] at isOther
      obtain ⟨hrow, hhead, hbody, hfoot⟩ := isOther
      rw [Nodes.elements, List.flatMap_cons, ih, if_neg hrow]
      simp [isRowGroup, hhead, hbody, hfoot]

/-- The cells of a row that shows a signature are one code element. -/
theorem exists_code_of_shows {summary : Summary} {row : Element} {signature : Signature}
    (h : row.Shows summary.cellClass signature) :
    ∃ code, summary.rowCells row = [code] ∧ code.Renders signature := by
  obtain ⟨cell, code, hcell, hcode, hrenders⟩ := h
  refine ⟨code, ?_, hrenders⟩
  rw [rowCells, Nodes.named, List.filter_filter]
  have hcells : (row.children.elements.filter fun e =>
      decide (e.attribute? "class" = some summary.cellClass) && decide (e.name = "td")) =
      [cell] := by
    rw [← hcell]
    exact List.filter_congr fun e _ => Bool.and_comm _ _
  rw [hcells, List.flatMap_cons, List.flatMap_nil, List.append_nil]
  exact hcode

/-- The code elements of a summary render the signatures that the page sums up. -/
theorem cells_of_sums (summary : Summary) {page : Page} {signatures : List Signature}
    (h : page.Sums summary.anchorName summary.cellClass signatures) :
    List.Forall₂ Element.Renders (summary.cells page) signatures := by
  cases h with
  | absent noAnchor =>
      have hanchors : summary.anchors page.nodes = [] := by
        apply anchors_eq_nil
        intro e behind hholds
        rw [Bool.eq_false_iff, Ne, isAnchor_iff]
        exact noAnchor e behind hholds
      rw [cells, tables_eq_nil hanchors]
      exact List.Forall₂.nil
  | @table anchor behind table heading body _ holds isAnchor alone single rows shows =>
      have hanchors := anchors_eq_singleton holds ((isAnchor_iff summary anchor).mpr isAnchor)
        fun other after hother hanchor =>
          alone other after hother ((isAnchor_iff summary other).mp hanchor)
      have hrows : Summary.rows table = heading :: body :=
        rows_eq rows table.serial table.name table.attributes
      rw [cells, tables_eq_singleton hanchors single, List.flatMap_cons, List.flatMap_nil,
        List.append_nil, hrows, List.drop_one, List.tail_cons]
      -- The cells go row by row, and each row has one.
      clear rows hrows
      induction shows with
      | nil => exact List.Forall₂.nil
      | cons hrow hrest ih =>
          obtain ⟨code, hcode, hrenders⟩ := exists_code_of_shows hrow
          rw [List.flatMap_cons, hcode]
          exact List.Forall₂.cons hrenders ih

end Summary

/-- What is found in the row of a signature: nothing when it has no parameters. -/
def Signature.found? (signature : Signature) : Option Signature :=
  if signature.parameters = [] then none else some signature

/-- A rendered signature is found again. -/
theorem extract_of_renders {code : Element} {signature : Signature}
    (hplain : signature.IsPlain) (h : code.Renders signature) :
    Extractor.standard.extract (RowText.normalize code.innerText) = signature.found? := by
  obtain ⟨layouts, hparameters, -, htext⟩ := h
  have hlayouts : ∀ layout ∈ layouts, Rendering.IsPlain layout.parameter := by
    intro layout hlayout
    apply hplain.parameters
    rw [← hparameters]
    exact List.mem_map_of_mem hlayout
  rw [htext, Extractor.extract,
    Rendering.parameters_normalize_render hplain.name hlayouts,
    Rendering.before_normalize_render hplain.name, hparameters, Signature.found?]
  obtain ⟨name, parameters⟩ := signature
  cases parameters with
  | nil => rfl
  | cons p rest => rfl

theorem map_extract_of_renders {codes : List Element} {signatures : List Signature}
    (hplain : ∀ signature ∈ signatures, signature.IsPlain)
    (h : List.Forall₂ Element.Renders codes signatures) :
    codes.map (fun code => Extractor.standard.extract (RowText.normalize code.innerText)) =
      signatures.map Signature.found? := by
  induction h with
  | nil => rfl
  | cons hcode hrest ih =>
      rw [List.map_cons, List.map_cons,
        extract_of_renders (hplain _ List.mem_cons_self) hcode,
        ih fun other hother => hplain other (List.mem_cons_of_mem _ hother)]

end JavadocNames
