import JavadocNames.Proofs.Page.Order
import JavadocNames.Proofs.Page.Places

/-!
# The cells that are read

A code element of a page is read for a summary exactly when it stands where a signature
stands: in a cell of the class of the summary, in a row of a table that has an anchor of the
summary somewhere before it among its siblings, and not in the first row of that table,
whichever part of the table that row is in.  No code element is read twice on a page, not
even once for each summary, and those of one table are read in the order of the page.
-/

namespace JavadocNames

namespace Page

/-- A row of a table, in a group of rows or not. -/
def IsRow (page : Page) (row table : Element) : Prop :=
  row.name = "tr" ∧
    (page.IsChild row table ∨
      ∃ group, group.name ∈ ["thead", "tbody", "tfoot"] ∧ page.IsChild group table ∧
        page.IsChild row group)

theorem IsRow.exists_holds {page : Page} {row table : Element} (h : page.IsRow row table) :
    ∃ behind, page.nodes.Holds row behind := by
  obtain ⟨-, hchild | ⟨group, -, -, hchild⟩⟩ := h
  · exact hchild.exists_holds
  · exact hchild.exists_holds

/-- A row of one table is no row of another one. -/
theorem IsRow.unique {page : Page} {row table other : Element} (h : page.IsRow row table)
    (hother : page.IsRow row other) (htable : table.name = "table")
    (hname : other.name = "table") : table = other := by
  have hgroup : ∀ group : Element, group.name ∈ ["thead", "tbody", "tfoot"] →
      group.name ≠ "table" := by
    intro group hmem heq
    rw [heq] at hmem
    exact absurd hmem (by decide)
  obtain ⟨-, hchild | ⟨group, hmem, hgroups, hchild⟩⟩ := h
  · obtain ⟨-, hchild' | ⟨group', hmem', -, hchild'⟩⟩ := hother
    · exact hchild.unique hchild' rfl
    · obtain rfl := hchild.unique hchild' rfl
      exact absurd htable (hgroup _ hmem')
  · obtain ⟨-, hchild' | ⟨group', hmem', hgroups', hchild'⟩⟩ := hother
    · obtain rfl := hchild.unique hchild' rfl
      exact absurd hname (hgroup _ hmem)
    · obtain rfl := hchild.unique hchild' rfl
      exact hgroups.unique hgroups' rfl

end Page

namespace Summary

/-- A table of the summary: an anchor of the summary stands before it beside it. -/
def IsTable (summary : Summary) (page : Page) (table : Element) : Prop :=
  table.name = "table" ∧
    ∃ anchor behind, page.nodes.Holds anchor behind ∧ table ∈ behind.elements ∧
      anchor.name = "a" ∧ anchor.attribute? "name" = some summary.anchorName

/-- A signature in a table: a code element in a cell of the class of the summary, in a row
that has another row of the table before it. -/
def IsCell (summary : Summary) (page : Page) (table code : Element) : Prop :=
  ∃ cell row, code.name = "code" ∧ page.IsChild code cell ∧
    cell.name = "td" ∧ cell.attribute? "class" = some summary.cellClass ∧
    page.IsChild cell row ∧ page.IsRow row table ∧
    ∃ heading, page.IsRow heading table ∧ page.Precedes heading row

variable {summary : Summary} {page : Page} {table : Element}

/-! ## One table for each cell -/

/-- A code element is a signature of one table only, and of one summary. -/
theorem IsCell.unique {summary' : Summary} {other code code' : Element}
    (h : summary.IsCell page table code) (h' : summary'.IsCell page other code')
    (htable : table.name = "table") (hother : other.name = "table")
    (heq : code.serial = code'.serial) :
    table = other ∧ summary.cellClass = summary'.cellClass := by
  obtain ⟨cell, row, -, hcode, -, hclass, hcell, hrow, -⟩ := h
  obtain ⟨cell', row', -, hcode', -, hclass', hcell', hrow', -⟩ := h'
  obtain rfl := hcode.unique hcode' heq
  obtain rfl := hcell.unique hcell' rfl
  exact ⟨hrow.unique hrow' htable hother, Option.some.inj (hclass.symm.trans hclass')⟩

/-! ## The signatures of a table -/

theorem isRowGroup_iff {e : Element} :
    isRowGroup e = true ↔ e.name ∈ ["thead", "tbody", "tfoot"] := by
  simp [isRowGroup, or_assoc]

theorem mem_named_iff {name : String} {nodes : Nodes} {e : Element} :
    e ∈ nodes.named name ↔ e ∈ nodes.elements ∧ e.name = name := by
  simp [Nodes.named]

/-- The rows that are found are the rows of the table. -/
theorem mem_rows_iff {behind : Nodes} (h : page.nodes.Holds table behind) {row : Element} :
    row ∈ rows table ↔ page.IsRow row table := by
  rw [rows, List.mem_flatMap]
  constructor
  · rintro ⟨e, he, hrow⟩
    by_cases hname : e.name = "tr"
    · rw [if_pos hname, List.mem_singleton] at hrow
      subst hrow
      exact ⟨hname, Or.inl ⟨⟨behind, h⟩, he⟩⟩
    · by_cases hgroup : isRowGroup e = true
      · rw [if_neg hname, if_pos hgroup, mem_named_iff] at hrow
        have hchild : page.IsChild e table := ⟨⟨behind, h⟩, he⟩
        exact ⟨hrow.2, Or.inr ⟨e, isRowGroup_iff.mp hgroup, hchild, hchild.exists_holds, hrow.1⟩⟩
      · rw [if_neg hname, if_neg hgroup] at hrow
        contradiction
  · rintro ⟨hname, ⟨-, hrow⟩ | ⟨group, hgroup, ⟨-, he⟩, ⟨-, hrow⟩⟩⟩
    · refine ⟨row, hrow, ?_⟩
      rw [if_pos hname]
      exact List.mem_singleton.mpr rfl
    · have hother : group.name ≠ "tr" := by
        intro heq
        rw [heq] at hgroup
        exact absurd hgroup (by decide)
      refine ⟨group, he, ?_⟩
      rw [if_neg hother, if_pos (isRowGroup_iff.mpr hgroup), mem_named_iff]
      exact ⟨hrow, hname⟩

theorem mem_rowCells_iff {row code : Element} :
    code ∈ summary.rowCells row ↔ ∃ cell ∈ row.children.elements, cell.name = "td" ∧
      cell.attribute? "class" = some summary.cellClass ∧ code ∈ cell.children.elements ∧
      code.name = "code" := by
  simp only [rowCells, List.mem_flatMap, List.mem_filter, mem_named_iff, decide_eq_true_eq,
    and_assoc]

/-- Elements with another one before them are all but the first. -/
theorem mem_drop_one_iff {es : List Element} (h : es.Pairwise page.Precedes) {e : Element} :
    e ∈ es.drop 1 ↔ e ∈ es ∧ ∃ other ∈ es, page.Precedes other e := by
  cases es with
  | nil => simp
  | cons first rest =>
      have hfirst := (List.pairwise_cons.mp h).1
      rw [List.drop_one, List.tail_cons]
      constructor
      · intro he
        exact ⟨List.mem_cons_of_mem first he, first, List.mem_cons_self, hfirst e he⟩
      · rintro ⟨he, other, hother, hbefore⟩
        rcases List.mem_cons.mp he with rfl | he
        · -- Nothing precedes the first one, not even itself.
          rcases List.mem_cons.mp hother with rfl | hother
          · exact absurd hbefore hbefore.asymm
          · exact absurd hbefore (hfirst other hother).asymm
        · exact he

theorem pairwise_cellsOf {behind : Nodes} (h : page.nodes.Holds table behind) :
    (summary.cellsOf table).Pairwise page.Precedes :=
  Page.pairwise_precedes ((inOrder_cellsOf table).serials_sublist.trans h.serials_sublist)

/-- The cells that are read in a table are its signatures. -/
theorem mem_cellsOf_iff {behind : Nodes} (h : page.nodes.Holds table behind)
    {code : Element} : code ∈ summary.cellsOf table ↔ summary.IsCell page table code := by
  have hrows : (rows table).Pairwise page.Precedes :=
    Page.pairwise_precedes ((inOrder_rows table).serials_sublist.trans h.serials_sublist)
  rw [cellsOf, List.mem_flatMap]
  constructor
  · rintro ⟨row, hrow, hcode⟩
    obtain ⟨hmem, heading, hheading, hbefore⟩ := (mem_drop_one_iff hrows).mp hrow
    obtain ⟨cell, hcell, hname, hclass, hinside, hcodeName⟩ := mem_rowCells_iff.mp hcode
    have hisRow := (mem_rows_iff h).mp hmem
    have hchild : page.IsChild cell row := ⟨hisRow.exists_holds, hcell⟩
    exact ⟨cell, row, hcodeName, ⟨hchild.exists_holds, hinside⟩, hname, hclass, hchild, hisRow,
      heading, (mem_rows_iff h).mp hheading, hbefore⟩
  · rintro ⟨cell, row, hcodeName, hcode, hname, hclass, hcell, hrow, heading, hheading, hbefore⟩
    refine ⟨row, (mem_drop_one_iff hrows).mpr ⟨(mem_rows_iff h).mpr hrow, heading, ?_, hbefore⟩,
      mem_rowCells_iff.mpr ⟨cell, hcell.2, hname, hclass, hcode.2, hcodeName⟩⟩
    exact (mem_rows_iff h).mpr hheading

/-! ## The tables of a summary -/

theorem IsTable.exists_holds (h : summary.IsTable page table) :
    ∃ behind, page.nodes.Holds table behind := by
  obtain ⟨-, anchor, behind, hholds, hmem, -⟩ := h
  obtain ⟨after, hafter⟩ := Nodes.exists_holds_of_mem hmem
  exact ⟨after, hholds.of_behind hafter⟩

/-- The tables behind the anchors, in any order and however often. -/
theorem mem_orderedTables_iff :
    table ∈ ((summary.orderedAnchors page.nodes).flatMap fun anchor => anchor.2.named "table") ↔
      summary.IsTable page table := by
  have hperm : (summary.orderedAnchors page.nodes).Perm (summary.anchors page.nodes) :=
    List.mergeSort_perm _ _
  simp only [List.mem_flatMap, hperm.mem_iff, mem_named_iff]
  constructor
  · rintro ⟨⟨serial, behind⟩, hanchor, hmem, hname⟩
    obtain ⟨anchor, -, hanchor, hholds⟩ := mem_anchors_iff.mp hanchor
    simp only [isAnchor, Bool.and_eq_true, decide_eq_true_eq] at hanchor
    exact ⟨hname, anchor, behind, hholds, hmem, hanchor⟩
  · rintro ⟨hname, anchor, behind, hholds, hmem, hanchor⟩
    have hisAnchor : summary.isAnchor anchor = true := by simpa [isAnchor] using hanchor
    exact ⟨(anchor.serial, behind), mem_anchors_iff.mpr ⟨anchor, rfl, hisAnchor, hholds⟩, hmem,
      hname⟩

/-- Where elements of the same number are the same, leaving out those that occur again leaves
out none. -/
theorem mem_distinct_iff {es : List Element}
    (h : ∀ e ∈ es, ∀ f ∈ es, e.serial = f.serial → e = f) {e : Element} :
    e ∈ distinct es ↔ e ∈ es := by
  induction es with
  | nil => rfl
  | cons first rest ih =>
      have hrest : ∀ e ∈ rest, ∀ f ∈ rest, e.serial = f.serial → e = f :=
        fun e he f hf => h e (List.mem_cons_of_mem first he) f (List.mem_cons_of_mem first hf)
      rw [distinct_cons, List.mem_cons, List.mem_cons, List.mem_filter, ih hrest]
      constructor
      · exact Or.imp_right And.left
      · rintro (rfl | he)
        · exact Or.inl rfl
        · by_cases hserial : e.serial = first.serial
          · exact Or.inl (h e (List.mem_cons_of_mem first he) first List.mem_cons_self hserial)
          · exact Or.inr ⟨he, by simpa using hserial⟩

theorem nodup_distinct (es : List Element) : ((distinct es).map Element.serial).Nodup := by
  induction es with
  | nil => exact List.nodup_nil
  | cons first rest ih =>
      rw [distinct_cons, List.map_cons, List.nodup_cons]
      constructor
      · simp
      · exact (List.filter_sublist.map Element.serial).nodup ih

/-- The tables that are read are those of the summary. -/
theorem mem_tables_iff : table ∈ summary.tables page ↔ summary.IsTable page table := by
  show table ∈ distinct _ ↔ _
  rw [mem_distinct_iff, mem_orderedTables_iff]
  intro e he f hf heq
  obtain ⟨behind, hholds⟩ := (mem_orderedTables_iff.mp he).exists_holds
  obtain ⟨after, hafter⟩ := (mem_orderedTables_iff.mp hf).exists_holds
  exact hholds.eq_of_serial_eq hafter page.distinct heq

/-! ## All cells of a page -/

theorem mem_cells_iff {code : Element} :
    code ∈ summary.cells page ↔
      ∃ table, summary.IsTable page table ∧ summary.IsCell page table code := by
  show code ∈ (summary.tables page).flatMap summary.cellsOf ↔ _
  rw [List.mem_flatMap]
  refine exists_congr fun table => ?_
  rw [mem_tables_iff]
  refine and_congr_right fun htable => ?_
  obtain ⟨behind, hholds⟩ := htable.exists_holds
  exact mem_cellsOf_iff hholds

/-- What holds of two cells of one table, the one before the other, and of any two cells of
different tables holds of all cells in the order in which they are read. -/
theorem pairwise_cells {related : Element → Element → Prop}
    (hsame : ∀ table, summary.IsTable page table → (summary.cellsOf table).Pairwise related)
    (hother : ∀ table other code code', table ≠ other → summary.IsTable page table →
      summary.IsTable page other → summary.IsCell page table code →
      summary.IsCell page other code' → related code code') :
    (summary.cells page).Pairwise related := by
  show ((summary.tables page).flatMap summary.cellsOf).Pairwise related
  rw [List.pairwise_flatMap]
  refine ⟨fun table htable => hsame table (mem_tables_iff.mp htable), ?_⟩
  have hserials : ((summary.tables page).map Element.serial).Nodup := nodup_distinct _
  rw [List.Nodup, List.pairwise_map] at hserials
  refine hserials.imp_of_mem fun {table other} htable hmem hne code hcode code' hcode' => ?_
  rw [mem_tables_iff] at htable hmem
  obtain ⟨behind, hholds⟩ := htable.exists_holds
  obtain ⟨after, hafter⟩ := hmem.exists_holds
  exact hother table other code code' (fun heq => hne (congrArg Element.serial heq)) htable hmem
    ((mem_cellsOf_iff hholds).mp hcode) ((mem_cellsOf_iff hafter).mp hcode')

theorem nodup_cells : ((summary.cells page).map Element.serial).Nodup := by
  rw [List.Nodup, List.pairwise_map]
  refine pairwise_cells ?_ ?_
  · intro table htable
    obtain ⟨behind, hholds⟩ := htable.exists_holds
    refine (pairwise_cellsOf hholds).imp fun {code other} hbefore heq => ?_
    rw [Page.Precedes, heq] at hbefore
    exact absurd hbefore (Nat.lt_irrefl _)
  · intro table other code code' hne htable hother hcode hcode' heq
    exact hne (hcode.unique hcode' htable.1 hother.1 heq).1

/-- The code elements that are read on a page.  For each summary they are its signatures, no
element is read twice, be it for one summary or for both, and those of one table are read in
the order in which they stand. -/
theorem cells_selected (page : Page) :
    (∀ (summary : Summary) (code : Element), code ∈ summary.cells page ↔
        ∃ table, summary.IsTable page table ∧ summary.IsCell page table code) ∧
      ((constructors.cells page ++ methods.cells page).map Element.serial).Nodup ∧
      ∀ summary : Summary, (summary.cells page).Pairwise fun code other =>
        ∀ table, summary.IsTable page table → summary.IsCell page table code →
          summary.IsCell page table other → page.Precedes code other := by
  refine ⟨fun summary code => mem_cells_iff, ?_, fun summary => pairwise_cells ?_ ?_⟩
  · rw [List.map_append, List.nodup_append]
    refine ⟨nodup_cells, nodup_cells, ?_⟩
    intro n hn m hm heq
    obtain ⟨code, hcode, rfl⟩ := List.mem_map.mp hn
    obtain ⟨other, hother, rfl⟩ := List.mem_map.mp hm
    obtain ⟨table, htable, hcode⟩ := mem_cells_iff.mp hcode
    obtain ⟨table', htable', hother⟩ := mem_cells_iff.mp hother
    have hclass := (hcode.unique hother htable.1 htable'.1 heq).2
    exact absurd hclass (by decide)
  · intro table htable
    obtain ⟨behind, hholds⟩ := htable.exists_holds
    exact (pairwise_cellsOf hholds).imp fun hbefore _ _ _ _ => hbefore
  · intro table other code code' hne htable hother hcode hcode' shared hshared hin hin'
    obtain rfl := (hcode.unique hin htable.1 hshared.1 rfl).1
    exact absurd (hin'.unique hcode' hshared.1 hother.1 rfl).1 hne

end Summary

end JavadocNames
