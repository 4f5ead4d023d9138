import JavadocNames.Proofs.Page.Places

/-!
# Cells in the order of the page

The cells of one table come in the order in which they stand.  Those of all tables do so,
on a page whose elements were made in the order in which they stand, exactly when no
anchor of the summary overtakes another one.  The tables behind an anchor are listed with
it, hence before those of an anchor inside the nodes behind, even if they stand later.
-/

namespace JavadocNames

open Element (InOrder)

namespace Summary

variable {summary : Summary}

/-! ## Cells of one table -/

/-- The signatures in a table. -/
def cellsOf (summary : Summary) (table : Element) : List Element :=
  ((rows table).drop 1).flatMap summary.rowCells

theorem inOrder_rows (table : Element) : InOrder (rows table) table.serials := by
  refine (Element.inOrder_children table).flatMap fun e _ => ?_
  split
  · exact Element.inOrder_self e
  · split
    · exact (Element.inOrder_children e).sublist List.filter_sublist
    · exact List.nil_sublist _

theorem inOrder_rowCells (row : Element) : InOrder (summary.rowCells row) row.serials := by
  have hcells : InOrder ((row.children.named "td").filter fun cell =>
      cell.attribute? "class" = some summary.cellClass) row.serials :=
    (Element.inOrder_children row).sublist (List.filter_sublist.trans List.filter_sublist)
  exact hcells.flatMap fun cell _ =>
    (Element.inOrder_children cell).sublist List.filter_sublist

theorem inOrder_cellsOf (table : Element) : InOrder (summary.cellsOf table) table.serials :=
  ((inOrder_rows table).sublist (List.drop_sublist 1 _)).flatMap fun row _ =>
    inOrder_rowCells row

theorem serial_mem_of_mem_cellsOf {table cell : Element} (h : cell ∈ summary.cellsOf table) :
    cell.serial ∈ table.serials :=
  (inOrder_cellsOf table).serials_sublist.subset (List.mem_map_of_mem h)

/-- A cell stands in its table and in no other table inside that one. -/
theorem holdsApart_of_mem_cellsOf {table cell : Element} (h : cell ∈ summary.cellsOf table) :
    table.children.HoldsApart "table" cell := by
  obtain ⟨row, hrow, hcell⟩ := List.mem_flatMap.mp h
  obtain ⟨e, he, hrow⟩ := List.mem_flatMap.mp (List.mem_of_mem_drop hrow)
  obtain ⟨td, htd, hcode⟩ := List.mem_flatMap.mp hcell
  have hnamed : ∀ {name : String} {nodes : Nodes} {f : Element}, f ∈ nodes.named name →
      f ∈ nodes.elements ∧ f.name = name := fun hf => by
    simpa only [Nodes.named, List.mem_filter, decide_eq_true_eq] using hf
  obtain ⟨htd, hnameTd⟩ := hnamed (List.mem_filter.mp htd).1
  obtain ⟨hcode, hnameCode⟩ := hnamed hcode
  have hcell : row.children.HoldsApart "table" cell :=
    .inside htd (by simp [hnameTd]) (.here hcode (by simp [hnameCode]))
  split at hrow
  case isTrue hname =>
      obtain rfl := List.mem_singleton.mp hrow
      exact .inside he (by simp [hname]) hcell
  case isFalse =>
      split at hrow
      case isFalse => contradiction
      case isTrue hgroup =>
          obtain ⟨hrow, hnameRow⟩ := hnamed hrow
          have hname : e.name ≠ "table" := by
            intro heq
            simp [isRowGroup, heq] at hgroup
          exact .inside he hname (.inside hrow (by simp [hnameRow]) hcell)

/-! ## Anchors that overtake others -/

/-- An anchor with some nodes behind it overtakes another one, which stands inside it or
inside an element behind it: a table behind the other anchor has a cell, and stands in front
of a cell of a table behind the first one. -/
structure Overtakes (summary : Summary) (nodes : Nodes) (outer : Element) (behind : Nodes)
    (inner : Element) (within : Nodes) : Prop where
  outer_isAnchor : summary.isAnchor outer = true
  inner_isAnchor : summary.isAnchor inner = true
  nested : outer.children.Holds inner within ∨
    ∃ e ∈ behind.elements, e.children.Holds inner within
  late : ∃ t ∈ behind.named "table", ∃ u ∈ within.named "table",
    (summary.cellsOf u ≠ [] ∧ ∃ d ∈ summary.cellsOf t, nodes.InFront u d)

/-- Some anchor in the nodes overtakes another one. -/
def IsOvertaking (summary : Summary) (nodes : Nodes) : Prop :=
  ∃ outer behind inner within, nodes.Holds outer behind ∧
    summary.Overtakes nodes outer behind inner within

theorem IsOvertaking.mono {nodes more : Nodes}
    (hmore : ∀ e behind, nodes.Holds e behind → more.Holds e behind)
    (h : summary.IsOvertaking nodes) : summary.IsOvertaking more := by
  obtain ⟨outer, behind, inner, within, hholds, houter, hinner, hnested, t, ht, u, hu, hcells, d,
    hd, hfront⟩ := h
  exact ⟨outer, behind, inner, within, hmore _ _ hholds, houter, hinner, hnested, t, ht, u, hu,
    hcells, d, hd, hfront.mono hmore⟩

/-- A table behind an inner anchor is in front of a cell behind the outer one, behind that cell,
or inside it. -/
theorem inFront_or_of_nested {nodes behind within : Nodes} {outer inner t u d : Element}
    (hholds : nodes.Holds outer behind)
    (hnested : outer.children.Holds inner within ∨
      ∃ e ∈ behind.elements, e.children.Holds inner within)
    (ht : t ∈ behind.named "table") (hu : u ∈ within.named "table")
    (hd : d ∈ summary.cellsOf t) :
    nodes.InFront u d ∨ nodes.InFront d u ∨ ∃ after, d.children.Holds u after := by
  have htBehind := Nodes.named_subset "table" behind ht
  have hapart := holdsApart_of_mem_cellsOf hd
  have htHas : t.Has d := .inr hapart.exists_holds
  have huHolds : ∀ {e : Element}, e.children.Holds inner within →
      ∃ after, e.children.Holds u after := by
    intro e hinner
    obtain ⟨after, hafter⟩ := Nodes.exists_holds_of_mem (Nodes.named_subset "table" within hu)
    exact ⟨after, hinner.of_behind hafter⟩
  rcases hnested with hinside | ⟨e, he, hinside⟩
  · exact .inl ⟨outer, behind, t, hholds, htBehind, .inr (huHolds hinside), htHas⟩
  · have hlift : ∀ {a b : Element}, behind.InFront a b → nodes.InFront a b :=
      .mono fun _ _ hbehind => hholds.of_behind hbehind
    rcases Nodes.eq_or_inFront he htBehind (.inr (huHolds hinside)) htHas with
      rfl | hfront | hback
    · -- The inner anchor stands in the table itself, between its cells.
      obtain ⟨after, huAfter⟩ := huHolds hinside
      obtain ⟨beside, hbeside⟩ := Nodes.exists_holds_of_mem htBehind
      have hname : u.name = "table" := of_decide_eq_true (List.mem_filter.mp hu).2
      have hinto : ∀ {a b : Element}, e.children.InFront a b → nodes.InFront a b := fun h =>
        hlift (hbeside.inFront_of_inside h)
      exact (hapart.inFront_or huAfter hname).imp hinto (.imp_left hinto)
    · exact .inl (hlift hfront)
    · exact .inr (.inl (hlift hback))

/-- What is left of the tables when those beside each other are listed stands deeper. -/
theorem mem_listing_true {nodes : Nodes} {t : Element} :
    t ∈ summary.listing true nodes ↔
      ∃ e ∈ nodes.elements, t ∈ summary.listing false e.children := by
  induction nodes with
  | nil => simp [listing, Nodes.elements]
  | text content next ih => exact ih
  | element serial name attributes children next _ beside =>
      rw [listing_true_element, List.mem_append, beside, Nodes.elements]
      simp only [List.mem_cons, exists_eq_or_imp]

/-- The tables that an anchor leaves for later are those of anchors further inside. -/
theorem mem_nested_iff {children behind : Nodes} {t : Element} :
    t ∈ summary.listing false children ++ summary.listing true behind ↔
      ∃ inner within, (children.Holds inner within ∨
          ∃ e ∈ behind.elements, e.children.Holds inner within) ∧
        summary.isAnchor inner = true ∧ t ∈ within.named "table" := by
  rw [List.mem_append, mem_listing_true]
  constructor
  · rintro (ht | ⟨e, he, ht⟩)
    · obtain ⟨inner, within, hholds, hinner, ht⟩ := mem_listing_iff.mp ht
      exact ⟨inner, within, Or.inl hholds, hinner, ht⟩
    · obtain ⟨inner, within, hholds, hinner, ht⟩ := mem_listing_iff.mp ht
      exact ⟨inner, within, Or.inr ⟨e, he, hholds⟩, hinner, ht⟩
  · rintro ⟨inner, within, hholds | ⟨e, he, hholds⟩, hinner, ht⟩
    · exact Or.inl (mem_listing_iff.mpr ⟨inner, within, hholds, hinner, ht⟩)
    · exact Or.inr ⟨e, he, mem_listing_iff.mpr ⟨inner, within, hholds, hinner, ht⟩⟩

/-! ## An anchor that overtakes another one -/

/-- A table behind an anchor is listed before all tables of anchors further inside. -/
theorem pair_sublist_listing {nodes : Nodes} {outer : Element} {behind : Nodes} {t u : Element}
    (hholds : nodes.Holds outer behind) (houter : summary.isAnchor outer = true)
    (ht : t ∈ behind.named "table")
    (hu : u ∈ summary.listing false outer.children ++ summary.listing true behind) :
    [t, u].Sublist (summary.listing false nodes) ∧
      (t ∈ nodes.named "table" ∧ u ∈ summary.listing true nodes ∨
        [t, u].Sublist (summary.listing true nodes)) := by
  -- The second part is for nodes with an anchor in front, which lists the tables beside it.
  induction hholds with
  | here serial name attributes children next =>
      constructor
      · rw [listing_of_isAnchor houter, List.append_assoc]
        exact (List.singleton_sublist.mpr ht).append (List.singleton_sublist.mpr hu)
      · refine Or.inl ⟨?_, hu⟩
        rw [Nodes.named_element]
        exact List.mem_append_right _ ht
  | text _ ih => exact ih houter ht hu
  | @inside serial name attributes children next _ _ _ ih =>
      obtain ⟨hpair, -⟩ := ih houter ht hu
      have hleft : ∀ rest, [t, u].Sublist (summary.listing false children ++ rest) := fun rest =>
        hpair.trans (List.sublist_append_left _ rest)
      refine ⟨?_, Or.inr (hleft _)⟩
      cases hanchor : summary.isAnchor ⟨serial, name, attributes, children⟩ with
      | true =>
          rw [listing_of_isAnchor hanchor, List.append_assoc]
          exact (hleft _).trans (List.sublist_append_right _ _)
      | false =>
          rw [listing_of_not_isAnchor hanchor]
          exact hleft _
  | @next serial name attributes children next _ _ _ ih =>
      obtain ⟨hpair, hbeside⟩ := ih houter ht hu
      rw [listing_true_element, Nodes.named_element]
      constructor
      · cases hanchor : summary.isAnchor ⟨serial, name, attributes, children⟩ with
        | true =>
            rw [listing_of_isAnchor hanchor, List.append_assoc]
            rcases hbeside with ⟨ht, hu⟩ | hpair
            · -- The anchor in front lists the table, and the other one with what is left.
              exact (List.singleton_sublist.mpr ht).append
                (List.singleton_sublist.mpr (List.mem_append_right _ hu))
            · exact hpair.trans ((List.sublist_append_right _ _).trans
                (List.sublist_append_right _ _))
        | false =>
            rw [listing_of_not_isAnchor hanchor]
            exact hpair.trans (List.sublist_append_right _ _)
      · rcases hbeside with ⟨ht, hu⟩ | hpair
        · exact Or.inl ⟨List.mem_append_right _ ht, List.mem_append_right _ hu⟩
        · exact Or.inr (hpair.trans (List.sublist_append_right _ _))

/-- With an anchor that overtakes another one, cells are out of order. -/
theorem not_pairwise_of_isOvertaking {nodes : Nodes} (hnodes : nodes.serials.Pairwise (· < ·))
    (h : summary.IsOvertaking nodes) :
    ¬ ((summary.listing false nodes).flatMap summary.cellsOf).Pairwise
      fun c d => c.serial < d.serial := by
  obtain ⟨outer, behind, inner, within, hholds, houter, hinner, hnested, t, ht, u, hu, hcells, d,
    hd, hfront⟩ := h
  obtain ⟨c, hc⟩ := List.exists_mem_of_ne_nil _ hcells
  have hlisted := mem_nested_iff.mpr ⟨inner, within, hnested, hinner, hu⟩
  obtain ⟨hpair, -⟩ := pair_sublist_listing hholds houter ht hlisted
  intro hordered
  have hboth : (summary.cellsOf t ++ summary.cellsOf u).Sublist
      ((summary.listing false nodes).flatMap summary.cellsOf) := by
    have hflat := hpair.flatMap summary.cellsOf
    rwa [List.flatMap_cons, List.flatMap_singleton] at hflat
  have hbefore := (List.pairwise_append.mp (hordered.sublist hboth)).2.2 d hd c hc
  have hafter := hfront.lt hnodes (serial_mem_of_mem_cellsOf hc) List.mem_cons_self
  exact Nat.lt_asymm hbefore hafter

/-! ## No anchor that overtakes another one -/

theorem serial_mem_of_mem_flatMap_cellsOf {tables : List Element} {nodes : Nodes} {c : Element}
    (htables : ∀ t ∈ tables, t.serials ⊆ nodes.serials)
    (h : c ∈ tables.flatMap summary.cellsOf) : c.serial ∈ nodes.serials := by
  obtain ⟨t, ht, hc⟩ := List.mem_flatMap.mp h
  exact htables t ht (serial_mem_of_mem_cellsOf hc)

theorem pairwise_flatMap_cellsOf_named {nodes : Nodes} (h : nodes.serials.Pairwise (· < ·)) :
    ((nodes.named "table").flatMap summary.cellsOf).Pairwise fun c d => c.serial < d.serial := by
  have hinOrder : InOrder ((nodes.named "table").flatMap summary.cellsOf) nodes.serials :=
    ((Element.inOrder_elements nodes).sublist List.filter_sublist).flatMap
      fun table _ => inOrder_cellsOf table
  have hserials := h.sublist hinOrder.serials_sublist
  exact List.pairwise_map.mp hserials

/-- Without an anchor that overtakes another one, all cells are in order. -/
theorem pairwise_of_not_isOvertaking (anchored : Bool) {nodes : Nodes}
    (hnodes : nodes.serials.Pairwise (· < ·)) (h : ¬ summary.IsOvertaking nodes) :
    ((summary.listing anchored nodes).flatMap summary.cellsOf).Pairwise
      fun c d => c.serial < d.serial := by
  induction nodes generalizing anchored with
  | nil => exact List.Pairwise.nil
  | text content next ih =>
      exact ih anchored hnodes fun hnext => h (hnext.mono fun _ _ hholds => .text hholds)
  | element serial name attributes children next inside beside =>
      have hrises := hnodes
      rw [Nodes.serials, List.pairwise_cons, List.pairwise_append] at hnodes
      obtain ⟨-, hchildren, hnext, hacross⟩ := hnodes
      have hinside := inside false hchildren fun hinner =>
        h (hinner.mono fun _ _ hholds => .inside hholds)
      have hbeside := fun anchored => beside anchored hnext fun hinner =>
        h (hinner.mono fun _ _ hholds => .next hholds)
      -- What stands inside the element comes before what stands behind it.
      have hbehind : ∀ b, ∀ c ∈ (summary.listing false children).flatMap summary.cellsOf,
          ∀ d ∈ (summary.listing b next).flatMap summary.cellsOf, c.serial < d.serial :=
        fun b c hc d hd => hacross _
          (serial_mem_of_mem_flatMap_cellsOf (fun _ => serials_subset_of_mem_listing) hc) _
          (serial_mem_of_mem_flatMap_cellsOf (fun _ => serials_subset_of_mem_listing) hd)
      have hplain : ∀ b, ((summary.listing false children ++ summary.listing b next).flatMap
          summary.cellsOf).Pairwise fun c d => c.serial < d.serial := by
        intro b
        rw [List.flatMap_append, List.pairwise_append]
        exact ⟨hinside, hbeside b, hbehind b⟩
      cases anchored with
      | true => exact hplain true
      | false =>
          cases hanchor : summary.isAnchor ⟨serial, name, attributes, children⟩ with
          | false =>
              rw [listing_of_not_isAnchor hanchor]
              exact hplain false
          | true =>
              rw [listing_of_isAnchor hanchor, List.append_assoc, List.flatMap_append,
                List.pairwise_append]
              refine ⟨pairwise_flatMap_cellsOf_named hnext, hplain true, ?_⟩
              intro d hd c hc
              obtain ⟨t, ht, hd⟩ := List.mem_flatMap.mp hd
              obtain ⟨u, hu, hc⟩ := List.mem_flatMap.mp hc
              obtain ⟨inner, within, hnested, hinner, hu⟩ := mem_nested_iff.mp hu
              have hholds := Nodes.Holds.here serial name attributes children next
              have hcells : summary.cellsOf u ≠ [] := List.ne_nil_of_mem hc
              have hcSerial := serial_mem_of_mem_cellsOf hc
              rcases inFront_or_of_nested hholds hnested ht hu hd with
                hfront | hback | ⟨after, hinside⟩
              · -- The anchor overtakes the one behind which the other table stands.
                exact absurd ⟨_, next, inner, within, hholds, hanchor, hinner, hnested, t, ht, u,
                  hu, hcells, d, hd, hfront⟩ h
              · exact hback.lt hrises List.mem_cons_self hcSerial
              · obtain ⟨beside, hbeside⟩ := Nodes.exists_holds_of_mem
                  (Nodes.named_subset "table" next ht)
                obtain ⟨after', hd⟩ := (holdsApart_of_mem_cellsOf hd).exists_holds
                have hdHolds := hholds.of_behind (hbeside.of_inside hd)
                exact hdHolds.lt_of_inside hrises hinside hcSerial

theorem cells_eq_listing {page : Page} (hpage : page.nodes.serials.Pairwise (· < ·)) :
    summary.cells page = (summary.listing false page.nodes).flatMap summary.cellsOf := by
  rw [← tables_eq_listing hpage]
  rfl

/-- The cells of a page come in the order in which they stand exactly when no anchor overtakes
another one. -/
theorem pairwise_cells_iff {page : Page} (hpage : page.nodes.serials.Pairwise (· < ·)) :
    ((summary.cells page).Pairwise fun c d => c.serial < d.serial) ↔
      ¬ summary.IsOvertaking page.nodes := by
  rw [cells_eq_listing hpage]
  exact ⟨fun hordered h => not_pairwise_of_isOvertaking hpage h hordered,
    pairwise_of_not_isOvertaking false hpage⟩

end Summary

end JavadocNames
