import JavadocNames.Page.Summary

/-!
# Anchors of a page

An element of a page stands somewhere in the tree, with some nodes behind it.  The
anchors that are found are all of those, and since no two elements of a page have the
same number, an anchor that stands alone is the only one that is found.
-/

namespace JavadocNames

namespace Nodes

/-- The element stands in the nodes, at any depth, and beside it `behind` follows. -/
inductive Holds : Nodes → Element → Nodes → Prop
  | here (serial : Nat) (name : String) (attributes : Html.Attributes)
      (children next : Nodes) :
      Holds (.element serial name attributes children next)
        ⟨serial, name, attributes, children⟩ next
  | text {content : Text} {next : Nodes} {e : Element} {behind : Nodes}
      (h : Holds next e behind) : Holds (.text content next) e behind
  | inside {serial : Nat} {name : String} {attributes : Html.Attributes}
      {children next : Nodes} {e : Element} {behind : Nodes}
      (h : Holds children e behind) :
      Holds (.element serial name attributes children next) e behind
  | next {serial : Nat} {name : String} {attributes : Html.Attributes}
      {children next : Nodes} {e : Element} {behind : Nodes}
      (h : Holds next e behind) :
      Holds (.element serial name attributes children next) e behind

end Nodes

namespace Summary

variable {summary : Summary}

/-- The anchors that are found are those that the nodes hold. -/
theorem mem_anchors_iff {nodes : Nodes} {serial : Nat} {behind : Nodes} :
    (serial, behind) ∈ summary.anchors nodes ↔
      ∃ e, e.serial = serial ∧ summary.isAnchor e = true ∧ nodes.Holds e behind := by
  induction nodes with
  | nil =>
      constructor
      · intro h
        contradiction
      · rintro ⟨e, -, -, hholds⟩
        cases hholds
  | text content next ih =>
      rw [anchors, ih]
      constructor
      · rintro ⟨e, hserial, hanchor, hholds⟩
        exact ⟨e, hserial, hanchor, .text hholds⟩
      · rintro ⟨e, hserial, hanchor, hholds⟩
        cases hholds with
        | text h => exact ⟨e, hserial, hanchor, h⟩
  | element n name attributes children next inside beside =>
      rw [anchors, List.mem_append, List.mem_append, inside, beside]
      constructor
      · rintro ((hhere | hinside) | hnext)
        · split at hhere
          · rename_i hanchor
            obtain ⟨rfl, rfl⟩ := Prod.mk.inj (List.mem_singleton.mp hhere)
            exact ⟨_, rfl, hanchor, .here serial name attributes children behind⟩
          · contradiction
        · obtain ⟨e, hserial, hanchor, hholds⟩ := hinside
          exact ⟨e, hserial, hanchor, .inside hholds⟩
        · obtain ⟨e, hserial, hanchor, hholds⟩ := hnext
          exact ⟨e, hserial, hanchor, .next hholds⟩
      · rintro ⟨e, rfl, hanchor, hholds⟩
        cases hholds with
        | here =>
            left
            left
            rw [if_pos hanchor]
            exact List.mem_singleton.mpr rfl
        | inside h => exact Or.inl (Or.inr ⟨e, rfl, hanchor, h⟩)
        | next h => exact Or.inr ⟨e, rfl, hanchor, h⟩

/-- Each anchor is found by the number of its element, in the order of the tree. -/
theorem anchors_sublist_serials (nodes : Nodes) :
    ((summary.anchors nodes).map Prod.fst).Sublist nodes.serials := by
  induction nodes with
  | nil => exact List.Sublist.refl []
  | text content next ih => exact ih
  | element n name attributes children next inside beside =>
      rw [anchors, List.map_append, List.map_append, Nodes.serials]
      have hrest := inside.append beside
      split
      · exact hrest.cons_cons n
      · exact hrest.cons n

/-- Without an anchor nothing is found. -/
theorem anchors_eq_nil {nodes : Nodes}
    (h : ∀ e behind, nodes.Holds e behind → summary.isAnchor e = false) :
    summary.anchors nodes = [] := by
  rw [List.eq_nil_iff_forall_not_mem]
  rintro ⟨serial, behind⟩ hmem
  obtain ⟨e, -, hanchor, hholds⟩ := mem_anchors_iff.mp hmem
  rw [h e behind hholds] at hanchor
  contradiction

/-- An anchor that stands alone is found once. -/
theorem anchors_eq_singleton {page : Page} {e : Element} {behind : Nodes}
    (hholds : page.nodes.Holds e behind) (hanchor : summary.isAnchor e = true)
    (halone : ∀ other after, page.nodes.Holds other after → summary.isAnchor other = true →
      other.serial = e.serial) :
    summary.anchors page.nodes = [(e.serial, behind)] := by
  have hmem : (e.serial, behind) ∈ summary.anchors page.nodes :=
    mem_anchors_iff.mpr ⟨e, rfl, hanchor, hholds⟩
  have hnodup : ((summary.anchors page.nodes).map Prod.fst).Nodup :=
    (anchors_sublist_serials page.nodes).nodup page.distinct
  have hserial : ∀ found ∈ summary.anchors page.nodes, found.1 = e.serial := by
    rintro ⟨serial, after⟩ hfound
    obtain ⟨other, rfl, hother, hholds⟩ := mem_anchors_iff.mp hfound
    exact halone other after hholds hother
  cases hanchors : summary.anchors page.nodes with
  | nil =>
      rw [hanchors] at hmem
      contradiction
  | cons first rest =>
      rw [hanchors] at hmem hnodup hserial
      have hrest : rest = [] := by
        rw [List.eq_nil_iff_forall_not_mem]
        intro second hsecond
        -- Two anchors of the same number would be in the list of distinct numbers.
        have hfirst := hserial first List.mem_cons_self
        have hsame := hserial second (List.mem_cons_of_mem first hsecond)
        rw [List.map_cons, List.nodup_cons] at hnodup
        apply hnodup.1
        rw [hfirst, ← hsame]
        exact List.mem_map_of_mem hsecond
      subst hrest
      rw [List.mem_singleton.mp hmem]

/-! ## Tables behind an anchor -/

theorem tables_eq_nil {page : Page} (h : summary.anchors page.nodes = []) :
    summary.tables page = [] := by
  unfold tables orderedAnchors
  rw [h, List.mergeSort_nil]
  rfl

/-- Behind a single anchor, a single table is the table of the summary. -/
theorem tables_eq_singleton {page : Page} {serial : Nat} {behind : Nodes} {table : Element}
    (h : summary.anchors page.nodes = [(serial, behind)])
    (htable : behind.named "table" = [table]) : summary.tables page = [table] := by
  unfold tables orderedAnchors
  rw [h, List.mergeSort_singleton, List.flatMap_cons, List.flatMap_nil, htable]
  rfl

end Summary

end JavadocNames
