import Mathlib.Data.List.Flatten
import JavadocNames.Proofs.Page.Anchors

/-!
# Tables in the order of the tree

The tables of a summary are those behind its anchors, each table once.  On a page whose
elements were made in the order in which they stand, the tables beside each other come
with the first anchor among them, before all tables that stand deeper behind it.  So the
tables can be listed in one walk through the tree.
-/

namespace JavadocNames

/-- The numbers of an element and of all elements in it. -/
def Element.serials (e : Element) : List Nat :=
  e.serial :: e.children.serials

namespace Nodes

theorem flatMap_serials_elements (nodes : Nodes) :
    nodes.elements.flatMap Element.serials = nodes.serials := by
  induction nodes with
  | nil => rfl
  | text content next ih => exact ih
  | element serial name attributes children next _ ih =>
      rw [elements, List.flatMap_cons, ih]
      rfl

end Nodes

namespace Element

/-- The elements stand one behind the other and none inside another, somewhere among
elements of the given numbers. -/
def InOrder (es : List Element) (serials : List Nat) : Prop :=
  (es.flatMap Element.serials).Sublist serials

variable {es : List Element} {serials : List Nat}

theorem inOrder_self (e : Element) : InOrder [e] e.serials := by
  simp only [InOrder, List.flatMap_singleton, List.Sublist.refl]

theorem inOrder_elements (nodes : Nodes) : InOrder nodes.elements nodes.serials := by
  simp only [InOrder, Nodes.flatMap_serials_elements, List.Sublist.refl]

theorem inOrder_children (e : Element) : InOrder e.children.elements e.serials :=
  (inOrder_elements e.children).cons e.serial

theorem InOrder.sublist {some : List Element} (h : InOrder es serials)
    (hsome : some.Sublist es) : InOrder some serials :=
  (hsome.flatMap _).trans h

theorem InOrder.flatMap {f : Element → List Element} (h : InOrder es serials)
    (hf : ∀ e ∈ es, InOrder (f e) e.serials) : InOrder (es.flatMap f) serials := by
  rw [InOrder, List.flatMap_assoc]
  exact (List.Sublist.flatMap_right es hf).trans h

theorem InOrder.serials_sublist (h : InOrder es serials) :
    (es.map Element.serial).Sublist serials := by
  have hfirst : (es.flatMap fun e => [e.serial]).Sublist (es.flatMap Element.serials) :=
    List.Sublist.flatMap_right es fun e _ =>
      List.singleton_sublist.mpr List.mem_cons_self
  rw [List.map_eq_flatMap]
  exact hfirst.trans h

end Element

namespace Nodes

theorem serials_subset_of_mem {nodes : Nodes} {e : Element} (h : e ∈ nodes.elements) :
    e.serials ⊆ nodes.serials := by
  intro n hn
  rw [← flatMap_serials_elements]
  exact List.mem_flatMap.mpr ⟨e, h, hn⟩

theorem serial_mem_serials {nodes : Nodes} {e : Element} (h : e ∈ nodes.elements) :
    e.serial ∈ nodes.serials :=
  serials_subset_of_mem h List.mem_cons_self

theorem serials_subset_of_holds {nodes : Nodes} {e : Element} {behind : Nodes}
    (h : nodes.Holds e behind) : behind.serials ⊆ nodes.serials := by
  induction h with
  | here serial name attributes children next =>
      exact fun n hn => List.mem_cons_of_mem _ (List.mem_append_right _ hn)
  | text _ ih => exact ih
  | inside _ ih => exact fun n hn => List.mem_cons_of_mem _ (List.mem_append_left _ (ih hn))
  | next _ ih => exact fun n hn => List.mem_cons_of_mem _ (List.mem_append_right _ (ih hn))

theorem named_subset (name : String) (nodes : Nodes) : nodes.named name ⊆ nodes.elements :=
  fun _ h => (List.mem_filter.mp h).1

/-- The numbers of the elements of a name among some nodes. -/
def namedSerials (name : String) (nodes : Nodes) : List Nat :=
  (nodes.named name).map Element.serial

theorem namedSerials_sublist (name : String) (nodes : Nodes) :
    (nodes.namedSerials name).Sublist nodes.serials :=
  ((Element.inOrder_elements nodes).sublist List.filter_sublist).serials_sublist

theorem named_element (tag : String) (serial : Nat) (name : String)
    (attributes : Html.Attributes) (children next : Nodes) :
    (element serial name attributes children next).named tag =
      (if name = tag then [⟨serial, name, attributes, children⟩] else []) ++ next.named tag := by
  by_cases h : name = tag <;> simp [named, elements, h]

theorem mem_namedSerials_element {tag : String} {serial : Nat} {name : String}
    {attributes : Html.Attributes} {children next : Nodes} {n : Nat}
    (h : n ∈ (element serial name attributes children next).namedSerials tag) :
    n = serial ∨ n ∈ next.namedSerials tag := by
  rw [namedSerials, named_element, List.map_append, List.mem_append] at h
  refine h.imp_left fun h => ?_
  split at h
  · exact List.mem_singleton.mp h
  · contradiction

theorem namedSerials_subset_element (tag : String) (serial : Nat) (name : String)
    (attributes : Html.Attributes) (children next : Nodes) :
    next.namedSerials tag ⊆ (element serial name attributes children next).namedSerials tag := by
  intro n hn
  rw [namedSerials, named_element, List.map_append]
  exact List.mem_append_right _ hn

/-- Different numbers stay different inside an element, behind it and between both. -/
theorem nodup_element {serial : Nat} {name : String} {attributes : Html.Attributes}
    {children next : Nodes} (h : (element serial name attributes children next).serials.Nodup) :
    serial ∉ children.serials ∧ serial ∉ next.serials ∧ children.serials.Nodup ∧
      next.serials.Nodup ∧ ∀ n ∈ children.serials, n ∉ next.serials := by
  rw [serials, List.nodup_cons, List.mem_append, not_or, List.nodup_append] at h
  obtain ⟨⟨hchildren, hnext⟩, hinside, hbehind, hdisjoint⟩ := h
  exact ⟨hchildren, hnext, hinside, hbehind, fun n hn hn' => hdisjoint n hn n hn' rfl⟩

end Nodes

namespace Summary

/-! ## Each element once -/

/-- More numbers among those seen take more elements away. -/
theorem firstOnes_eq_filter {seen more all : List Nat}
    (hall : ∀ n, n ∈ all ↔ n ∈ more ∨ n ∈ seen) (es : List Element) :
    firstOnes all es = (firstOnes seen es).filter fun e => e.serial ∉ more := by
  induction es generalizing seen all with
  | nil => rfl
  | cons e rest ih =>
      by_cases hseen : e.serial ∈ seen
      · have hskip : e.serial ∈ all := (hall _).mpr (Or.inr hseen)
        rw [firstOnes, firstOnes, if_pos hskip, if_pos hseen, ih hall]
      by_cases hmore : e.serial ∈ more
      · have hskip : e.serial ∈ all := (hall _).mpr (Or.inl hmore)
        have hsame : ∀ n, n ∈ all ↔ n ∈ more ∨ n ∈ e.serial :: seen := by grind
        rw [firstOnes, firstOnes, if_pos hskip, if_neg hseen, ih hsame,
          List.filter_cons_of_neg (by simpa using hmore)]
      · have hkeep : e.serial ∉ all := by grind
        have hsame : ∀ n, n ∈ e.serial :: all ↔ n ∈ more ∨ n ∈ e.serial :: seen := by grind
        rw [firstOnes, firstOnes, if_neg hkeep, if_neg hseen, ih hsame,
          List.filter_cons_of_pos (by simpa using hmore)]

/-- Elements without those whose number occurs earlier in the list. -/
def distinct (es : List Element) : List Element :=
  firstOnes [] es

theorem distinct_cons (e : Element) (rest : List Element) :
    distinct (e :: rest) = e :: (distinct rest).filter fun other => other.serial ∉ [e.serial] := by
  have hall : ∀ n, n ∈ [e.serial] ↔ n ∈ [e.serial] ∨ n ∈ [] := by simp
  rw [distinct, firstOnes, if_neg List.not_mem_nil, distinct, firstOnes_eq_filter hall rest]

theorem distinct_append (es others : List Element) :
    distinct (es ++ others) =
      distinct es ++ (distinct others).filter fun e => e.serial ∉ es.map Element.serial := by
  induction es with
  | nil =>
      exact (List.filter_eq_self.mpr fun e _ => decide_eq_true List.not_mem_nil).symm
  | cons e rest ih =>
      rw [List.cons_append, distinct_cons, distinct_cons, ih, List.filter_append,
        List.filter_filter, List.cons_append]
      congr 3
      funext other
      simp [not_or]

theorem distinct_of_nodup {es : List Element} (h : (es.map Element.serial).Nodup) :
    distinct es = es := by
  induction es with
  | nil => rfl
  | cons e rest ih =>
      rw [List.map_cons, List.nodup_cons] at h
      rw [distinct_cons, ih h.2, List.filter_eq_self.mpr]
      intro other hother
      have hne : other.serial ≠ e.serial := fun heq =>
        h.1 (heq ▸ List.mem_map_of_mem hother)
      simpa using hne

/-! ## The listing -/

variable (summary : Summary)

/-- The tables behind the anchors in some nodes, anchor by anchor. -/
def anchorTables (nodes : Nodes) : List Element :=
  (summary.anchors nodes).flatMap fun anchor => anchor.2.named "table"

/-- The tables of the summary in some nodes.  When an anchor stands before the nodes, the
tables beside it have been listed with it, and those inside the nodes are left. -/
def listing (anchored : Bool) : Nodes → List Element
  | .nil => []
  | .text _ next => listing anchored next
  | .element serial name attributes children next =>
      if !anchored && summary.isAnchor ⟨serial, name, attributes, children⟩ then
        next.named "table" ++ listing false children ++ listing true next
      else listing false children ++ listing anchored next

variable {summary}

/-- With the tables beside each other listed, each element leaves the tables inside it. -/
theorem listing_true_element (serial : Nat) (name : String) (attributes : Html.Attributes)
    (children next : Nodes) :
    summary.listing true (.element serial name attributes children next) =
      summary.listing false children ++ summary.listing true next := rfl

theorem listing_of_isAnchor {serial : Nat} {name : String} {attributes : Html.Attributes}
    {children : Nodes} (h : summary.isAnchor ⟨serial, name, attributes, children⟩ = true)
    (next : Nodes) :
    summary.listing false (.element serial name attributes children next) =
      next.named "table" ++ summary.listing false children ++ summary.listing true next := by
  rw [listing, h]
  rfl

theorem listing_of_not_isAnchor {serial : Nat} {name : String} {attributes : Html.Attributes}
    {children : Nodes} (h : summary.isAnchor ⟨serial, name, attributes, children⟩ = false)
    (next : Nodes) :
    summary.listing false (.element serial name attributes children next) =
      summary.listing false children ++ summary.listing false next := by
  rw [listing, h]
  rfl

theorem anchorTables_of_isAnchor {serial : Nat} {name : String} {attributes : Html.Attributes}
    {children : Nodes} (h : summary.isAnchor ⟨serial, name, attributes, children⟩ = true)
    (next : Nodes) :
    summary.anchorTables (.element serial name attributes children next) =
      next.named "table" ++ summary.anchorTables children ++ summary.anchorTables next := by
  rw [anchorTables, anchors, if_pos h, List.flatMap_append, List.flatMap_append,
    List.flatMap_singleton]
  rfl

theorem anchorTables_of_not_isAnchor {serial : Nat} {name : String}
    {attributes : Html.Attributes} {children : Nodes}
    (h : summary.isAnchor ⟨serial, name, attributes, children⟩ = false) (next : Nodes) :
    summary.anchorTables (.element serial name attributes children next) =
      summary.anchorTables children ++ summary.anchorTables next := by
  rw [anchorTables, anchors, h, if_neg Bool.false_ne_true, List.nil_append, List.flatMap_append]
  rfl

/-- The tables inside the nodes are among all tables. -/
theorem mem_listing_of_mem_listing_true {nodes : Nodes} {t : Element}
    (h : t ∈ summary.listing true nodes) : t ∈ summary.listing false nodes := by
  induction nodes with
  | nil => exact h
  | text content next ih => exact ih h
  | element serial name attributes children next _ beside =>
      rw [listing_true_element, List.mem_append] at h
      cases hanchor : summary.isAnchor ⟨serial, name, attributes, children⟩ with
      | true =>
          rw [listing_of_isAnchor hanchor, List.append_assoc, List.mem_append, List.mem_append]
          exact Or.inr h
      | false =>
          rw [listing_of_not_isAnchor hanchor, List.mem_append]
          exact h.imp id beside

/-- A table that is listed stands beside the nodes or inside one of them. -/
theorem mem_named_or_mem_listing_true {nodes : Nodes} {t : Element}
    (h : t ∈ summary.listing false nodes) :
    t ∈ nodes.named "table" ∨ t ∈ summary.listing true nodes := by
  induction nodes with
  | nil => exact Or.inr h
  | text content next ih => exact ih h
  | element serial name attributes children next _ beside =>
      rw [listing_true_element, Nodes.named_element, List.mem_append, List.mem_append]
      cases hanchor : summary.isAnchor ⟨serial, name, attributes, children⟩ with
      | true =>
          rw [listing_of_isAnchor hanchor, List.append_assoc, List.mem_append,
            List.mem_append] at h
          exact h.imp Or.inr id
      | false =>
          rw [listing_of_not_isAnchor hanchor, List.mem_append] at h
          rcases h with h | h
          · exact Or.inr (Or.inl h)
          · exact (beside h).imp Or.inr Or.inr

/-- The tables that are listed are those behind the anchors. -/
theorem mem_listing_false {nodes : Nodes} {t : Element} :
    t ∈ summary.listing false nodes ↔ t ∈ summary.anchorTables nodes := by
  induction nodes with
  | nil => rfl
  | text content next ih => exact ih
  | element serial name attributes children next inside beside =>
      cases hanchor : summary.isAnchor ⟨serial, name, attributes, children⟩ with
      | true =>
          rw [listing_of_isAnchor hanchor, anchorTables_of_isAnchor hanchor, List.mem_append,
            List.mem_append, List.mem_append, List.mem_append, inside, ← beside]
          constructor
          · exact Or.imp_right mem_listing_of_mem_listing_true
          · rintro (h | h)
            · exact Or.inl h
            · exact (mem_named_or_mem_listing_true h).imp Or.inl id
      | false =>
          rw [listing_of_not_isAnchor hanchor, anchorTables_of_not_isAnchor hanchor,
            List.mem_append, List.mem_append, inside, beside]

/-- The tables that are listed are those behind an anchor that the nodes hold. -/
theorem mem_listing_iff {nodes : Nodes} {t : Element} :
    t ∈ summary.listing false nodes ↔ ∃ e behind, nodes.Holds e behind ∧
      summary.isAnchor e = true ∧ t ∈ behind.named "table" := by
  rw [mem_listing_false, anchorTables, List.mem_flatMap]
  constructor
  · rintro ⟨⟨serial, behind⟩, hanchor, ht⟩
    obtain ⟨e, -, hanchor, hholds⟩ := mem_anchors_iff.mp hanchor
    exact ⟨e, behind, hholds, hanchor, ht⟩
  · rintro ⟨e, behind, hholds, hanchor, ht⟩
    exact ⟨(e.serial, behind), mem_anchors_iff.mpr ⟨e, rfl, hanchor, hholds⟩, ht⟩

theorem serials_subset_of_mem_listing {anchored : Bool} {nodes : Nodes} {t : Element}
    (h : t ∈ summary.listing anchored nodes) : t.serials ⊆ nodes.serials := by
  have hall : t ∈ summary.listing false nodes := by
    cases anchored with
    | false => exact h
    | true => exact mem_listing_of_mem_listing_true h
  obtain ⟨e, behind, hholds, -, ht⟩ := mem_listing_iff.mp hall
  exact fun n hn => Nodes.serials_subset_of_holds hholds
    (Nodes.serials_subset_of_mem (Nodes.named_subset "table" behind ht) hn)

theorem serial_mem_of_mem_listing {anchored : Bool} {nodes : Nodes} {t : Element}
    (h : t ∈ summary.listing anchored nodes) : t.serial ∈ nodes.serials :=
  serials_subset_of_mem_listing h List.mem_cons_self

/-- Numbers that do not occur in the nodes take nothing away from their tables. -/
theorem filter_listing {anchored : Bool} {nodes : Nodes} {serials : List Nat}
    (h : ∀ n ∈ nodes.serials, n ∉ serials) :
    (summary.listing anchored nodes).filter (fun t => t.serial ∉ serials) =
      summary.listing anchored nodes :=
  List.filter_eq_self.mpr fun _ ht => decide_eq_true (h _ (serial_mem_of_mem_listing ht))

/-- An element takes nothing away from tables behind it but what those beside them do. -/
theorem filter_namedSerials_element {serial : Nat} {name : String}
    {attributes : Html.Attributes} {children next : Nodes} (hserial : serial ∉ next.serials)
    {tables : List Element} (htables : ∀ t ∈ tables, t.serial ∈ next.serials) :
    tables.filter (fun t => t.serial ∉
        (Nodes.element serial name attributes children next).namedSerials "table") =
      tables.filter fun t => t.serial ∉ next.namedSerials "table" := by
  refine List.filter_congr fun t ht => ?_
  have hne : t.serial ≠ serial := fun heq => hserial (heq ▸ htables t ht)
  rw [decide_eq_decide]
  refine not_congr ⟨fun h => ?_, fun h => ?_⟩
  · exact (Nodes.mem_namedSerials_element h).resolve_left hne
  · exact Nodes.namedSerials_subset_element "table" serial name attributes children next h

/-- The tables inside some nodes are all their tables without those beside each other. -/
theorem filter_listing_false {nodes : Nodes} (h : nodes.serials.Nodup) :
    (summary.listing false nodes).filter (fun t => t.serial ∉ nodes.namedSerials "table") =
      summary.listing true nodes := by
  induction nodes with
  | nil => rfl
  | text content next ih => exact ih h
  | element serial name attributes children next _ beside =>
      obtain ⟨hchildren, hnext, -, hbehind, hdisjoint⟩ := Nodes.nodup_element h
      have hinside : ∀ n ∈ children.serials,
          n ∉ (Nodes.element serial name attributes children next).namedSerials "table" := by
        intro n hn hmem
        rcases Nodes.mem_namedSerials_element hmem with rfl | hmem
        · exact hchildren hn
        · exact hdisjoint n hn ((Nodes.namedSerials_sublist "table" next).subset hmem)
      have hbeside := beside hbehind
      rw [listing_true_element]
      cases hanchor : summary.isAnchor ⟨serial, name, attributes, children⟩ with
      | true =>
          have hnamed : (next.named "table").filter
              (fun t => t.serial ∉ next.namedSerials "table") = [] := by
            rw [List.filter_eq_nil_iff]
            intro t ht
            have hmem : t.serial ∈ next.namedSerials "table" := List.mem_map_of_mem ht
            simpa using hmem
          -- What is left of the tables behind has none of those beside each other.
          have hleft : (summary.listing true next).filter
              (fun t => t.serial ∉ next.namedSerials "table") = summary.listing true next := by
            rw [← hbeside, List.filter_filter]
            simp only [Bool.and_self]
          rw [listing_of_isAnchor hanchor, List.filter_append, List.filter_append,
            filter_listing hinside,
            filter_namedSerials_element hnext fun t ht =>
              Nodes.serial_mem_serials (Nodes.named_subset _ _ ht),
            filter_namedSerials_element hnext fun t ht => serial_mem_of_mem_listing ht,
            hnamed, hleft, List.nil_append]
      | false =>
          rw [listing_of_not_isAnchor hanchor, List.filter_append, filter_listing hinside,
            filter_namedSerials_element hnext fun t ht => serial_mem_of_mem_listing ht, hbeside]

/-- Listing the tables anchor by anchor gives each of them once. -/
theorem distinct_anchorTables {nodes : Nodes} (h : nodes.serials.Nodup) :
    distinct (summary.anchorTables nodes) = summary.listing false nodes := by
  induction nodes with
  | nil => rfl
  | text content next ih => exact ih h
  | element serial name attributes children next inside beside =>
      obtain ⟨-, -, hinside, hbehind, hdisjoint⟩ := Nodes.nodup_element h
      have hchildren : ∀ n ∈ next.serials,
          n ∉ (summary.anchorTables children).map Element.serial := by
        intro n hn hmem
        obtain ⟨t, ht, rfl⟩ := List.mem_map.mp hmem
        exact hdisjoint _ (serial_mem_of_mem_listing (mem_listing_false.mpr ht)) hn
      cases hanchor : summary.isAnchor ⟨serial, name, attributes, children⟩ with
      | true =>
          have hbeside : distinct (next.named "table") = next.named "table" :=
            distinct_of_nodup ((Nodes.namedSerials_sublist "table" next).nodup hbehind)
          have hnamed : ∀ n ∈ children.serials, n ∉ (next.named "table").map Element.serial :=
            fun n hn hmem =>
              hdisjoint n hn ((Nodes.namedSerials_sublist "table" next).subset hmem)
          rw [listing_of_isAnchor hanchor, anchorTables_of_isAnchor hanchor, distinct_append,
            distinct_append, hbeside, inside hinside, beside hbehind, filter_listing hnamed,
            ← filter_listing_false hbehind]
          refine congrArg (_ ++ ·) (List.filter_congr fun t ht => ?_)
          have hother := hchildren _ (serial_mem_of_mem_listing ht)
          rw [decide_eq_decide, List.map_append, List.mem_append, or_iff_left hother]
          rfl
      | false =>
          rw [listing_of_not_isAnchor hanchor, anchorTables_of_not_isAnchor hanchor,
            distinct_append, inside hinside, beside hbehind, filter_listing hchildren]

/-- On a page whose elements were made in the order in which they stand, the tables of a
summary are those of the listing. -/
theorem tables_eq_listing {page : Page} (h : page.nodes.serials.Pairwise (· < ·)) :
    summary.tables page = summary.listing false page.nodes := by
  have hordered : summary.orderedAnchors page.nodes = summary.anchors page.nodes := by
    have hserials : ((summary.anchors page.nodes).map Prod.fst).Pairwise (· < ·) :=
      h.sublist (anchors_sublist_serials page.nodes)
    rw [List.pairwise_map] at hserials
    refine List.mergeSort_of_pairwise ?_
    exact hserials.imp fun hlt => by simpa using Nat.le_of_lt hlt
  rw [tables, hordered]
  exact distinct_anchorTables page.distinct

end Summary

end JavadocNames
