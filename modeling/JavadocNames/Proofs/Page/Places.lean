import JavadocNames.Proofs.Page.Listing

/-!
# Where elements stand

No two elements of a page have the same number, so each of them stands at one place only.
Its number tells which element it is, and it is the child of one element at most.  The
numbers in their order along the tree tell which of two elements comes first.  Without
numbers, one of two elements stands in front of the other when nodes beside each other have
them, and otherwise one stands inside the other.
-/

namespace JavadocNames

namespace Nodes

variable {nodes : Nodes} {e f : Element} {behind after : Nodes}

theorem exists_holds_of_mem (h : e ∈ nodes.elements) : ∃ behind, nodes.Holds e behind := by
  induction nodes with
  | nil => contradiction
  | text content next ih =>
      obtain ⟨behind, hholds⟩ := ih h
      exact ⟨behind, .text hholds⟩
  | element serial name attributes children next _ beside =>
      rcases List.mem_cons.mp h with rfl | h
      · exact ⟨next, .here serial name attributes children next⟩
      · obtain ⟨behind, hholds⟩ := beside h
        exact ⟨behind, .next hholds⟩

theorem Holds.of_inside (h : nodes.Holds e behind) (hf : e.children.Holds f after) :
    nodes.Holds f after := by
  induction h with
  | here => exact .inside hf
  | text _ ih => exact .text (ih hf)
  | inside _ ih => exact .inside (ih hf)
  | next _ ih => exact .next (ih hf)

theorem Holds.of_behind (h : nodes.Holds e behind) (hf : behind.Holds f after) :
    nodes.Holds f after := by
  induction h with
  | here => exact .next hf
  | text _ ih => exact .text (ih hf)
  | inside _ ih => exact .inside (ih hf)
  | next _ ih => exact .next (ih hf)

theorem Holds.serials_sublist (h : nodes.Holds e behind) : e.serials.Sublist nodes.serials := by
  induction h with
  | here serial name attributes children next =>
      exact (List.sublist_append_left children.serials next.serials).cons_cons serial
  | text _ ih => exact ih
  | inside _ ih => exact (ih.trans (List.sublist_append_left _ _)).cons _
  | next _ ih => exact (ih.trans (List.sublist_append_right _ _)).cons _

theorem Holds.serial_mem (h : nodes.Holds e behind) : e.serial ∈ nodes.serials :=
  h.serials_sublist.subset List.mem_cons_self

/-- The children of an element have numbers of the nodes in which it stands. -/
theorem Holds.child_serial_mem (h : nodes.Holds e behind) (hf : f ∈ e.children.elements) :
    f.serial ∈ nodes.serials :=
  h.serials_sublist.subset (List.mem_cons_of_mem e.serial (serial_mem_serials hf))

/-- An element that stands at the top of some nodes is no child of an element in them. -/
theorem Holds.serial_ne_of_mem (h : nodes.Holds e behind) (hnodup : nodes.serials.Nodup)
    {c d : Element} (hc : c ∈ nodes.elements) (hd : d ∈ e.children.elements) :
    c.serial ≠ d.serial := by
  induction h with
  | here serial name attributes children next =>
      obtain ⟨htop, -, -, -, hdisjoint⟩ := nodup_element hnodup
      have hinside := serial_mem_serials hd
      rcases List.mem_cons.mp hc with rfl | hc
      · exact (ne_of_mem_of_not_mem hinside htop).symm
      · exact ne_of_mem_of_not_mem (serial_mem_serials hc) (hdisjoint _ hinside)
  | text _ ih => exact ih hnodup hc hd
  | @inside serial name attributes children next _ _ hholds ih =>
      obtain ⟨htop, -, -, -, hdisjoint⟩ := nodup_element hnodup
      have hinside := hholds.child_serial_mem hd
      rcases List.mem_cons.mp hc with rfl | hc
      · exact (ne_of_mem_of_not_mem hinside htop).symm
      · exact ne_of_mem_of_not_mem (serial_mem_serials hc) (hdisjoint _ hinside)
  | @next serial name attributes children next _ _ hholds ih =>
      obtain ⟨-, htop, -, hbehind, -⟩ := nodup_element hnodup
      have hbeside := hholds.child_serial_mem hd
      rcases List.mem_cons.mp hc with rfl | hc
      · exact (ne_of_mem_of_not_mem hbeside htop).symm
      · exact ih hbehind hc hd

/-- Elements of the same number are the same. -/
theorem Holds.eq_of_serial_eq (h : nodes.Holds e behind) (hf : nodes.Holds f after)
    (hnodup : nodes.serials.Nodup) (heq : e.serial = f.serial) : e = f := by
  induction h with
  | here serial name attributes children next =>
      obtain ⟨hinside, hbeside, -⟩ := nodup_element hnodup
      cases hf with
      | here => rfl
      | inside hf => exact absurd heq.symm (ne_of_mem_of_not_mem hf.serial_mem hinside)
      | next hf => exact absurd heq.symm (ne_of_mem_of_not_mem hf.serial_mem hbeside)
  | text _ ih =>
      cases hf with
      | text hf => exact ih hf hnodup heq
  | inside h ih =>
      obtain ⟨htop, -, hinside, -, hdisjoint⟩ := nodup_element hnodup
      cases hf with
      | here => exact absurd heq (ne_of_mem_of_not_mem h.serial_mem htop)
      | inside hf => exact ih hf hinside heq
      | next hf =>
          exact absurd heq.symm
            (ne_of_mem_of_not_mem hf.serial_mem (hdisjoint _ h.serial_mem))
  | next h ih =>
      obtain ⟨-, htop, -, hbehind, hdisjoint⟩ := nodup_element hnodup
      cases hf with
      | here => exact absurd heq (ne_of_mem_of_not_mem h.serial_mem htop)
      | inside hf =>
          exact absurd heq (ne_of_mem_of_not_mem h.serial_mem (hdisjoint _ hf.serial_mem))
      | next hf => exact ih hf hbehind heq

/-- Elements that have a child in common are the same. -/
theorem Holds.eq_of_child (h : nodes.Holds e behind) (hf : nodes.Holds f after)
    (hnodup : nodes.serials.Nodup) {c d : Element} (hc : c ∈ e.children.elements)
    (hd : d ∈ f.children.elements) (heq : c.serial = d.serial) : e = f := by
  induction h with
  | here serial name attributes children next =>
      obtain ⟨-, -, hchildren, -, hdisjoint⟩ := nodup_element hnodup
      cases hf with
      | here => rfl
      | inside hf => exact absurd heq (hf.serial_ne_of_mem hchildren hc hd)
      | next hf =>
          exact absurd heq.symm
            (ne_of_mem_of_not_mem (hf.child_serial_mem hd) (hdisjoint _ (serial_mem_serials hc)))
  | text _ ih =>
      cases hf with
      | text hf => exact ih hf hnodup hc
  | inside h ih =>
      obtain ⟨-, -, hchildren, -, hdisjoint⟩ := nodup_element hnodup
      cases hf with
      | here => exact absurd heq.symm (h.serial_ne_of_mem hchildren hd hc)
      | inside hf => exact ih hf hchildren hc
      | next hf =>
          exact absurd heq.symm
            (ne_of_mem_of_not_mem (hf.child_serial_mem hd) (hdisjoint _ (h.child_serial_mem hc)))
  | next h ih =>
      obtain ⟨-, -, -, hbehind, hdisjoint⟩ := nodup_element hnodup
      cases hf with
      | here =>
          exact absurd heq
            (ne_of_mem_of_not_mem (h.child_serial_mem hc) (hdisjoint _ (serial_mem_serials hd)))
      | inside hf =>
          exact absurd heq
            (ne_of_mem_of_not_mem (h.child_serial_mem hc) (hdisjoint _ (hf.child_serial_mem hd)))
      | next hf => exact ih hf hbehind hc

end Nodes

/-! ## One in front of the other -/

/-- An element has itself and every element inside it. -/
def Element.Has (e f : Element) : Prop :=
  f = e ∨ ∃ after, e.children.Holds f after

theorem Element.Has.serials_subset {e f : Element} (h : e.Has f) : f.serials ⊆ e.serials := by
  rcases h with rfl | ⟨after, hholds⟩
  · exact List.Subset.refl _
  · exact fun n hn => List.mem_cons_of_mem _ (hholds.serials_sublist.subset hn)

namespace Nodes

variable {nodes : Nodes} {e f : Element} {behind after : Nodes}

/-- The first element stands in front of the second one, and neither inside the other: some
node has the first one, and a node behind it the second one. -/
def InFront (nodes : Nodes) (first second : Element) : Prop :=
  ∃ e behind f, nodes.Holds e behind ∧ f ∈ behind.elements ∧ e.Has first ∧ f.Has second

/-- The nodes hold an element, and neither the element itself nor one around it has the name. -/
inductive HoldsApart (name : String) : Nodes → Element → Prop
  | here {nodes : Nodes} {e : Element} (he : e ∈ nodes.elements) (hname : e.name ≠ name) :
      HoldsApart name nodes e
  | inside {nodes : Nodes} {e f : Element} (he : e ∈ nodes.elements) (hname : e.name ≠ name)
      (hf : HoldsApart name e.children f) : HoldsApart name nodes f

theorem HoldsApart.exists_holds {name : String} (h : nodes.HoldsApart name e) :
    ∃ behind, nodes.Holds e behind := by
  induction h with
  | here he _ => exact exists_holds_of_mem he
  | inside he _ _ ih =>
      obtain ⟨behind, hholds⟩ := exists_holds_of_mem he
      obtain ⟨after, hinside⟩ := ih
      exact ⟨after, hholds.of_inside hinside⟩

/-- What the nodes hold is one of them or inside one of them. -/
theorem Holds.exists_has (h : nodes.Holds e behind) : ∃ f ∈ nodes.elements, f.Has e := by
  induction h with
  | here => exact ⟨_, List.mem_cons_self, .inl rfl⟩
  | text _ ih => exact ih
  | inside h _ => exact ⟨_, List.mem_cons_self, .inr ⟨_, h⟩⟩
  | next _ ih =>
      obtain ⟨f, hf, hhas⟩ := ih
      exact ⟨f, List.mem_cons_of_mem _ hf, hhas⟩

theorem InFront.mono {more : Nodes} {first second : Element}
    (hmore : ∀ e behind, nodes.Holds e behind → more.Holds e behind)
    (h : nodes.InFront first second) : more.InFront first second := by
  obtain ⟨e, behind, f, hholds, hf, hfirst, hsecond⟩ := h
  exact ⟨e, behind, f, hmore e behind hholds, hf, hfirst, hsecond⟩

theorem Holds.inFront_of_inside {first second : Element} (h : nodes.Holds e behind)
    (hinside : e.children.InFront first second) : nodes.InFront first second :=
  hinside.mono fun _ _ hholds => h.of_inside hholds

/-- Of two nodes beside each other one is in front, if they are not the same. -/
theorem eq_or_inFront (he : e ∈ nodes.elements) (hf : f ∈ nodes.elements) {first second : Element}
    (hfirst : e.Has first) (hsecond : f.Has second) :
    e = f ∨ nodes.InFront first second ∨ nodes.InFront second first := by
  induction nodes with
  | nil => contradiction
  | text content next ih =>
      exact (ih he hf).imp_right (.imp (.mono fun _ _ => .text) (.mono fun _ _ => .text))
  | element serial name attributes children next _ ih =>
      have hhere := Holds.here serial name attributes children next
      rcases List.mem_cons.mp he with rfl | he
      · rcases List.mem_cons.mp hf with rfl | hf
        · exact .inl rfl
        · exact .inr (.inl ⟨_, _, f, hhere, hf, hfirst, hsecond⟩)
      · rcases List.mem_cons.mp hf with rfl | hf
        · exact .inr (.inr ⟨_, _, e, hhere, he, hsecond, hfirst⟩)
        · exact (ih he hf).imp_right (.imp (.mono fun _ _ => .next) (.mono fun _ _ => .next))

/-- An element with a name that the other one stands apart from is in front of it, behind it, or
inside it. -/
theorem HoldsApart.inFront_or {name : String} (h : nodes.HoldsApart name e)
    (hf : nodes.Holds f behind) (hname : f.name = name) :
    nodes.InFront f e ∨ nodes.InFront e f ∨ ∃ after, e.children.Holds f after := by
  induction h generalizing behind with
  | @here nodes e he hother =>
      obtain ⟨g, hg, hhas⟩ := hf.exists_has
      rcases eq_or_inFront hg he hhas (.inl rfl) with rfl | hfront | hback
      · rcases hhas with rfl | hinside
        · exact absurd hname hother
        · exact .inr (.inr hinside)
      · exact .inl hfront
      · exact .inr (.inl hback)
  | @inside nodes e d he hother hd ih =>
      obtain ⟨g, hg, hhas⟩ := hf.exists_has
      rcases eq_or_inFront hg he hhas (.inr hd.exists_holds) with rfl | hfront | hback
      · obtain ⟨beside, hholds⟩ := exists_holds_of_mem he
        rcases hhas with rfl | ⟨after, hinside⟩
        · exact absurd hname hother
        · exact (ih hinside).imp hholds.inFront_of_inside (.imp_left hholds.inFront_of_inside)
      · exact .inl hfront
      · exact .inr (.inl hback)

/-! ### Numbers in the order of the tree -/

theorem Holds.serials_append_sublist (h : nodes.Holds e behind) :
    (e.serials ++ behind.serials).Sublist nodes.serials := by
  induction h with
  | here => exact List.Sublist.refl _
  | text _ ih => exact ih
  | inside _ ih => exact (ih.trans (List.sublist_append_left _ _)).cons _
  | next _ ih => exact (ih.trans (List.sublist_append_right _ _)).cons _

/-- When the numbers rise along the tree, those of the element in front are smaller. -/
theorem InFront.lt (h : nodes.InFront e f) (hnodes : nodes.serials.Pairwise (· < ·)) {m n : Nat}
    (hm : m ∈ e.serials) (hn : n ∈ f.serials) : m < n := by
  obtain ⟨first, behind, second, hholds, hsecond, hfirst, hin⟩ := h
  have hrises := (List.pairwise_append.mp (hnodes.sublist hholds.serials_append_sublist)).2.2
  exact hrises m (hfirst.serials_subset hm) n
    (serials_subset_of_mem hsecond (hin.serials_subset hn))

/-- When the numbers rise along the tree, that of an element is smaller than those inside it. -/
theorem Holds.lt_of_inside (h : nodes.Holds e behind) (hnodes : nodes.serials.Pairwise (· < ·))
    (hf : e.children.Holds f after) {n : Nat} (hn : n ∈ f.serials) : e.serial < n :=
  (List.pairwise_cons.mp (hnodes.sublist h.serials_sublist)).1 n (hf.serials_sublist.subset hn)

end Nodes

namespace Page

variable {page : Page}

/-- An element of the page is a child of another one. -/
def IsChild (page : Page) (child parent : Element) : Prop :=
  (∃ behind, page.nodes.Holds parent behind) ∧ child ∈ parent.children.elements

/-- An element comes before another one along the tree, where each element comes before
those inside it. -/
def Precedes (page : Page) (e f : Element) : Prop :=
  page.nodes.serials.idxOf e.serial < page.nodes.serials.idxOf f.serial

theorem Precedes.asymm {e f : Element} (h : page.Precedes e f) : ¬ page.Precedes f e := by
  unfold Precedes at *
  omega

/-- An element has one parent at most. -/
theorem IsChild.unique {c d parent other : Element} (h : page.IsChild c parent)
    (hother : page.IsChild d other) (heq : c.serial = d.serial) : parent = other := by
  obtain ⟨⟨behind, hholds⟩, hc⟩ := h
  obtain ⟨⟨after, hafter⟩, hd⟩ := hother
  exact hholds.eq_of_child hafter page.distinct hc hd heq

theorem IsChild.exists_holds {child parent : Element} (h : page.IsChild child parent) :
    ∃ behind, page.nodes.Holds child behind := by
  obtain ⟨⟨_, hholds⟩, hchild⟩ := h
  obtain ⟨behind, hinside⟩ := Nodes.exists_holds_of_mem hchild
  exact ⟨behind, hholds.of_inside hinside⟩

/-- Elements that stand one behind the other precede each other. -/
theorem pairwise_precedes {es : List Element}
    (h : (es.map Element.serial).Sublist page.nodes.serials) : es.Pairwise page.Precedes := by
  have hserials : page.nodes.serials.Pairwise fun m n =>
      page.nodes.serials.idxOf m < page.nodes.serials.idxOf n := by
    rw [List.pairwise_iff_getElem]
    intro i j hi hj hij
    rw [page.distinct.idxOf_getElem, page.distinct.idxOf_getElem]
    exact hij
  have hes := hserials.sublist h
  rw [List.pairwise_map] at hes
  exact hes

end Page

end JavadocNames
