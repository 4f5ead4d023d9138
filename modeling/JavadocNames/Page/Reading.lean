import JavadocNames.Html.Parser
import JavadocNames.Page.Basic

/-!
# The page that a text stands for

The tree that was built is read off from its root.  Each number is used up when its
element is read, so that no element can occur twice.
-/

namespace JavadocNames

namespace Html

namespace Growth

/-- The nodes of some numbers, in this order and with all that is inside them, and
the numbers of `free` that are not used up. -/
def nodes (g : Growth) : Nat → List Nat → List Nat → Nodes × List Nat
  | 0, _, free => (.nil, free)
  | _ + 1, [], free => (.nil, free)
  | fuel + 1, n :: rest, free =>
      match g.vertices[n]? with
      | some ⟨.text reversed, _, _⟩ =>
          let (next, free) := g.nodes fuel rest free
          (.text reversed.reverse next, free)
      | some ⟨.element name attributes, _, inside⟩ =>
          if n ∈ free then
            let (children, free) := g.nodes fuel inside (free.erase n)
            let (next, free) := g.nodes fuel rest free
            (.element n name.name attributes children next, free)
          else g.nodes fuel rest free
      | _ => g.nodes fuel rest free

/-- No number is used twice, and none that was not free. -/
theorem nodes_distinct (g : Growth) (fuel : Nat) (ns free : List Nat)
    (h : free.Nodup) :
    ((g.nodes fuel ns free).1.serials ++ (g.nodes fuel ns free).2).Nodup ∧
      ∀ n ∈ (g.nodes fuel ns free).1.serials ++ (g.nodes fuel ns free).2, n ∈ free := by
  induction fuel generalizing ns free with
  | zero => simp [nodes, Nodes.serials, h]
  | succ fuel ih =>
      cases ns with
      | nil => simp [nodes, Nodes.serials, h]
      | cons n rest =>
          simp only [nodes]
          split
          · simpa [Nodes.serials] using ih rest free h
          · rename_i inside _
            split
            · rename_i hn
              have hi := ih inside (free.erase n) (h.erase n)
              have hfree := (List.nodup_append.mp hi.1).2.1
              have hr := ih rest _ hfree
              generalize g.nodes fuel inside (free.erase n) = child at hi hr ⊢
              generalize g.nodes fuel rest child.2 = beside at hr ⊢
              have mem := fun m (hm : m ∈ free.erase n) =>
                (h.mem_erase_iff.mp hm)
              simp only [Nodes.serials, List.nodup_append, List.nodup_cons,
                List.mem_append, List.mem_cons] at hi hr ⊢
              grind
            · exact ih rest free h
          · exact ih rest free h

/-- The page that was built. -/
def page (g : Growth) : Page :=
  let free := List.range g.vertices.size
  ⟨(g.nodes (2 * g.vertices.size + 2) (g.children document) free).1,
    (List.nodup_append.mp (g.nodes_distinct _ _ free List.nodup_range).1).1⟩

end Growth

end Html

/-- The page that a text stands for. -/
def Page.ofText (text : Text) : Page :=
  (Html.grow text).page

end JavadocNames
