import JavadocNames.Proofs.Disk.Listing
import JavadocNames.Proofs.Disk.Paths

/-!
# Listings in order

Entries are sorted by name, and what is listed for one name comes before what is listed for a
greater one.  So places are listed in the order of the names that lead to them, compared one
by one from the left: `a/b` comes before `a.html`, since `a` does.  A listing is told by the
places that it lists and those that it refuses.
-/

namespace JavadocNames

namespace Disk

/-! ## Sorting by name -/

section Sorting

variable {α β : Type}

theorem pairwise_insertByName {entry : Bytes × α} {entries : List (Bytes × α)}
    (hentries : entries.Pairwise (·.1 < ·.1)) (hne : ∀ other ∈ entries, other.1 ≠ entry.1) :
    (insertByName entry entries).Pairwise (·.1 < ·.1) := by
  induction entries with
  | nil => exact List.pairwise_singleton _ _
  | cons other rest ih =>
      obtain ⟨hother, hrest⟩ := List.pairwise_cons.mp hentries
      rw [insertByName]
      split
      case isTrue hlt =>
          refine List.pairwise_cons.mpr ⟨?_, hentries⟩
          rw [List.forall_mem_cons]
          exact ⟨hlt, fun last hlast => List.lt_trans hlt (hother last hlast)⟩
      case isFalse hlt =>
          -- Names that differ are in one order or the other.
          have hgt : other.1 < entry.1 := Classical.byContradiction fun hgt =>
            hne other List.mem_cons_self (Std.Trichotomous.trichotomous _ _ hgt hlt)
          refine List.pairwise_cons.mpr
            ⟨fun last hlast => ?_,
              ih hrest fun last hlast => hne last (List.mem_cons_of_mem _ hlast)⟩
          rcases (mem_insertByName_iff entry last rest).mp hlast with rfl | hlast
          · exact hgt
          · exact hother last hlast

theorem pairwise_sortByName {entries : List (Bytes × α)} (h : (entries.map (·.1)).Nodup) :
    (sortByName entries).Pairwise (·.1 < ·.1) := by
  induction entries with
  | nil => exact .nil
  | cons entry rest ih =>
      obtain ⟨hentry, hrest⟩ := List.nodup_cons.mp h
      refine pairwise_insertByName (ih hrest) fun other hother heq => hentry ?_
      exact List.mem_map.mpr ⟨other, (mem_sortByName_iff other rest).mp hother, heq⟩

theorem insertByName_map (f : Bytes × α → β) (entry : Bytes × α) (entries : List (Bytes × α)) :
    insertByName (entry.1, f entry) (entries.map fun e => (e.1, f e)) =
      (insertByName entry entries).map fun e => (e.1, f e) := by
  induction entries with
  | nil => rfl
  | cons other rest ih =>
      rw [List.map_cons, insertByName, insertByName]
      split
      · rfl
      · rw [ih, List.map_cons]

/-- What is made of each entry does not matter to its place in the order. -/
theorem sortByName_map (f : Bytes × α → β) (entries : List (Bytes × α)) :
    sortByName (entries.map fun e => (e.1, f e)) =
      (sortByName entries).map fun e => (e.1, f e) := by
  induction entries with
  | nil => rfl
  | cons entry rest ih =>
      rw [List.map_cons, sortByName, ih, sortByName]
      exact insertByName_map f entry _

end Sorting

theorem pagesOf_eq_map (disk : Disk) (path : Path) (entries : List (Bytes × DiskNode)) :
    disk.pagesOf path entries =
      entries.map fun e => (e.1, disk.pagesAt (path.join ⟨e.1⟩) e.2) := by
  induction entries with
  | nil => rfl
  | cons entry rest ih => rw [pagesOf, ih, List.map_cons]

/-- The pages of a directory are those of its entries, by name. -/
theorem pagesAt_directory (disk : Disk) (path : Path) (entries : List (Bytes × DiskNode)) :
    disk.pagesAt path (.directory entries) =
      if pathLimit ≤ path.bytes.length then .error (path, .nameTooLong)
      else .concat ((sortByName entries).map fun e => disk.pagesAt (path.join ⟨e.1⟩) e.2) := by
  rw [pagesAt, pagesOf_eq_map,
    sortByName_map (fun e : Bytes × DiskNode => disk.pagesAt (path.join ⟨e.1⟩) e.2), List.map_map]
  rfl

/-! ## Pages by the names that lead to them -/

/-- The listing of all places below a path that are `listed`, in order, unless one of them is
`deep`; the first of these is refused. -/
inductive Lists (path : Path) (listed deep : Place → Prop) : Pages → Prop
  | pages (names : List Place) (sorted : names.Pairwise (· < ·))
      (mem_iff : ∀ place, place ∈ names ↔ listed place) (not_deep : ∀ place, ¬ deep place) :
      Lists path listed deep (.ok (names.map (entryPath path)))
  | refused (place : Place) (hdeep : deep place) (least : ∀ other, deep other → ¬ other < place) :
      Lists path listed deep (.error (entryPath path place, .nameTooLong))

theorem nodup_of_pairwise_lt {names : List Place} (h : names.Pairwise (· < ·)) : names.Nodup := by
  refine h.imp ?_
  rintro place _ hlt rfl
  exact List.lt_irrefl place hlt

namespace Lists

variable {path : Path} {listed deep listed' deep' : Place → Prop} {pages pages' : Pages}

theorem congr (h : Lists path listed deep pages) (hlisted : ∀ place, listed' place ↔ listed place)
    (hdeep : ∀ place, deep' place ↔ deep place) : Lists path listed' deep' pages := by
  obtain rfl : listed' = listed := funext fun place => propext (hlisted place)
  obtain rfl : deep' = deep := funext fun place => propext (hdeep place)
  exact h

theorem of_ok {found : List Path} (h : Lists path listed deep (.ok found)) :
    ∃ names : List Place, found = names.map (entryPath path) ∧ names.Pairwise (· < ·) ∧
      (∀ place, place ∈ names ↔ listed place) ∧ ∀ place, ¬ deep place := by
  generalize hpages : (.ok found : Pages) = pages at h
  cases h with
  | pages _ sorted mem_iff not_deep => exact ⟨_, Except.ok.inj hpages, sorted, mem_iff, not_deep⟩
  | refused => contradiction

theorem of_error {refusal : Path × DiskError} (h : Lists path listed deep (.error refusal)) :
    ∃ place, refusal = (entryPath path place, .nameTooLong) ∧ deep place ∧
      ∀ other, deep other → ¬ other < place := by
  generalize hpages : (.error refusal : Pages) = pages at h
  cases h with
  | pages => contradiction
  | refused _ hdeep least => exact ⟨_, Except.error.inj hpages, hdeep, least⟩

/-- Listings of the same places are the same.  Which places have pages does not matter when one
of them is refused. -/
theorem unique (h : Lists path listed deep pages) (h' : Lists path listed' deep' pages')
    (hdeep : ∀ place, deep' place ↔ deep place)
    (hlisted : (∀ place, ¬ deep place) → ∀ place, listed' place ↔ listed place) :
    pages' = pages := by
  cases h with
  | pages names sorted mem_iff not_deep =>
      cases h' with
      | pages names' sorted' mem_iff' _ =>
          have hperm : names'.Perm names :=
            (List.perm_ext_iff_of_nodup (nodup_of_pairwise_lt sorted')
              (nodup_of_pairwise_lt sorted)).mpr fun place =>
              (mem_iff' place).trans ((hlisted not_deep place).trans (mem_iff place).symm)
          rw [hperm.eq_of_pairwise (fun a b _ _ hab hba => absurd hba (List.lt_asymm hab))
            sorted' sorted]
      | refused place hplace _ => exact absurd ((hdeep place).mp hplace) (not_deep place)
  | refused place hplace least =>
      cases h' with
      | pages _ _ _ not_deep => exact absurd ((hdeep place).mpr hplace) (not_deep place)
      | refused place' hplace' least' =>
          rw [Std.Trichotomous.trichotomous _ _ (least place' ((hdeep place').mp hplace'))
            (least' place ((hdeep place).mpr hplace))]

end Lists

/-- The places that are listed below one entry or another. -/
def below {α : Type} (listed : Bytes × α → Place → Prop) (entries : List (Bytes × α))
    (place : Place) : Prop :=
  ∃ entry ∈ entries, ∃ rest, place = entry.1 :: rest ∧ listed entry rest

/-- Listings of entries in the order of their names make a listing. -/
theorem lists_concat {α : Type} {path : Path} {listed deep : Bytes × α → Place → Prop}
    {pages : Bytes × α → Pages} {entries : List (Bytes × α)}
    (hsorted : entries.Pairwise (·.1 < ·.1))
    (h : ∀ entry ∈ entries,
      Lists (path.join ⟨entry.1⟩) (listed entry) (deep entry) (pages entry)) :
    Lists path (below listed entries) (below deep entries) (.concat (entries.map pages)) := by
  induction entries with
  | nil =>
      refine .pages [] .nil (fun place => ?_) fun place => ?_
      · simp [below]
      · simp [below]
  | cons entry rest ih =>
      obtain ⟨hfirst, hrest⟩ := List.pairwise_cons.mp hsorted
      obtain ⟨hentry, hothers⟩ := List.forall_mem_cons.mp h
      have hbelow : ∀ (p : Bytes × α → Place → Prop) (place : Place),
          below p (entry :: rest) place ↔
            (∃ inner, place = entry.1 :: inner ∧ p entry inner) ∨ below p rest place := by
        intro p place
        simp only [below, List.mem_cons, or_and_right, exists_or, exists_eq_left]
      -- What is below the first entry comes before what is below the others.
      have hlt : ∀ (p : Bytes × α → Place → Prop) (inner place : Place), below p rest place →
          entry.1 :: inner < place := by
        rintro p inner _ ⟨other, hother, tail, rfl, -⟩
        exact List.cons_lt_cons_iff.mpr (.inl (hfirst other hother))
      rw [List.map_cons]
      cases hpages : pages entry with
      | error refusal =>
          rw [hpages] at hentry
          obtain ⟨inner, rfl, hdeep, hleast⟩ := hentry.of_error
          refine .refused (entry.1 :: inner) ((hbelow _ _).mpr (.inl ⟨inner, rfl, hdeep⟩))
            fun other hother hless => ?_
          rcases (hbelow _ _).mp hother with ⟨inner', rfl, hdeep'⟩ | hother
          · rcases List.cons_lt_cons_iff.mp hless with hname | ⟨-, hinner⟩
            · exact List.lt_irrefl _ hname
            · exact hleast inner' hdeep' hinner
          · exact List.lt_asymm hless (hlt deep inner other hother)
      | ok own =>
          rw [hpages] at hentry
          obtain ⟨names, rfl, hnames, hmem, hnone⟩ := hentry.of_ok
          have hlists := ih hrest hothers
          cases hmore : Pages.concat (rest.map pages) with
          | error refusal =>
              rw [hmore] at hlists
              obtain ⟨place, rfl, hdeep, hleast⟩ := hlists.of_error
              simp only [Pages.concat, hmore]
              refine .refused _ ((hbelow _ _).mpr (.inr hdeep)) fun other hother => ?_
              rcases (hbelow _ _).mp hother with ⟨inner, rfl, hdeep'⟩ | hother
              · exact absurd hdeep' (hnone inner)
              · exact hleast other hother
          | ok more =>
              rw [hmore] at hlists
              obtain ⟨names', rfl, hnames', hmem', hnone'⟩ := hlists.of_ok
              have hjoin : names.map (entryPath (path.join ⟨entry.1⟩)) ++
                    names'.map (entryPath path) =
                  (names.map (entry.1 :: ·) ++ names').map (entryPath path) := by
                rw [List.map_append, List.map_map]
                rfl
              simp only [Pages.concat, hmore, hjoin]
              refine .pages _ (List.pairwise_append.mpr ⟨?_, hnames', ?_⟩) (fun place => ?_)
                fun place hdeep => ?_
              · exact hnames.map _ fun a b hab => List.cons_lt_cons_iff.mpr (.inr ⟨rfl, hab⟩)
              · intro place hplace other hother
                obtain ⟨inner, -, rfl⟩ := List.mem_map.mp hplace
                exact hlt listed inner other ((hmem' other).mp hother)
              · rw [List.mem_append, List.mem_map, hbelow, hmem']
                refine or_congr_left ⟨?_, ?_⟩
                · rintro ⟨inner, hinner, rfl⟩
                  exact ⟨inner, rfl, (hmem inner).mp hinner⟩
                · rintro ⟨inner, rfl, hinner⟩
                  exact ⟨inner, (hmem inner).mpr hinner, rfl⟩
              · rcases (hbelow _ _).mp hdeep with ⟨inner, rfl, hinner⟩ | hinner
                · exact hnone inner hinner
                · exact hnone' place hinner

end Disk

end JavadocNames
