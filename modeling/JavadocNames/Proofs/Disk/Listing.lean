import JavadocNames.Disk.Listing

/-!
# The listed pages

Whatever the tree below a directory looks like, every path that is listed is spelled
like that of a page, so it has a file name.
-/

namespace JavadocNames

namespace Disk

theorem mem_insertByName_iff {α : Type} (entry other : Bytes × α)
    (entries : List (Bytes × α)) :
    other ∈ insertByName entry entries ↔ other = entry ∨ other ∈ entries := by
  induction entries with
  | nil => simp [insertByName]
  | cons first rest ih =>
      rw [insertByName]
      split
      · exact List.mem_cons
      · rw [List.mem_cons, ih, List.mem_cons]
        exact or_left_comm

theorem mem_sortByName_iff {α : Type} (entry : Bytes × α) (entries : List (Bytes × α)) :
    entry ∈ sortByName entries ↔ entry ∈ entries := by
  induction entries with
  | nil => rfl
  | cons first rest ih => rw [sortByName, mem_insertByName_iff, ih, List.mem_cons]

/-- A page that is listed for several places is listed for one of them. -/
theorem Pages.mem_concat {places : List Pages} {pages : List Path} {page : Path}
    (h : Pages.concat places = .ok pages) (hpage : page ∈ pages) :
    ∃ own, .ok own ∈ places ∧ page ∈ own := by
  induction places generalizing pages with
  | nil =>
      obtain rfl : [] = pages := Except.ok.inj h
      contradiction
  | cons place rest ih =>
      cases place with
      | error e => simp [Pages.concat] at h
      | ok own =>
          cases hrest : Pages.concat rest with
          | error e => simp [Pages.concat, hrest] at h
          | ok more =>
              simp only [Pages.concat, hrest, Except.ok.injEq] at h
              subst h
              rcases List.mem_append.mp hpage with hown | hmore
              · exact ⟨own, List.mem_cons_self, hown⟩
              · obtain ⟨other, hother, hmem⟩ := ih hrest hmore
                exact ⟨other, List.mem_cons_of_mem _ hother, hmem⟩

mutual

theorem isPagePath_of_mem_pagesAt (disk : Disk) (path : Path) (node : DiskNode)
    {pages : List Path} (h : disk.pagesAt path node = .ok pages) :
    ∀ page ∈ pages, isPagePath page := by
  cases node with
  | file content =>
      rw [pagesAt, Except.ok.injEq] at h
      subst h
      split <;> simp_all
  | link target =>
      rw [pagesAt, Except.ok.injEq] at h
      subst h
      split <;> simp_all
  | directory entries =>
      rw [pagesAt] at h
      split at h
      · contradiction
      · intro page hpage
        obtain ⟨own, hown, hmem⟩ := Pages.mem_concat h hpage
        obtain ⟨entry, hentry, heq⟩ := List.mem_map.mp hown
        rw [mem_sortByName_iff] at hentry
        exact isPagePath_of_mem_pagesOf disk path entries hentry heq page hmem

theorem isPagePath_of_mem_pagesOf (disk : Disk) (path : Path)
    (entries : List (Bytes × DiskNode)) {entry : Bytes × Pages} {pages : List Path}
    (h : entry ∈ disk.pagesOf path entries) (hpages : entry.2 = .ok pages) :
    ∀ page ∈ pages, isPagePath page := by
  match entries with
  | [] => simp [pagesOf] at h
  | (name, node) :: rest =>
      rw [pagesOf, List.mem_cons] at h
      rcases h with rfl | hrest
      · exact isPagePath_of_mem_pagesAt disk _ node hpages
      · exact isPagePath_of_mem_pagesOf disk path rest hrest hpages

end

/-- A listing that succeeds is the one of a node that the root leads to. -/
theorem exists_pagesAt_of_findPages {disk : Disk} {root : Path} {pages : List Path}
    (h : disk.findPages root = .ok pages) :
    ∃ node, disk.pagesAt root node = .ok pages := by
  unfold findPages at h
  dsimp only at h
  split at h
  case h_2 => contradiction
  case h_1 found hfound =>
      obtain rfl := Except.ok.inj h
      -- A root that is a link stands for the node that the link leads to.
      split at hfound
      case h_1 => contradiction
      case h_2 =>
          split at hfound
          · contradiction
          · exact ⟨_, hfound⟩
      case h_3 => exact ⟨_, hfound⟩

theorem isPagePath_of_mem_findPages {disk : Disk} {root : Path} {pages : List Path}
    (h : disk.findPages root = .ok pages) : ∀ page ∈ pages, isPagePath page := by
  obtain ⟨node, hnode⟩ := exists_pagesAt_of_findPages h
  exact isPagePath_of_mem_pagesAt disk root node hnode

end Disk

end JavadocNames
