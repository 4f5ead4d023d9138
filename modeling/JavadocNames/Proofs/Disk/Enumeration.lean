import Mathlib.Data.List.Infix
import JavadocNames.Proofs.Disk.Entries
import JavadocNames.Proofs.Disk.Sorting

/-!
# Finding the pages

The pages below a root come in the order of the names that lead to them, and they are all the
entries that are pages, each once.  A directory whose path is too long cannot be listed, and the
first such directory is what a refusal tells.  Both are decided by what is seen below the root,
whatever order a directory keeps its entries in.
-/

namespace JavadocNames

namespace Disk

/-! ## The places of pages -/

/-- The node at a path counts as a page: a file that is spelled like one, or a link that is and
does not lead to a directory. -/
def IsPage (disk : Disk) (path : Path) : DiskNode → Prop
  | .file _ => isPagePath path
  | .link _ => disk.isDirectory path = false ∧ isPagePath path
  | .directory _ => False

/-- The node at a path is a directory that cannot be listed. -/
def IsTooDeep (path : Path) : DiskNode → Prop
  | .file _ => False
  | .link _ => False
  | .directory _ => pathLimit ≤ path.bytes.length

/-- Something is seen at a place below the node at a path, and it is as described. -/
def Sees (p : Path → DiskNode → Prop) (path : Path) (node : DiskNode) (place : Place) : Prop :=
  ∃ found, node.at? place = some found ∧ p (entryPath path place) found

section Sees

variable {p : Path → DiskNode → Prop} {path : Path}

theorem sees_nil {node : DiskNode} : Sees p path node [] ↔ p path node := by
  simp [Sees, entryPath]

theorem not_sees_cons_of_face_eq {node : DiskNode} (h : node.face = node) (name : Bytes)
    (rest : Place) : ¬ Sees p path node (name :: rest) := by
  simp [Sees, DiskNode.at?_of_face_eq h]

/-- What is seen below a directory is seen below one of its entries. -/
theorem sees_directory_cons {entries : List (Bytes × DiskNode)}
    (hnodup : (DiskNode.names entries).Nodup) {name : Bytes} {rest : Place} :
    Sees p path (.directory entries) (name :: rest) ↔
      below (fun entry => Sees p (path.join ⟨entry.1⟩) entry.2) (sortByName entries)
        (name :: rest) := by
  simp only [Sees, below, DiskNode.at?_directory_cons, Option.bind_eq_some_iff,
    DiskNode.child?_eq_some_iff hnodup, mem_sortByName_iff, List.cons.injEq]
  constructor
  · rintro ⟨found, ⟨child, hmem, hfound⟩, hp⟩
    exact ⟨_, hmem, rest, ⟨rfl, rfl⟩, found, hfound, hp⟩
  · rintro ⟨⟨_, child⟩, hmem, _, ⟨rfl, rfl⟩, found, hfound, hp⟩
    exact ⟨found, ⟨child, hmem, hfound⟩, hp⟩

end Sees

/-- A node without entries is a page itself, or there is none. -/
theorem lists_of_face_eq {disk : Disk} {path : Path} {node : DiskNode} (h : node.face = node)
    {page : Bool} (hpage : disk.IsPage path node ↔ page = true) (hdeep : ¬ IsTooDeep path node) :
    Lists path (Sees disk.IsPage path node) (Sees IsTooDeep path node)
      (.ok (if page then [path] else [])) := by
  have hnone : ∀ place, ¬ Sees IsTooDeep path node place := by
    intro place
    cases place with
    | nil => rwa [sees_nil]
    | cons name rest => exact not_sees_cons_of_face_eq h name rest
  cases page with
  | false =>
      refine .pages [] .nil (fun place => ?_) hnone
      cases place with
      | nil => simp [sees_nil, hpage]
      | cons name rest => simp [not_sees_cons_of_face_eq h]
  | true =>
      refine .pages [[]] (List.pairwise_singleton _ _) (fun place => ?_) hnone
      cases place with
      | nil => simp [sees_nil, hpage]
      | cons name rest => simp [not_sees_cons_of_face_eq h]

/-- The pages at a path are listed in the order of the names that lead to them. -/
theorem lists_pagesAt (disk : Disk) (path : Path) {node : DiskNode} (htree : node.IsTree) :
    Lists path (Sees disk.IsPage path node) (Sees IsTooDeep path node)
      (disk.pagesAt path node) := by
  induction htree generalizing path with
  | file content =>
      rw [pagesAt]
      exact lists_of_face_eq rfl .rfl id
  | link =>
      rw [pagesAt]
      exact lists_of_face_eq rfl (by simp [IsPage]) id
  | @directory entries hnodup _ _ ih =>
      rw [pagesAt_directory]
      split
      case isTrue hlength =>
          refine .refused [] (sees_nil.mpr hlength) fun other _ => ?_
          exact List.not_lt_nil other
      case isFalse hlength =>
          have hentries : ∀ entry ∈ sortByName entries,
              Lists (path.join ⟨entry.1⟩) (Sees disk.IsPage (path.join ⟨entry.1⟩) entry.2)
                (Sees IsTooDeep (path.join ⟨entry.1⟩) entry.2)
                (disk.pagesAt (path.join ⟨entry.1⟩) entry.2) := fun entry hentry =>
            ih entry ((mem_sortByName_iff entry entries).mp hentry) _
          have hlists := lists_concat (pairwise_sortByName hnodup) hentries
          refine hlists.congr (fun place => ?_) fun place => ?_
          · cases place with
            | nil => simp [sees_nil, IsPage, below]
            | cons name rest => exact sees_directory_cons hnodup
          · cases place with
            | nil => simp [sees_nil, IsTooDeep, below, hlength]
            | cons name rest => exact sees_directory_cons hnodup

/-! ## Finding the pages -/

/-- A listing as the search below a root gives it. -/
def Pages.found (root : Path) : Pages → Except Failure (List Path)
  | .ok pages => .ok pages
  | .error (path, e) => .error (.walk root path e)

variable {disk : Disk} {root : Path} {node : DiskNode}

theorem linkStatus_eq_status_or (disk : Disk) (path : Path) :
    disk.linkStatus path = disk.status path ∨
      ∃ target, disk.linkStatus path = .ok (.link target) := by
  rw [linkStatus, status]
  cases hslash : path.endsWithSlash with
  | true => exact .inl rfl
  | false =>
      rcases disk.resolve_false_cases path with hsame | ⟨place, target, hlink⟩
      · exact .inl (by rw [hsame])
      · rw [hlink, hslash]
        exact .inr ⟨target, rfl⟩

/-- The pages below a root are those of the node that it leads to. -/
theorem findPages_of_status (h : disk.status root = .ok node) :
    disk.findPages root = (disk.pagesAt root node).found root := by
  rcases disk.linkStatus_eq_status_or root with hsame | ⟨target, hlink⟩
  · rw [findPages, hsame, h]
    cases hpages : disk.pagesAt root node with
    | error refusal => cases node <;> simp only [hpages, Pages.found]
    | ok pages => cases node <;> simp only [hpages, Pages.found]
  · rw [findPages, hlink, h]
    cases hpages : disk.pagesAt root node with
    | error refusal => simp only [hpages, Pages.found]
    | ok pages => simp only [hpages, Pages.found]

theorem isTree_of_status (htree : disk.IsTree) (h : disk.status root = .ok node) :
    node.IsTree := by
  obtain ⟨place, slashed, hresolve, -⟩ := status_eq_ok_iff.mp h
  exact htree.top.at? (leads_of_resolve hresolve).2.2.2.entry.1

/-- An entry below a root is a page when its path is spelled like one and does not lead to a
directory, unless it is a directory whose path is too long. -/
theorem isPage_iff (htree : disk.IsTree) (hroot : disk.status root = .ok node) {place : Place}
    {found : DiskNode} (hfound : node.at? place = some found)
    (hdeep : ¬ IsTooDeep (entryPath root place) found) :
    disk.IsPage (entryPath root place) found ↔
      disk.isDirectory (entryPath root place) = false ∧ isPagePath (entryPath root place) := by
  have hnames := (isTree_of_status htree hroot).isName hfound
  -- A link is looked at by the same test; a file and a directory have one answer each.
  suffices hdirectory : ∀ answer, (∃ entries, found = .directory entries) ∧ answer = true ∨
      (∃ content, found = .file content) ∧ answer = false →
      disk.isDirectory (entryPath root place) = answer by
    cases found with
    | file content => simp [IsPage, hdirectory false (.inr ⟨⟨content, rfl⟩, rfl⟩)]
    | link target => exact .rfl
    | directory entries => simp [IsPage, hdirectory true (.inl ⟨⟨entries, rfl⟩, rfl⟩)]
  intro answer hanswer
  rcases List.eq_nil_or_concat place with rfl | ⟨above, name, rfl⟩
  · obtain rfl : node = found := by simpa using hfound
    rw [entryPath, List.foldl_nil, isDirectory, hroot]
    rcases hanswer with ⟨⟨entries, rfl⟩, rfl⟩ | ⟨⟨content, rfl⟩, rfl⟩ <;> rfl
  · rw [List.concat_eq_append] at hfound hnames hdeep ⊢
    obtain ⟨all, rfl⟩ := DiskNode.exists_directory_of_at?_ne_nil hfound (by simp)
    obtain ⟨start, hleads, hat⟩ := status_eq_directory_iff.mp hroot
    have hplace : disk.at? (start ++ (above ++ [name])) = some found := by
      rw [Disk.at?, DiskNode.at?_append]
      rw [Disk.at?] at hat
      rw [hat]
      exact hfound
    rw [← List.append_assoc] at hplace
    have habove : disk.HasDirectory (start ++ above) :=
      hasDirectory_iff.mpr (DiskNode.exists_directory_of_at?_append hplace)
    obtain ⟨hall, hname⟩ := List.forall_mem_append.mp hnames
    rw [List.forall_mem_singleton] at hname
    rcases hanswer with ⟨⟨entries, rfl⟩, rfl⟩ | ⟨⟨content, rfl⟩, rfl⟩
    · exact hleads.isDirectory_entryPath_of_directory hall habove hname hplace
        (Nat.lt_of_not_le hdeep)
    · exact hleads.isDirectory_entryPath_of_file hall habove hname hplace

/-- Searches that see the same pages, and the same directories that are too deep, find the
same. -/
theorem findPages_congr {other : Disk} {node' : DiskNode} (htree : disk.IsTree)
    (htree' : other.IsTree) (hroot : disk.status root = .ok node)
    (hroot' : other.status root = .ok node')
    (hdeep : ∀ place, Sees IsTooDeep root node' place ↔ Sees IsTooDeep root node place)
    (hpages : (∀ place, ¬ Sees IsTooDeep root node place) →
      ∀ place, Sees other.IsPage root node' place ↔ Sees disk.IsPage root node place) :
    other.findPages root = disk.findPages root := by
  rw [findPages_of_status hroot, findPages_of_status hroot',
    (lists_pagesAt disk root (isTree_of_status htree hroot)).unique
      (lists_pagesAt other root (isTree_of_status htree' hroot')) hdeep hpages]

/-! ## The same tree in another order -/

/-- A disk with the same files, links and directories, whatever the order in which it keeps the
entries of a directory. -/
structure SameTree (disk other : Disk) : Prop where
  here_eq : other.here = disk.here
  faceAt?_eq : ∀ place, disk.faceAt? place = other.faceAt? place

theorem isPage_face (disk : Disk) (path : Path) (node : DiskNode) :
    disk.IsPage path node.face ↔ disk.IsPage path node := by
  cases node <;> rfl

theorem isTooDeep_face (path : Path) (node : DiskNode) :
    IsTooDeep path node.face ↔ IsTooDeep path node := by
  cases node <;> rfl

/-- What is seen below a node is what is seen on the disk below its place. -/
theorem sees_iff_faceAt? {p : Path → DiskNode → Prop}
    (hp : ∀ path node, p path node.face ↔ p path node) {start : Place}
    (hat : disk.at? start = some node) {path : Path} {place : Place} :
    Sees p path node place ↔
      ∃ face, disk.faceAt? (start ++ place) = some face ∧ p (entryPath path place) face := by
  have hbelow : disk.at? (start ++ place) = node.at? place := by
    rw [Disk.at?, DiskNode.at?_append]
    rw [Disk.at?] at hat
    rw [hat]
    rfl
  simp only [Sees, faceAt?, hbelow, Option.map_eq_some_iff]
  constructor
  · rintro ⟨found, hfound, hfits⟩
    exact ⟨found.face, ⟨found, hfound, rfl⟩, (hp _ _).mpr hfits⟩
  · rintro ⟨_, ⟨found, hfound, rfl⟩, hfits⟩
    exact ⟨found, hfound, (hp _ _).mp hfits⟩

theorem SameTree.findPages_eq {other : Disk} (h : disk.SameTree other) (htree : disk.IsTree)
    (htree' : other.IsTree) (hroot : disk.status root = .ok node) :
    other.findPages root = disk.findPages root := by
  obtain ⟨start, node', hat, hat', hroot'⟩ :=
    exists_status_of_faceAt?_eq h.here_eq (fun q _ => h.faceAt?_eq q) hroot
  have hpage : ∀ path face, other.IsPage path face ↔ disk.IsPage path face := by
    intro path face
    have hdirectory : other.isDirectory path = disk.isDirectory path :=
      isDirectory_of_faceAt?_eq h.here_eq fun q _ => h.faceAt?_eq q
    cases face <;> simp only [IsPage, hdirectory]
  refine findPages_congr htree htree' hroot hroot' (fun place => ?_) fun _ place => ?_
  · rw [sees_iff_faceAt? isTooDeep_face hat, sees_iff_faceAt? isTooDeep_face hat',
      h.faceAt?_eq]
  · rw [sees_iff_faceAt? disk.isPage_face hat, sees_iff_faceAt? other.isPage_face hat',
      h.faceAt?_eq]
    simp only [hpage]

/-! ## Every document once -/

theorem sees_isTooDeep_iff {place : Place} :
    Sees IsTooDeep root node place ↔ ∃ entries, node.at? place = some (.directory entries) ∧
      pathLimit ≤ (entryPath root place).bytes.length := by
  constructor
  · rintro ⟨found, hfound, hlong⟩
    cases found with
    | directory entries => exact ⟨entries, hfound, hlong⟩
    | file => contradiction
    | link => contradiction
  · rintro ⟨entries, hfound, hlong⟩
    exact ⟨_, hfound, hlong⟩

/-- What is found is in order, and it is every entry that is a page. -/
theorem exists_findPages_eq_ok (htree : disk.IsTree) (hroot : disk.status root = .ok node)
    (hshallow : ∀ place, ¬ Sees IsTooDeep root node place) :
    ∃ names : List Place, disk.findPages root = .ok (names.map (entryPath root)) ∧
      names.Pairwise (· < ·) ∧ ∀ place, place ∈ names ↔ Sees disk.IsPage root node place := by
  rw [findPages_of_status hroot]
  have hlists := lists_pagesAt disk root (isTree_of_status htree hroot)
  cases hpages : disk.pagesAt root node with
  | error refusal =>
      rw [hpages] at hlists
      obtain ⟨place, -, hplace, -⟩ := hlists.of_error
      exact absurd hplace (hshallow place)
  | ok pages =>
      rw [hpages] at hlists
      obtain ⟨names, rfl, hsorted, hmem, -⟩ := hlists.of_ok
      exact ⟨names, rfl, hsorted, hmem⟩

/-- The first directory that is too deep is refused. -/
theorem exists_findPages_eq_error (htree : disk.IsTree) (hroot : disk.status root = .ok node)
    {place : Place} (hdeep : Sees IsTooDeep root node place) :
    ∃ first, Sees IsTooDeep root node first ∧
      (∀ other, Sees IsTooDeep root node other → ¬ other < first) ∧
      disk.findPages root = .error (.walk root (entryPath root first) .nameTooLong) := by
  rw [findPages_of_status hroot]
  have hlists := lists_pagesAt disk root (isTree_of_status htree hroot)
  cases hpages : disk.pagesAt root node with
  | ok pages =>
      rw [hpages] at hlists
      obtain ⟨-, -, -, -, hnone⟩ := hlists.of_ok
      exact absurd hdeep (hnone place)
  | error refusal =>
      rw [hpages] at hlists
      obtain ⟨first, rfl, hfirst, hleast⟩ := hlists.of_error
      exact ⟨first, hfirst, hleast, rfl⟩

/-- When the search succeeds, nothing is too deep, and the pages are the entries that are. -/
theorem findPages_eq_ok_spec (htree : disk.IsTree) (hroot : disk.status root = .ok node)
    {pages : List Path} (h : disk.findPages root = .ok pages) :
    (∀ place, ¬ Sees IsTooDeep root node place) ∧
      ∀ page, page ∈ pages ↔ ∃ place, Sees disk.IsPage root node place ∧
        entryPath root place = page := by
  have hshallow : ∀ place, ¬ Sees IsTooDeep root node place := by
    intro place hdeep
    obtain ⟨first, -, -, hrefused⟩ := exists_findPages_eq_error htree hroot hdeep
    rw [h] at hrefused
    contradiction
  obtain ⟨names, hfind, -, hmem⟩ := exists_findPages_eq_ok htree hroot hshallow
  obtain rfl := Except.ok.inj (h.symm.trans hfind)
  refine ⟨hshallow, fun page => ?_⟩
  simp only [List.mem_map, hmem]

/-- Every document below a root is found, once, in the order of the names that lead to it: the
entries that do not lead to a directory and whose names end in `.html` behind something else.
Links below the root are not followed, the root itself is.  When the path of a directory is
too long for the disk, nothing is found, and the first such directory is told.  Neither depends
on the order in which directories keep their entries. -/
theorem findPages_enumerates {disk : Disk} (htree : disk.IsTree) {root : Path} {node : DiskNode}
    (hroot : disk.status root = .ok node) :
    ((∀ place entries, node.at? place = some (.directory entries) →
        (entryPath root place).bytes.length < pathLimit) →
      ∃ names : List Place, disk.findPages root = .ok (names.map (entryPath root)) ∧
        names.Pairwise (· < ·) ∧ (names.map (entryPath root)).Nodup ∧
        ∀ place, place ∈ names ↔ (∃ entry, node.at? place = some entry) ∧
          disk.isDirectory (entryPath root place) = false ∧
          ∃ stem ≠ [], place.getLast?.or root.fileName? = some (stem ++ pageEnding)) ∧
    ((∃ place entries, node.at? place = some (.directory entries) ∧
        pathLimit ≤ (entryPath root place).bytes.length) →
      ∃ place entries, node.at? place = some (.directory entries) ∧
        pathLimit ≤ (entryPath root place).bytes.length ∧
        (∀ before entries, before < place → node.at? before = some (.directory entries) →
          (entryPath root before).bytes.length < pathLimit) ∧
        disk.findPages root = .error (.walk root (entryPath root place) .nameTooLong)) ∧
    ∀ other : Disk, other.IsTree → disk.SameTree other →
      other.findPages root = disk.findPages root := by
  have hnode := isTree_of_status htree hroot
  have hne : root.bytes ≠ [] := by
    obtain ⟨place, slashed, hresolve, -⟩ := status_eq_ok_iff.mp hroot
    exact (leads_of_resolve hresolve).2.1
  refine ⟨fun hshort => ?_, ?_, fun other htree' hsame => hsame.findPages_eq htree htree' hroot⟩
  · have hshallow : ∀ place, ¬ Sees IsTooDeep root node place := by
      intro place hplace
      obtain ⟨entries, hfound, hlong⟩ := sees_isTooDeep_iff.mp hplace
      exact Nat.not_lt.mpr hlong (hshort place entries hfound)
    obtain ⟨names, hfind, hsorted, hmem⟩ := exists_findPages_eq_ok htree hroot hshallow
    have hnames : ∀ place ∈ names, ∀ name ∈ place, IsName name := by
      intro place hplace
      obtain ⟨found, hfound, -⟩ := (hmem place).mp hplace
      exact hnode.isName hfound
    refine ⟨names, hfind, hsorted, ?_, fun place => ?_⟩
    · refine List.Pairwise.map _ ?_ (List.Pairwise.and_mem.mp (nodup_of_pairwise_lt hsorted))
      rintro place place' ⟨hplace, hplace', hdiffer⟩ heq
      exact hdiffer (entryPath_injective hne (hnames place hplace) (hnames place' hplace') heq)
    · rw [hmem, Sees, ← exists_and_right]
      refine exists_congr fun found => and_congr_right fun hfound => ?_
      rw [isPage_iff htree hroot hfound fun hlong => hshallow place ⟨found, hfound, hlong⟩,
        isPagePath_iff, fileName?_entryPath hne (hnode.isName hfound)]
  · rintro ⟨place, hplace⟩
    obtain ⟨first, hfirst, hleast, hfind⟩ :=
      exists_findPages_eq_error htree hroot (sees_isTooDeep_iff.mpr hplace)
    obtain ⟨entries, hfound, hlong⟩ := sees_isTooDeep_iff.mp hfirst
    refine ⟨first, entries, hfound, hlong, fun before entries hbefore hat => ?_, hfind⟩
    exact Nat.lt_of_not_le fun hlong =>
      hleast before (sees_isTooDeep_iff.mpr ⟨entries, hat, hlong⟩) hbefore

namespace Nested

/-- The name of a root. -/
def docs : Bytes :=
  Utf8.encode "docs".toList

/-- The name of a directory in the root. -/
def api : Bytes :=
  Utf8.encode "api".toList

/-- The name of a page. -/
def page : Bytes :=
  Utf8.encode "A.html".toList

/-- The root. -/
def docsNode : DiskNode :=
  (DiskNode.file []).chain [api, page]

/-- A disk with one page, two directories down. -/
def tree : Disk :=
  ⟨.directory [(docs, docsNode)], []⟩

theorem isTree : tree.IsTree where
  top := DiskNode.isTree_chain (.file []) (by decide : ∀ name ∈ [docs, api, page], IsName name)
  here := rfl

theorem resolve_docs : tree.resolve true ⟨docs⟩ = .ok (.entry [docs] docsNode false) := by
  cbv

theorem findPages_enumerates_docs :
    tree.IsTree ∧ tree.status ⟨docs⟩ = .ok docsNode ∧
      ∃ names : List Place, tree.findPages ⟨docs⟩ = .ok (names.map (entryPath ⟨docs⟩)) ∧
        names.Pairwise (· < ·) ∧ (names.map (entryPath ⟨docs⟩)).Nodup ∧
        ∀ place, place ∈ names ↔ (∃ entry, docsNode.at? place = some entry) ∧
          tree.isDirectory (entryPath ⟨docs⟩ place) = false ∧
          ∃ stem ≠ [], place.getLast?.or (Path.mk docs).fileName? = some (stem ++ pageEnding) := by
  have hroot : tree.status ⟨docs⟩ = .ok docsNode :=
    status_eq_ok_iff.mpr ⟨_, _, resolve_docs, fun h => absurd h Bool.false_ne_true⟩
  refine ⟨isTree, hroot, (findPages_enumerates isTree hroot).1 fun place entries h => ?_⟩
  have hshort : ∀ place ∈ [api, page].inits, (entryPath ⟨docs⟩ place).bytes.length < pathLimit := by
    decide
  obtain ⟨below, hbelow, -⟩ := DiskNode.exists_append_of_at?_chain h
  exact hshort place ((List.mem_inits _ _).mpr ⟨below, hbelow⟩)

/-- The root behind so many steps that it can be listed and what is in it cannot. -/
@[irreducible]
def far : Path :=
  (Path.mk docs).dotted 2045

/-- Below a root that is spelled at such length a document is not found, though it is there
under a path that does not lead to a directory. -/
theorem findPages_far_refused :
    tree.IsTree ∧ tree.status far = .ok docsNode ∧ docsNode.at? [api, page] = some (.file []) ∧
      tree.isDirectory (entryPath far [api, page]) = false ∧
      page = Utf8.encode "A".toList ++ pageEnding ∧ ∀ pages, tree.findPages far ≠ .ok pages := by
  have hlength : far.bytes.length = 4094 := by
    rw [far, Path.length_dotted]
    decide
  have hne : far.bytes ≠ [] := List.ne_nil_of_length_eq_add_one hlength
  have hresolve : tree.resolve true far = .ok (.entry [docs] docsNode false) := by
    have hshort : far.bytes.length < pathLimit := by
      rw [hlength]
      decide
    rw [far] at hshort ⊢
    rw [resolve_dotted true 2045 rfl (by decide) hshort, resolve_docs]
  have hroot : tree.status far = .ok docsNode :=
    status_eq_ok_iff.mpr ⟨_, _, hresolve, fun h => absurd h Bool.false_ne_true⟩
  have hapi : pathLimit ≤ (entryPath far [api]).bytes.length := by
    have hjoin : far.bytes.length + api.length ≤ (far.join ⟨api⟩).bytes.length :=
      Path.length_le_length_join hne (by decide)
    refine Nat.le_trans ?_ hjoin
    rw [hlength]
    decide
  have hleads : tree.LeadsTo far [docs] := ⟨_, _, hresolve⟩
  refine ⟨isTree, hroot, rfl, ?_, by decide, fun pages hpages => ?_⟩
  · have hall : ∀ other ∈ [api], IsName other := by decide
    have hat : tree.at? ([docs] ++ [api] ++ [page]) = some (.file []) := rfl
    exact hleads.isDirectory_entryPath_of_file hall rfl (by decide) hat
  · obtain ⟨first, -, -, hrefused⟩ := exists_findPages_eq_error isTree hroot
      (sees_isTooDeep_iff.mpr ⟨_, rfl, hapi⟩)
    rw [hpages] at hrefused
    contradiction

end Nested

end Disk

end JavadocNames
