import JavadocNames.Proofs.Disk.Enumeration
import JavadocNames.Proofs.Disk.Making

/-!
# What a search does not notice

A search for pages looks at directories and links on its way, and at entries that are spelled
like pages.  So it does not notice that a file is made which no page leads to, nor that
directories and files of other names are made below the root, as long as no link leads through
them.
-/

namespace JavadocNames

namespace Disk

variable {disk made : Disk} {root path : Path} {start : Place}

/-- A path to a directory leads there on every disk that shows the same directories and
links. -/
theorem LeadsTo.of_faceAt?_eq (h : disk.LeadsTo path start) (hhere : made.here = disk.here)
    (hfaces : ∀ q, disk.passage? q ≠ none → disk.faceAt? q = made.faceAt? q) :
    made.LeadsTo path start := by
  have hvisited : ∀ q ∈ disk.visited path, disk.faceAt? q = made.faceAt? q := fun q hq =>
    hfaces q (h.passage?_ne_none (mem_way_of_mem_visited hq))
  obtain ⟨_, slashed, hresolve⟩ := h
  have hshape := resolve_of_faceAt?_eq path true hhere hvisited
  rw [hresolve] at hshape
  rcases eq_or_of_map_eq_map hshape with ⟨e, -, hdisk⟩ | ⟨target, _, htarget, hdisk, heq⟩
  · contradiction
  · obtain rfl := Except.ok.inj hdisk
    cases target with
    | free => contradiction
    | entry place node slashed' =>
        obtain ⟨rfl, hnode, rfl⟩ := Target.entry.inj heq
        cases node with
        | directory entries' => exact ⟨entries', slashed', htarget⟩
        | file => contradiction
        | link => contradiction

theorem Grows.leadsTo {fits : Place → DiskNode → Prop} (h : disk.Grows fits made)
    (hleads : disk.LeadsTo path start) : made.LeadsTo path start :=
  hleads.of_faceAt?_eq h.here_eq fun q hq => h.faceAt?_eq fun hnone => hq (by rw [passage?, hnone])

/-- The pages below a directory by what is seen on the disk. -/
theorem LeadsTo.status_spec (h : disk.LeadsTo root start) :
    ∃ entries, disk.status root = .ok (.directory entries) ∧
      (∀ place, Sees IsTooDeep root (.directory entries) place ↔
        ∃ face, disk.faceAt? (start ++ place) = some face ∧
          IsTooDeep (entryPath root place) face) ∧
      ∀ place, Sees disk.IsPage root (.directory entries) place ↔
        ∃ face, disk.faceAt? (start ++ place) = some face ∧
          disk.IsPage (entryPath root place) face := by
  obtain ⟨entries, hat⟩ := hasDirectory_iff.mp h.hasDirectory
  exact ⟨entries, status_eq_directory_iff.mpr ⟨start, h, hat⟩,
    fun _ => sees_iff_faceAt? isTooDeep_face hat, fun _ => sees_iff_faceAt? disk.isPage_face hat⟩

/-- What is below a directory, and no directory itself, is an entry of a directory. -/
theorem LeadsTo.exists_eq_concat (h : disk.LeadsTo root start) (htree : disk.IsTree)
    {below : Place} {face : DiskNode} (hface : disk.faceAt? (start ++ below) = some face)
    (hnot : face ≠ .directory []) :
    ∃ above name, below = above ++ [name] ∧ (∀ other ∈ above, IsName other) ∧ IsName name ∧
      disk.HasDirectory (start ++ above) := by
  rcases List.eq_nil_or_concat below with rfl | ⟨above, name, rfl⟩
  · have hstart : disk.faceAt? start = some (.directory []) := h.hasDirectory
    rw [List.append_nil, hstart] at hface
    exact absurd (Option.some.inj hface).symm hnot
  · rw [List.concat_eq_append, ← List.append_assoc] at hface
    obtain ⟨node, hnode, -⟩ := Option.map_eq_some_iff.mp hface
    have hnames := htree.top.isName hnode
    rw [List.append_assoc, List.forall_mem_append, List.forall_mem_append,
      List.forall_mem_singleton] at hnames
    exact ⟨above, name, List.concat_eq_append, hnames.2.1, hnames.2.2,
      hasDirectory_of_faceAt?_append hface⟩

theorem isPage_congr (h : made.isDirectory path = disk.isDirectory path) (node : DiskNode) :
    made.IsPage path node ↔ disk.IsPage path node := by
  cases node <;> simp only [IsPage, h]

theorem eq_file_of_passage?_eq_none {place : Place} (h : disk.passage? place = none)
    {face : DiskNode} (hface : disk.faceAt? place = some face) :
    ∃ content, face = .file content := by
  obtain ⟨node, hnode, rfl⟩ := Option.map_eq_some_iff.mp hface
  rw [passage?, hnode] at h
  cases node with
  | file content => exact ⟨content, rfl⟩
  | link => contradiction
  | directory => contradiction

theorem passage?_eq_of_faceAt?_eq {q : Place} (h : disk.faceAt? q = made.faceAt? q) :
    disk.passage? q = made.passage? q := by
  rw [faceAt?, faceAt?] at h
  rw [passage?, passage?]
  -- A face keeps what a passage is told from: that there is a directory, or where a link leads.
  cases hnode : disk.at? q with
  | none =>
      rw [hnode] at h
      rw [Option.map_eq_none_iff.mp h.symm]
  | some node =>
      rw [hnode] at h
      obtain ⟨other, hother, hface⟩ := Option.map_eq_some_iff.mp h.symm
      rw [hother]
      cases node <;> cases other <;> simp_all [DiskNode.face]

/-! ## A file that no page leads to -/

section Puts

variable {place : Place} {content : Bytes} (h : disk.Puts place (.file content) made)
variable (hold : disk.passage? place = none)

include h

theorem Puts.passage?_eq_none : made.passage? place = none := by
  rw [passage?, faceAt?_eq_some_file_iff.mp h.faceAt?_self]

/-- A page is read as before when the file is not on its way. -/
theorem Puts.read_eq {page : Path} (hpage : place ∉ made.visited page) :
    made.read page = disk.read page :=
  (read_of_faceAt?_eq h.here_eq.symm fun q hq =>
    h.faceAt?_of_ne q (ne_of_mem_of_not_mem hq hpage)).symm

/-- A page is read as before when there was a file before, and the page does not lead to it. -/
theorem Puts.read_eq_of_file {page : Path} {old : Bytes}
    (hat : disk.at? place = some (.file old))
    (hpage : ∀ node slashed, made.resolve true page ≠ .ok (.entry place node slashed)) :
    made.read page = disk.read page := by
  refine read_of_status_eq (status_of_shapeAt?_eq h.here_eq
    (fun q _ => h.shapeAt?_eq_of_file hat q) fun place' node slashed hresolve => ?_)
  obtain ⟨found, hfound⟩ := h.resolve_of_file hat hresolve
  have hne : place' ≠ place := by
    rintro rfl
    exact hpage found slashed hfound
  exact (h.faceAt?_of_ne place' hne).symm

include hold

/-- A file cannot be passed, nor could what was there before. -/
theorem Puts.passage?_eq (q : Place) : made.passage? q = disk.passage? q := by
  by_cases hq : q = place
  · rw [hq, hold, h.passage?_eq_none]
  · exact passage?_eq_of_faceAt?_eq (h.faceAt?_of_ne q hq)

theorem Puts.wayFrom_eq {last : Bool} {links : Nat} {above : Place} {pieces : List Bytes} :
    made.wayFrom last links above pieces = disk.wayFrom last links above pieces :=
  wayFrom_of_passage?_eq fun q _ => (h.passage?_eq hold q).symm

theorem Puts.visited_eq : made.visited path = disk.visited path := by
  rw [visited, visited, way, way, start_of_here_eq h.here_eq, h.wayFrom_eq hold]

/-- A path does not lead to a directory by way of a file. -/
theorem Puts.leadsTo_iff : made.LeadsTo path start ↔ disk.LeadsTo path start := by
  have hne : ∀ {q : Place} {d : Disk}, d.passage? place = none → d.passage? q ≠ none →
      q ≠ place := by
    rintro q d hnone hq rfl
    exact hq hnone
  constructor
  · exact fun hmade => hmade.of_faceAt?_eq h.here_eq.symm fun q hq =>
      h.faceAt?_of_ne q (hne h.passage?_eq_none hq)
  · exact fun hdisk => hdisk.of_faceAt?_eq h.here_eq fun q hq =>
      (h.faceAt?_of_ne q (hne hold hq)).symm

theorem Puts.isDirectory_eq (path : Path) : made.isDirectory path = disk.isDirectory path := by
  rw [Bool.eq_iff_iff, isDirectory_iff, isDirectory_iff]
  exact exists_congr fun _ => h.leadsTo_iff hold

/-- Where a file that is new is not found itself, the same is found as without it. -/
theorem Puts.findPages_eq (htree : disk.IsTree) (hleads : disk.LeadsTo root start)
    (hfound : disk.at? place = none → ∀ pages, made.findPages root = .ok pages →
      ∀ below, start ++ below = place → entryPath root below ∉ pages) :
    made.findPages root = disk.findPages root := by
  obtain ⟨entries, hstatus, hdeep, hpage⟩ := hleads.status_spec
  obtain ⟨entries', hstatus', hdeep', hpage'⟩ := ((h.leadsTo_iff hold).mpr hleads).status_spec
  have hsame : ∀ below, Sees IsTooDeep root (.directory entries') below ↔
      Sees IsTooDeep root (.directory entries) below := by
    intro below
    rw [hdeep, hdeep']
    by_cases hbelow : start ++ below = place
    · rw [hbelow, h.faceAt?_self]
      constructor
      · rintro ⟨_, hface, hlong⟩
        obtain rfl := Option.some.inj hface
        contradiction
      · rintro ⟨face, hface, hlong⟩
        obtain ⟨content, rfl⟩ := eq_file_of_passage?_eq_none hold hface
        contradiction
    · rw [h.faceAt?_of_ne _ hbelow]
  refine findPages_congr htree h.isTree hstatus hstatus' hsame fun hshallow below => ?_
  obtain ⟨names, hfind, -, -⟩ := exists_findPages_eq_ok h.isTree hstatus' fun place hplace =>
    hshallow place ((hsame place).mp hplace)
  obtain ⟨-, hmem⟩ := findPages_eq_ok_spec h.isTree hstatus' hfind
  rw [hpage, hpage']
  by_cases hbelow : start ++ below = place
  · -- A file that is spelled like a page is found, whatever its content is.
    rw [hbelow, h.faceAt?_self]
    cases hface : disk.faceAt? place with
    | none =>
        have hnew : disk.at? place = none := faceAt?_eq_none_iff.mp hface
        have hnot : ¬ isPagePath (entryPath root below) := fun hspelled =>
          hfound hnew _ hfind below hbelow ((hmem _).mpr
            ⟨below, (hpage' below).mpr ⟨.file content, hbelow ▸ h.faceAt?_self, hspelled⟩, rfl⟩)
        constructor
        · rintro ⟨_, hfile, hspelled⟩
          obtain rfl := Option.some.inj hfile
          exact absurd hspelled hnot
        · rintro ⟨_, hnone, -⟩
          contradiction
    | some face =>
        obtain ⟨old, rfl⟩ := eq_file_of_passage?_eq_none hold hface
        simp only [Option.some.injEq, exists_eq_left', IsPage]
  · rw [h.faceAt?_of_ne _ hbelow]
    simp only [isPage_congr (h.isDirectory_eq hold _)]

end Puts

/-! ## Directories and files that no link leads to -/

/-- A directory, or a file whose name is not that of a page. -/
def IsNoPage (place : Place) (face : DiskNode) : Prop :=
  face = .directory [] ∨
    (∃ content, face = .file content) ∧ ∀ stem, place.getLast? ≠ some (stem ++ pageEnding)

/-- Where nothing new is on the way of pieces, the way is the old one. -/
theorem Grows.wayFrom_eq {fits : Place → DiskNode → Prop} (h : disk.Grows fits made)
    {last : Bool} {links : Nat} {place : Place} {pieces : List Bytes}
    (hway : ∀ q ∈ made.wayFrom last links place pieces, disk.at? q = none → made.at? q = none) :
    disk.wayFrom last links place pieces = made.wayFrom last links place pieces :=
  wayFrom_of_passage?_eq fun q hq =>
    (passage?_eq_of_faceAt?_eq (h.faceAt?_eq_of_not_new (hway q hq))).symm

/-- When the same is put at the same place of both disks, one has grown from the other as before. -/
theorem Grows.puts {fits : Place → DiskNode → Prop} (h : disk.Grows fits made) {place : Place}
    {node : DiskNode} {disk' made' : Disk} (hputs : disk.Puts place node disk')
    (hputs' : made.Puts place node made') : disk'.Grows fits made' where
  isTree := hputs'.isTree
  here_eq := by rw [hputs'.here_eq, hputs.here_eq, h.here_eq]
  kept q face hq := by
    by_cases hplace : q = place
    · rw [hplace, hputs.faceAt?_self] at hq
      rw [hplace, hputs'.faceAt?_self, hq]
    · rw [hputs.faceAt?_of_ne q hplace] at hq
      rw [hputs'.faceAt?_of_ne q hplace, h.kept q face hq]
  old_or_new q face hq := by
    by_cases hplace : q = place
    · rw [hplace, hputs'.faceAt?_self] at hq
      rw [hplace, hputs.faceAt?_self]
      exact .inl hq
    · rw [hputs'.faceAt?_of_ne q hplace] at hq
      rw [hputs.faceAt?_of_ne q hplace, hputs.at?_eq_none_iff hplace]
      exact h.old_or_new q face hq

/-- A disk on which things have been made that are not pages.  The root leads to a directory,
no link leads to what is new or through it, and the new directories below the root can be
listed. -/
structure Apart (disk : Disk) (root : Path) (start : Place) (made : Disk) : Prop where
  grows : disk.Grows IsNoPage made
  leads : disk.LeadsTo root start
  links : ∀ place name target, disk.at? (place ++ [name]) = some (.link target) →
    ∀ q ∈ made.wayFrom true linkLimit place [name], disk.at? q = none → made.at? q = none
  short : ∀ below, disk.at? (start ++ below) = none → made.HasDirectory (start ++ below) →
    (entryPath root below).bytes.length < pathLimit

namespace Apart

variable (h : disk.Apart root start made) (htree : disk.IsTree)

include h

theorem leads_made : made.LeadsTo root start :=
  h.grows.leadsTo h.leads

include htree

/-- On the way of an entry there is nothing new. -/
theorem faceAt?_eq_of_mem_visited {below : Place} {face : DiskNode}
    (hface : disk.faceAt? (start ++ below) = some face) (hnot : face ≠ .directory []) :
    ∀ q ∈ disk.visited (entryPath root below), disk.faceAt? q = made.faceAt? q := by
  obtain ⟨above, name, rfl, hall, hname, habove⟩ := h.leads.exists_eq_concat htree hface hnot
  intro q hq
  rcases h.leads.passage?_or_mem_of_mem_way hall habove hname (mem_way_of_mem_visited hq) with
    hpassage | hq
  · refine h.grows.faceAt?_eq fun hnone => hpassage ?_
    rw [passage?, hnone]
  · obtain ⟨node, hnode, rfl⟩ := Option.map_eq_some_iff.mp hface
    rw [← List.append_assoc] at hnode
    cases node with
    | directory => exact absurd rfl hnot
    | file content =>
        rw [wayFrom_sought _ _ _ _ _ hname.isSought, passage?, hnode, List.mem_singleton] at hq
        exact h.grows.faceAt?_eq (by rw [hq, hnode]; exact Option.some_ne_none _)
    | link target =>
        have hnew := h.links _ _ target hnode
        rw [h.grows.wayFrom_eq hnew] at hq
        exact h.grows.faceAt?_eq_of_not_new (hnew q hq)

/-- What is new is not a page, and what was a page is one. -/
theorem isPage_iff {below : Place} :
    (∃ face, made.faceAt? (start ++ below) = some face ∧
        made.IsPage (entryPath root below) face) ↔
      ∃ face, disk.faceAt? (start ++ below) = some face ∧
        disk.IsPage (entryPath root below) face := by
  have hsame : ∀ face, disk.faceAt? (start ++ below) = some face →
      (made.IsPage (entryPath root below) face ↔ disk.IsPage (entryPath root below) face) := by
    intro face hface
    by_cases hnot : face = .directory []
    · rw [hnot]
      exact .rfl
    · exact isPage_congr (isDirectory_of_faceAt?_eq h.grows.here_eq
        (h.faceAt?_eq_of_mem_visited htree hface hnot)) face
  constructor
  · rintro ⟨face, hmade, hpage⟩
    rcases h.grows.old_or_new _ _ hmade with hface | ⟨-, rfl | ⟨⟨content, rfl⟩, hname⟩⟩
    · exact ⟨face, hface, (hsame face hface).mp hpage⟩
    · exact absurd hpage id
    · -- A new file would have the name of a page.
      obtain ⟨above, name, rfl, hall, hproper, -⟩ :=
        h.leads_made.exists_eq_concat h.grows.isTree hmade (by simp)
      obtain ⟨stem, -, hstem⟩ := isPagePath_iff.mp hpage
      rw [fileName?_entryPath_concat h.leads.bytes_ne_nil hall hproper] at hstem
      refine absurd ?_ (hname stem)
      rw [← List.append_assoc, List.getLast?_concat, hstem]
  · rintro ⟨face, hface, hpage⟩
    exact ⟨face, h.grows.kept _ _ hface, (hsame face hface).mpr hpage⟩

omit htree in
theorem isTooDeep_iff {below : Place} :
    (∃ face, made.faceAt? (start ++ below) = some face ∧ IsTooDeep (entryPath root below) face) ↔
      ∃ face, disk.faceAt? (start ++ below) = some face ∧
        IsTooDeep (entryPath root below) face := by
  constructor
  · rintro ⟨face, hmade, hdeep⟩
    rcases h.grows.old_or_new _ _ hmade with hface | ⟨hnew, rfl | ⟨⟨content, rfl⟩, -⟩⟩
    · exact ⟨face, hface, hdeep⟩
    · exact absurd (h.short below hnew hmade) (Nat.not_lt.mpr hdeep)
    · contradiction
  · rintro ⟨face, hface, hdeep⟩
    exact ⟨face, h.grows.kept _ _ hface, hdeep⟩

/-- The same pages are found. -/
theorem findPages_eq : made.findPages root = disk.findPages root := by
  obtain ⟨entries, hstatus, hdeep, hpage⟩ := h.leads.status_spec
  obtain ⟨entries', hstatus', hdeep', hpage'⟩ := h.leads_made.status_spec
  refine findPages_congr htree h.grows.isTree hstatus hstatus' (fun below => ?_) fun _ below => ?_
  · rw [hdeep, hdeep', h.isTooDeep_iff]
  · rw [hpage, hpage', h.isPage_iff htree]

/-- The pages that are found are read as before. -/
theorem read_eq {pages : List Path} (hpages : disk.findPages root = .ok pages) {page : Path}
    (hmem : page ∈ pages) : made.read page = disk.read page := by
  obtain ⟨entries, hstatus, -, hpage⟩ := h.leads.status_spec
  obtain ⟨-, hfound⟩ := findPages_eq_ok_spec htree hstatus hpages
  obtain ⟨below, hsees, rfl⟩ := (hfound page).mp hmem
  obtain ⟨face, hface, hisPage⟩ := (hpage below).mp hsees
  refine read_of_faceAt?_eq h.grows.here_eq (h.faceAt?_eq_of_mem_visited htree hface ?_)
  rintro rfl
  exact hisPage

omit htree in
/-- When the same file is made on both disks, nothing else is new. -/
theorem puts {place : Place} {content : Bytes} {disk' made' : Disk}
    (hputs : disk.Puts place (.file content) disk') (hold : disk.passage? place = none)
    (hputs' : made.Puts place (.file content) made') (hold' : made.passage? place = none) :
    disk'.Apart root start made' := by
  have hne : ∀ {q : Place}, disk'.at? q = none → q ≠ place := by
    rintro q hq rfl
    rw [faceAt?_eq_some_file_iff.mp hputs.faceAt?_self] at hq
    contradiction
  refine ⟨h.grows.puts hputs hputs', (hputs.leadsTo_iff hold).mpr h.leads,
    fun place' name target hlink q hq hnone => ?_, fun below hnone hdirectory => ?_⟩
  · have hplace : place' ++ [name] ≠ place := by
      rintro heq
      rw [heq, faceAt?_eq_some_file_iff.mp hputs.faceAt?_self] at hlink
      simp at hlink
    rw [← faceAt?_eq_some_link_iff, hputs.faceAt?_of_ne _ hplace, faceAt?_eq_some_link_iff] at hlink
    rw [hputs'.wayFrom_eq hold'] at hq
    rw [hputs'.at?_eq_none_iff (hne hnone)]
    exact h.links _ _ _ hlink q hq ((hputs.at?_eq_none_iff (hne hnone)).mp hnone)
  · have hplace := hne hnone
    rw [HasDirectory, hputs'.faceAt?_of_ne _ hplace] at hdirectory
    exact h.short below ((hputs.at?_eq_none_iff hplace).mp hnone) hdirectory

omit htree in
/-- When a file is new, it makes no difference what is written to it. -/
theorem rewritten {place : Place} {old content : Bytes} {made' : Disk}
    (hnew : disk.at? place = none) (hold : made.at? place = some (.file old))
    (hputs : made.Puts place (.file content) made') : disk.Apart root start made' := by
  have hpassage : made.passage? place = none := by rw [passage?, hold]
  refine ⟨⟨hputs.isTree, hputs.here_eq.trans h.grows.here_eq, fun q face hq => ?_,
    fun q face hq => ?_⟩, h.leads, fun above name target hlink q hq hnone => ?_,
    fun below hnone hdirectory => ?_⟩
  · have hplace : q ≠ place := by
      rintro rfl
      rw [faceAt?_eq_none_iff.mpr hnew] at hq
      contradiction
    rw [hputs.faceAt?_of_ne q hplace]
    exact h.grows.kept q face hq
  · by_cases hplace : q = place
    · rw [hplace, hputs.faceAt?_self] at hq
      obtain rfl := Option.some.inj hq
      rcases h.grows.old_or_new place _ (faceAt?_eq_some_file_iff.mpr hold) with
        hface | ⟨-, hdirectory | ⟨-, hname⟩⟩
      · rw [faceAt?_eq_none_iff.mpr hnew] at hface
        contradiction
      · contradiction
      · rw [hplace]
        exact .inr ⟨hnew, .inr ⟨⟨content, rfl⟩, hname⟩⟩
    · rw [hputs.faceAt?_of_ne q hplace] at hq
      exact h.grows.old_or_new q face hq
  · rw [hputs.wayFrom_eq hpassage] at hq
    have hfree := h.links above name target hlink q hq hnone
    have hplace : q ≠ place := by
      rintro rfl
      rw [hold] at hfree
      contradiction
    exact (hputs.at?_eq_none_iff hplace).mpr hfree
  · have hplace : start ++ below ≠ place := by
      intro heq
      rw [HasDirectory, heq, hputs.faceAt?_self] at hdirectory
      simp at hdirectory
    rw [HasDirectory, hputs.faceAt?_of_ne _ hplace] at hdirectory
    exact h.short below hnone hdirectory

/-- A file can be made on both disks, at one place, or on neither. -/
theorem createFile_eq (hway : ∀ q ∈ made.visited path, disk.at? q = none → made.at? q = none) :
    (∃ e, disk.createFile path = .error e ∧ made.createFile path = .error e) ∨
      ∃ place disk' made', disk.createFile path = .ok (place, disk') ∧
        made.createFile path = .ok (place, made') ∧ disk'.Apart root start made' := by
  have hfaces : ∀ q ∈ made.visited path, made.faceAt? q = disk.faceAt? q := fun q hq =>
    (h.grows.faceAt?_eq_of_not_new (hway q hq)).symm
  rcases eq_or_of_map_eq_map (createFile_of_faceAt?_eq h.grows.here_eq.symm hfaces) with
    ⟨e, hdisk, hmade⟩ | ⟨⟨place, disk'⟩, ⟨place', made'⟩, hdisk, hmade, hplace⟩
  · exact .inl ⟨e, hdisk, hmade⟩
  · obtain rfl : place = place' := hplace
    obtain ⟨hputs, hold, -, -⟩ := createFile_spec htree hdisk
    obtain ⟨hputs', hold', -, -⟩ := createFile_spec h.grows.isTree hmade
    exact .inr ⟨place, disk', made', hdisk, hmade, h.puts hputs hold hputs' hold'⟩

end Apart

end Disk

end JavadocNames
