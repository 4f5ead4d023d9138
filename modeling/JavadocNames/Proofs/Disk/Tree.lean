import JavadocNames.Disk.Resolve

/-!
# File trees

A disk is a file tree when the names in each directory are names that a file can have,
and differ from each other.  Looking at a place shows a file, a link or a directory; what
lies below a directory is seen at other places.  Putting a node without entries at a place
changes what is seen there and nowhere else.
-/

namespace JavadocNames

/-- A name that a file can have. -/
structure Disk.IsName (name : Bytes) : Prop where
  ne_nil : name ≠ []
  slash_not_mem : Path.slash ∉ name
  nul_not_mem : 0 ∉ name
  ne_dot : name ≠ [Path.dot]
  ne_dots : name ≠ [Path.dot, Path.dot]
  length_le : name.length ≤ Disk.nameLimit

instance (name : Bytes) : Decidable (Disk.IsName name) :=
  decidable_of_iff
    (name ≠ [] ∧ Path.slash ∉ name ∧ 0 ∉ name ∧ name ≠ [Path.dot] ∧
      name ≠ [Path.dot, Path.dot] ∧ name.length ≤ Disk.nameLimit)
    ⟨fun ⟨h₁, h₂, h₃, h₄, h₅, h₆⟩ => ⟨h₁, h₂, h₃, h₄, h₅, h₆⟩,
      fun ⟨h₁, h₂, h₃, h₄, h₅, h₆⟩ => ⟨h₁, h₂, h₃, h₄, h₅, h₆⟩⟩

namespace DiskNode

/-- The names in a directory. -/
def names (entries : List (Bytes × DiskNode)) : List Bytes :=
  entries.map (·.1)

/-- A node whose directories hold entries of different names that files can have.  A link
leads to a path without a zero byte. -/
inductive IsTree : DiskNode → Prop
  | file (content : Bytes) : IsTree (.file content)
  | link {target : Path} (nul_not_mem : 0 ∉ target.bytes) : IsTree (.link target)
  | directory {entries : List (Bytes × DiskNode)} (nodup : (names entries).Nodup)
      (isName : ∀ name ∈ names entries, Disk.IsName name)
      (isTree : ∀ entry ∈ entries, IsTree entry.2) : IsTree (.directory entries)

/-! ## Entries -/

theorem mem_of_child?_eq_some {name : Bytes} {entries : List (Bytes × DiskNode)}
    {node : DiskNode} (h : child? name entries = some node) : (name, node) ∈ entries := by
  induction entries with
  | nil => simp [child?] at h
  | cons entry rest ih =>
      obtain ⟨other, first⟩ := entry
      rw [child?] at h
      split at h
      case isTrue heq =>
          obtain rfl := Option.some.inj h
          rw [heq]
          exact List.mem_cons_self
      case isFalse => exact List.mem_cons_of_mem _ (ih h)

/-- In a directory without repeated names every entry is found by its name. -/
theorem child?_eq_some_iff {name : Bytes} {entries : List (Bytes × DiskNode)}
    (hnodup : (names entries).Nodup) {node : DiskNode} :
    child? name entries = some node ↔ (name, node) ∈ entries := by
  refine ⟨mem_of_child?_eq_some, fun h => ?_⟩
  induction entries with
  | nil => contradiction
  | cons entry rest ih =>
      obtain ⟨other, first⟩ := entry
      obtain ⟨hother, hrest⟩ := List.nodup_cons.mp hnodup
      rcases List.mem_cons.mp h with heq | hmem
      · obtain ⟨rfl, rfl⟩ := Prod.mk.inj heq
        simp [child?]
      · have hne : other ≠ name := by
          rintro rfl
          exact hother (List.mem_map_of_mem (f := (·.1)) hmem)
        rw [child?, if_neg hne]
        exact ih hrest hmem

theorem child?_putEntry (name other : Bytes) (new : DiskNode)
    (entries : List (Bytes × DiskNode)) :
    child? other (putEntry name new entries) =
      if other = name then some new else child? other entries := by
  induction entries with
  | nil => simp [putEntry, child?, eq_comm]
  | cons entry rest ih =>
      obtain ⟨first, node⟩ := entry
      by_cases hfirst : first = name
      · subst hfirst
        by_cases hother : other = first
        · simp [putEntry, child?, hother]
        · simp [putEntry, child?, hother, Ne.symm hother]
      · rw [putEntry, if_neg hfirst, child?]
        by_cases hother : first = other
        · subst hother
          simp [child?, hfirst]
        · rw [if_neg hother, ih, child?, if_neg hother]

theorem mem_putEntry {name : Bytes} {new : DiskNode} {entries : List (Bytes × DiskNode)}
    {entry : Bytes × DiskNode} (h : entry ∈ putEntry name new entries) :
    entry = (name, new) ∨ entry ∈ entries := by
  induction entries with
  | nil => exact .inl (List.mem_singleton.mp h)
  | cons first rest ih =>
      rw [putEntry] at h
      split at h
      case isTrue heq =>
          rcases List.mem_cons.mp h with hfirst | hrest
          · exact .inl (heq ▸ hfirst)
          · exact .inr (List.mem_cons_of_mem _ hrest)
      case isFalse =>
          rcases List.mem_cons.mp h with hfirst | hrest
          · exact .inr (hfirst ▸ List.mem_cons_self)
          · exact (ih hrest).imp_right (List.mem_cons_of_mem _)

theorem nodup_names_putEntry {name : Bytes} {new : DiskNode}
    {entries : List (Bytes × DiskNode)} (h : (names entries).Nodup) :
    (names (putEntry name new entries)).Nodup := by
  induction entries with
  | nil => simp [putEntry, names]
  | cons first rest ih =>
      obtain ⟨hfirst, hrest⟩ := List.nodup_cons.mp h
      rw [putEntry]
      split
      case isTrue => exact h
      case isFalse hne =>
          refine List.nodup_cons.mpr ⟨fun hmem => ?_, ih hrest⟩
          obtain ⟨entry, hentry, heq⟩ := List.mem_map.mp hmem
          rcases mem_putEntry hentry with rfl | hentry
          · exact hne heq.symm
          · exact hfirst (heq ▸ List.mem_map_of_mem (f := (·.1)) hentry)

/-- Putting a tree at a place of proper names makes a tree. -/
theorem IsTree.put {node new : DiskNode} (h : node.IsTree) (hnew : new.IsTree) (place : Place)
    (hplace : ∀ name ∈ place, Disk.IsName name) : (node.put place new).IsTree := by
  -- A directory of a tree stays one when one of its entries becomes another tree.
  have hentries : ∀ (entries : List (Bytes × DiskNode)) (name : Bytes) (inner : DiskNode),
      IsTree (.directory entries) → Disk.IsName name → inner.IsTree →
      IsTree (.directory (putEntry name inner entries)) := by
    intro entries name inner hdirectory hname hinner
    obtain _ | _ | ⟨hnodup, hnames, htrees⟩ := hdirectory
    refine .directory (nodup_names_putEntry hnodup) ?_ ?_
    · intro other hother
      obtain ⟨entry, hentry, rfl⟩ := List.mem_map.mp hother
      rcases mem_putEntry hentry with rfl | hentry
      · exact hname
      · exact hnames _ (List.mem_map_of_mem (f := (·.1)) hentry)
    · intro entry hentry
      rcases mem_putEntry hentry with rfl | hentry
      · exact hinner
      · exact htrees entry hentry
  induction place generalizing node with
  | nil => cases node <;> exact hnew
  | cons name rest ih =>
      have hname := hplace name List.mem_cons_self
      have hrest : ∀ other ∈ rest, Disk.IsName other := fun other hother =>
        hplace other (List.mem_cons_of_mem _ hother)
      cases node with
      | file content => simpa only [DiskNode.put] using h
      | link target => simpa only [DiskNode.put] using h
      | directory entries =>
          cases rest with
          | nil => exact hentries entries name new h hname hnew
          | cons next rest =>
              rw [DiskNode.put]
              split
              case h_2 => exact h
              case h_1 child hchild =>
                  have hinner : child.IsTree := by
                    cases h with
                    | directory _ _ htrees => exact htrees _ (mem_of_child?_eq_some hchild)
                  exact hentries entries name _ h hname (ih hinner hrest)

/-! ## Places -/

@[simp] theorem at?_nil (node : DiskNode) : node.at? [] = some node := by
  cases node <;> rfl

theorem at?_directory_cons (entries : List (Bytes × DiskNode)) (name : Bytes) (rest : Place) :
    (directory entries).at? (name :: rest) = (child? name entries).bind (·.at? rest) := rfl

theorem at?_append (node : DiskNode) (place rest : Place) :
    node.at? (place ++ rest) = (node.at? place).bind (·.at? rest) := by
  induction place generalizing node with
  | nil => simp
  | cons name place ih =>
      cases node with
      | file content => rfl
      | link target => rfl
      | directory entries =>
          rw [List.cons_append, at?_directory_cons, at?_directory_cons, Option.bind_assoc]
          simp only [ih]

/-- A place with something below it is a directory. -/
theorem exists_directory_of_at?_append {node found : DiskNode} {place : Place} {name : Bytes}
    {rest : Place} (h : node.at? (place ++ name :: rest) = some found) :
    ∃ entries, node.at? place = some (.directory entries) := by
  rw [at?_append, Option.bind_eq_some_iff] at h
  obtain ⟨above, habove, hfound⟩ := h
  cases above with
  | file content => contradiction
  | link target => contradiction
  | directory entries => exact ⟨entries, habove⟩

/-- Something is below a node only when the node is a directory. -/
theorem exists_directory_of_at?_ne_nil {node found : DiskNode} {place : Place}
    (h : node.at? place = some found) (hplace : place ≠ []) :
    ∃ entries, node = .directory entries := by
  cases place with
  | nil => contradiction
  | cons name rest =>
      cases node with
      | file content => contradiction
      | link target => contradiction
      | directory entries => exact ⟨entries, rfl⟩

/-- What is below a directory is at one of its entries or below it. -/
theorem exists_mem_of_at?_cons {entries : List (Bytes × DiskNode)} {name : Bytes} {rest : Place}
    {found : DiskNode} (h : (directory entries).at? (name :: rest) = some found) :
    ∃ child, (name, child) ∈ entries ∧ child.at? rest = some found := by
  rw [at?_directory_cons, Option.bind_eq_some_iff] at h
  obtain ⟨child, hchild, hfound⟩ := h
  exact ⟨child, mem_of_child?_eq_some hchild, hfound⟩

theorem IsTree.at? {node found : DiskNode} (h : node.IsTree) {place : Place}
    (hfound : node.at? place = some found) : found.IsTree := by
  induction place generalizing node with
  | nil =>
      rw [at?_nil] at hfound
      exact Option.some.inj hfound ▸ h
  | cons name rest ih =>
      cases h with
      | file => contradiction
      | link => contradiction
      | directory _ _ htrees =>
          obtain ⟨child, hchild, hfound⟩ := exists_mem_of_at?_cons hfound
          exact ih (htrees _ hchild) hfound

/-- The names on the way to a place of a tree. -/
theorem IsTree.isName {node found : DiskNode} (h : node.IsTree) {place : Place}
    (hfound : node.at? place = some found) : ∀ name ∈ place, Disk.IsName name := by
  induction place generalizing node with
  | nil => simp
  | cons name rest ih =>
      cases h with
      | file => contradiction
      | link => contradiction
      | directory _ hnames htrees =>
          obtain ⟨child, hmem, hfound⟩ := exists_mem_of_at?_cons hfound
          rintro other (_ | ⟨_, hother⟩)
          · exact hnames _ (List.mem_map_of_mem (f := (·.1)) hmem)
          · exact ih (htrees _ hmem) hfound other hother

/-! ## Chains -/

/-- A node behind directories that hold nothing else. -/
def chain (node : DiskNode) : Place → DiskNode
  | [] => node
  | name :: rest => .directory [(name, chain node rest)]

theorem isTree_chain {node : DiskNode} (h : node.IsTree) {names : Place}
    (hnames : ∀ name ∈ names, Disk.IsName name) : (node.chain names).IsTree := by
  induction names with
  | nil => exact h
  | cons name rest ih =>
      obtain ⟨hname, hrest⟩ := List.forall_mem_cons.mp hnames
      exact .directory (List.pairwise_singleton _ name) (List.forall_mem_singleton.mpr hname)
        (List.forall_mem_singleton.mpr (ih hrest))

/-- A place in a chain that ends in a file is on the way to the file. -/
theorem exists_append_of_at?_chain {content : Bytes} {found : DiskNode} {names place : Place}
    (h : ((file content).chain names).at? place = some found) :
    ∃ below, place ++ below = names ∧ found = (file content).chain below := by
  induction names generalizing place with
  | nil =>
      cases place with
      | nil => exact ⟨[], rfl, (Option.some.inj h).symm⟩
      | cons name rest => contradiction
  | cons name rest ih =>
      cases place with
      | nil => exact ⟨name :: rest, rfl, (Option.some.inj h).symm⟩
      | cons other place =>
          obtain ⟨child, hchild, hfound⟩ := exists_mem_of_at?_cons h
          obtain ⟨rfl, rfl⟩ := Prod.mk.inj (List.mem_singleton.mp hchild)
          obtain ⟨below, rfl, hbelow⟩ := ih hfound
          exact ⟨below, rfl, hbelow⟩

/-! ## Faces -/

/-- What is seen of a node by itself: a directory shows none of its entries. -/
def face : DiskNode → DiskNode
  | .directory _ => .directory []
  | node => node

theorem face_eq_directory_iff {node : DiskNode} :
    node.face = .directory [] ↔ ∃ entries, node = .directory entries := by
  cases node <;> simp [face]

theorem face_eq_file_iff {node : DiskNode} {content : Bytes} :
    node.face = .file content ↔ node = .file content := by
  cases node <;> simp [face]

theorem face_eq_link_iff {node : DiskNode} {target : Path} :
    node.face = .link target ↔ node = .link target := by
  cases node <;> simp [face]

theorem isDirectory_face (node : DiskNode) : node.face.isDirectory = node.isDirectory := by
  cases node <;> rfl

/-- A node without entries is seen as a whole. -/
theorem at?_of_face_eq {node : DiskNode} (h : node.face = node) (name : Bytes) (rest : Place) :
    node.at? (name :: rest) = none := by
  cases node with
  | file content => rfl
  | link target => rfl
  | directory entries =>
      obtain rfl : [] = entries := (DiskNode.directory.inj h)
      rfl

end DiskNode

namespace Disk

open DiskNode

/-- What is seen at a place. -/
def faceAt? (disk : Disk) (place : Place) : Option DiskNode :=
  (disk.at? place).map face

/-- A directory is seen at a place. -/
def HasDirectory (disk : Disk) (place : Place) : Prop :=
  disk.faceAt? place = some (.directory [])

/-- A file tree in which the working directory exists. -/
structure IsTree (disk : Disk) : Prop where
  top : disk.top.IsTree
  here : disk.HasDirectory disk.here

theorem hasDirectory_iff {disk : Disk} {place : Place} :
    disk.HasDirectory place ↔ ∃ entries, disk.at? place = some (.directory entries) := by
  rw [HasDirectory, faceAt?, Option.map_eq_some_iff]
  constructor
  · rintro ⟨node, hnode, hface⟩
    obtain ⟨entries, rfl⟩ := face_eq_directory_iff.mp hface
    exact ⟨entries, hnode⟩
  · rintro ⟨entries, hentries⟩
    exact ⟨_, hentries, rfl⟩

theorem faceAt?_eq_none_iff {disk : Disk} {place : Place} :
    disk.faceAt? place = none ↔ disk.at? place = none :=
  Option.map_eq_none_iff

theorem faceAt?_eq_some_file_iff {disk : Disk} {place : Place} {content : Bytes} :
    disk.faceAt? place = some (.file content) ↔ disk.at? place = some (.file content) := by
  simp [faceAt?, face_eq_file_iff]

theorem faceAt?_eq_some_link_iff {disk : Disk} {place : Place} {target : Path} :
    disk.faceAt? place = some (.link target) ↔ disk.at? place = some (.link target) := by
  simp [faceAt?, face_eq_link_iff]

/-- Above everything that is seen there are directories. -/
theorem hasDirectory_of_faceAt?_append {disk : Disk} {place : Place} {name : Bytes}
    {rest : Place} {face : DiskNode} (h : disk.faceAt? (place ++ name :: rest) = some face) :
    disk.HasDirectory place := by
  obtain ⟨node, hnode, -⟩ := Option.map_eq_some_iff.mp h
  exact hasDirectory_iff.mpr (exists_directory_of_at?_append hnode)

/-- Every place above a directory is one. -/
theorem HasDirectory.of_append {disk : Disk} {place rest : Place}
    (h : disk.HasDirectory (place ++ rest)) : disk.HasDirectory place := by
  cases rest with
  | nil => rwa [List.append_nil] at h
  | cons name rest => exact hasDirectory_of_faceAt?_append h

theorem HasDirectory.dropLast {disk : Disk} {place : Place} (h : disk.HasDirectory place) :
    disk.HasDirectory place.dropLast := by
  rcases List.eq_nil_or_concat place with rfl | ⟨above, name, rfl⟩
  · exact h
  · rw [List.concat_eq_append] at h ⊢
    rw [List.dropLast_concat]
    exact HasDirectory.of_append h

theorem IsTree.hasDirectory_nil {disk : Disk} (h : disk.IsTree) : disk.HasDirectory [] :=
  HasDirectory.of_append (List.nil_append disk.here ▸ h.here)

/-- A file is in a directory, under a name of its own. -/
theorem IsTree.exists_eq_concat_of_file {disk : Disk} (h : disk.IsTree) {place : Place}
    {content : Bytes} (hat : disk.at? place = some (.file content)) :
    ∃ directory name, place = directory ++ [name] ∧ disk.HasDirectory directory ∧ IsName name := by
  rcases List.eq_nil_or_concat place with rfl | ⟨directory, name, rfl⟩
  · obtain ⟨entries, hentries⟩ := hasDirectory_iff.mp h.hasDirectory_nil
    rw [hat] at hentries
    simp at hentries
  · rw [List.concat_eq_append] at hat ⊢
    exact ⟨directory, name, rfl, hasDirectory_iff.mpr (exists_directory_of_at?_append hat),
      h.top.isName hat name (by simp)⟩

/-- Putting a node without entries in a directory, where nothing or a file is, changes what
is seen at its place and nowhere else. -/
theorem faceAt?_put {disk : Disk} {directory : Place} {name : Bytes} {new : DiskNode}
    (hdirectory : disk.HasDirectory directory)
    (hold : ∀ old, disk.at? (directory ++ [name]) = some old → old.face = old)
    (hnew : new.face = new) (place : Place) :
    (disk.put (directory ++ [name]) new).faceAt? place =
      if place = directory ++ [name] then some new else disk.faceAt? place := by
  obtain ⟨top, here⟩ := disk
  obtain ⟨entries, hentries⟩ := hasDirectory_iff.mp hdirectory
  change ((top.put (directory ++ [name]) new).at? place).map face =
    if place = directory ++ [name] then some new else (top.at? place).map face
  change top.at? directory = _ at hentries
  change ∀ old, top.at? (directory ++ [name]) = some old → old.face = old at hold
  clear hdirectory
  induction directory generalizing top place with
  | nil =>
      obtain rfl : top = .directory entries := by simpa using hentries
      cases place with
      | nil => rfl
      | cons other rest =>
          rw [List.nil_append, DiskNode.put, at?_directory_cons, child?_putEntry,
            at?_directory_cons]
          by_cases hother : other = name
          · subst hother
            cases rest with
            | nil => simp [hnew]
            | cons next rest =>
                -- Neither the old node nor the new one has anything below it.
                have hnone : (child? other entries).bind (·.at? (next :: rest)) = none := by
                  rw [Option.bind_eq_none_iff]
                  intro old hchild
                  refine at?_of_face_eq (hold old ?_) next rest
                  rw [List.nil_append, at?_directory_cons, hchild]
                  exact at?_nil old
                simp [hnone, at?_of_face_eq hnew]
          · simp [hother]
  | cons first above ih =>
      cases top with
      | file content => contradiction
      | link target => contradiction
      | directory all =>
          rw [at?_directory_cons, Option.bind_eq_some_iff] at hentries
          obtain ⟨child, hchild, hentries⟩ := hentries
          have hput : (DiskNode.directory all).put (first :: above ++ [name]) new =
              .directory (putEntry first (child.put (above ++ [name]) new) all) := by
            cases above <;> simp [DiskNode.put, hchild]
          rw [hput]
          cases place with
          | nil => rfl
          | cons other rest =>
              rw [at?_directory_cons, at?_directory_cons, child?_putEntry]
              by_cases hother : other = first
              · subst hother
                have hinner := ih rest child hentries (fun old hat => hold old (by
                  rw [List.cons_append, at?_directory_cons, hchild]
                  exact hat))
                simp only [if_true, Option.bind_some, hinner, hchild, List.cons_append,
                  List.cons.injEq, true_and]
              · simp [hother]

end Disk

end JavadocNames
