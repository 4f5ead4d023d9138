import JavadocNames.Proofs.Disk.Leads

/-!
# Resolving the paths of entries

What a path leads to is decided by what is seen on its way.  A path of an entry below a
directory leads to that entry, through the link that it may be; so a directory is found to
be one as long as its path is not too long, and a file is not.
-/

namespace JavadocNames

namespace Disk

variable {disk other : Disk} {path : Path}

/-! ## What is seen on the way -/

theorem start_of_here_eq (hhere : other.here = disk.here) : other.start path = disk.start path := by
  rw [start, start, hhere]

theorem IsTree.hasDirectory_start (htree : disk.IsTree) (path : Path) :
    disk.HasDirectory (disk.start path) := by
  rw [start]
  split
  · exact htree.hasDirectory_nil
  · exact htree.here

/-- A path that does not fail at once is resolved from where it starts. -/
theorem resolve_eq_follow (last : Bool) (hnul : 0 ∉ path.bytes) (hne : path.bytes ≠ [])
    (hlength : path.bytes.length < pathLimit) :
    disk.resolve last path =
      disk.follow last linkLimit (disk.start path) path.endsWithSlash path.pieces := by
  rw [resolve, if_neg hnul, if_neg hne, if_neg (Nat.not_le.mpr hlength)]
  rfl

theorem follow_replicate_dot (disk : Disk) (last : Bool) (links : Nat) (place : Place)
    (slashed : Bool) (steps : Nat) (rest : List Bytes) :
    disk.follow last links place slashed (List.replicate steps [Path.dot] ++ rest) =
      disk.follow last links place slashed rest := by
  induction steps with
  | zero => rfl
  | succ steps ih => rw [List.replicate_succ, List.cons_append, follow_dot, ih]

/-- Steps that stay make no difference until the path is too long for them. -/
theorem resolve_dotted (last : Bool) (steps : Nat) (hrelative : path.isAbsolute = false)
    (hne : path.bytes ≠ []) (hlength : (path.dotted steps).bytes.length < pathLimit) :
    disk.resolve last (path.dotted steps) = disk.resolve last path := by
  have hshort : path.bytes.length < pathLimit := by
    rw [Path.length_dotted] at hlength
    omega
  have hnul : 0 ∈ (path.dotted steps).bytes ↔ 0 ∈ path.bytes := Path.nul_mem_dotted_iff steps
  by_cases hzero : 0 ∈ path.bytes
  · rw [resolve, resolve, if_pos hzero, if_pos (hnul.mpr hzero)]
  · rw [resolve_eq_follow last hzero hne hshort,
      resolve_eq_follow last (mt hnul.mp hzero) (Path.dotted_ne_nil hne steps) hlength,
      Path.pieces_dotted, follow_replicate_dot, Path.endsWithSlash_dotted hne, start, start,
      hrelative, Path.isAbsolute_dotted hrelative]

theorem leads_of_resolve {last : Bool} {target : Target} (h : disk.resolve last path = .ok target) :
    0 ∉ path.bytes ∧ path.bytes ≠ [] ∧ path.bytes.length < pathLimit ∧
      Leads disk last linkLimit (disk.start path) path.endsWithSlash path.pieces target := by
  rw [resolve] at h
  split at h
  · contradiction
  split at h
  · contradiction
  split at h
  · contradiction
  · exact ⟨‹_›, ‹_›, Nat.lt_of_not_le ‹_›, leads_of_follow h⟩

/-- Looking for a link itself makes no difference unless there is one in the last place. -/
theorem resolve_false_cases (disk : Disk) (path : Path) :
    disk.resolve false path = disk.resolve true path ∨
      ∃ place target, disk.resolve false path =
        .ok (.entry place (.link target) path.endsWithSlash) := by
  rw [resolve, resolve]
  split
  · exact .inl rfl
  split
  · exact .inl rfl
  split
  · exact .inl rfl
  · exact follow_false_cases

/-- Results that are mapped to the same fail in the same way, or have the same image. -/
theorem eq_or_of_map_eq_map {α β : Type} {f : α → β} {a b : Except DiskError α}
    (h : a.map f = b.map f) :
    (∃ e, a = .error e ∧ b = .error e) ∨ ∃ x y, a = .ok x ∧ b = .ok y ∧ f x = f y := by
  cases a with
  | error e =>
      cases b with
      | error e' => exact .inl ⟨e, rfl, congrArg _ (Except.error.inj h).symm⟩
      | ok y => contradiction
  | ok x =>
      cases b with
      | error e' => contradiction
      | ok y => exact .inr ⟨x, y, rfl, rfl, Except.ok.inj h⟩

/-- A path leads to a node at a place on its way; a slash at its end asks for a directory. -/
theorem status_eq_ok_iff {node : DiskNode} :
    disk.status path = .ok node ↔ ∃ place slashed,
      disk.resolve true path = .ok (.entry place node slashed) ∧
        (slashed = true → node.isDirectory = true) := by
  rw [status]
  constructor
  · intro h
    cases hresolve : disk.resolve true path with
    | error e =>
        rw [hresolve] at h
        contradiction
    | ok target =>
        rw [hresolve] at h
        cases target with
        | free => contradiction
        | entry place found slashed =>
            change (if _ then _ else _) = _ at h
            split at h
            case isTrue => contradiction
            case isFalse hslashed =>
                obtain rfl := Except.ok.inj h
                exact ⟨place, slashed, rfl, by simpa using hslashed⟩
  · rintro ⟨place, slashed, hresolve, hslashed⟩
    rw [hresolve]
    change (if _ then _ else _) = _
    rw [if_neg (by simpa using hslashed)]

/-- The places that resolving a path looks at: none when the path is too long. -/
def visited (disk : Disk) (path : Path) : List Place :=
  if path.bytes.length < pathLimit then disk.way path else []

theorem mem_way_of_mem_visited {q : Place} (h : q ∈ disk.visited path) : q ∈ disk.way path := by
  rw [visited] at h
  split at h
  · exact h
  · contradiction

theorem visited_of_resolve_ok {last : Bool} {target : Target}
    (h : disk.resolve last path = .ok target) : disk.visited path = disk.way path :=
  if_pos (leads_of_resolve h).2.2.1

/-- On disks that show the same shapes on its way, a path leads to the same place. -/
theorem resolve_of_shapeAt?_eq (path : Path) (last : Bool) (hhere : other.here = disk.here)
    (h : ∀ q ∈ disk.visited path, disk.shapeAt? q = other.shapeAt? q) :
    (other.resolve last path).map Target.shape = (disk.resolve last path).map Target.shape := by
  rw [resolve, resolve]
  split
  · rfl
  split
  · rfl
  split
  · rfl
  case isFalse hlength =>
      rw [visited, if_pos (Nat.lt_of_not_le hlength)] at h
      rw [hhere]
      exact follow_of_shapeAt?_eq fun q hq =>
        h q (mem_wayFrom_mono (fun _ => rfl) (Nat.le_refl _) hq)

/-- On disks that look the same on its way, a path leads to the same place. -/
theorem resolve_of_faceAt?_eq (path : Path) (last : Bool) (hhere : other.here = disk.here)
    (h : ∀ q ∈ disk.visited path, disk.faceAt? q = other.faceAt? q) :
    (other.resolve last path).map Target.shape = (disk.resolve last path).map Target.shape :=
  resolve_of_shapeAt?_eq path last hhere fun q hq => shapeAt?_eq_of_faceAt?_eq (h q hq)

/-- On disks that show the same shapes on its way, and the same where it leads, a path leads to
nodes that look the same. -/
theorem status_of_shapeAt?_eq (hhere : other.here = disk.here)
    (h : ∀ q ∈ disk.visited path, disk.shapeAt? q = other.shapeAt? q)
    (hend : ∀ place node slashed, disk.resolve true path = .ok (.entry place node slashed) →
      disk.faceAt? place = other.faceAt? place) :
    (other.status path).map DiskNode.face = (disk.status path).map DiskNode.face := by
  have hshape := resolve_of_shapeAt?_eq path true hhere h
  rw [status, status]
  rcases eq_or_of_map_eq_map hshape with
    ⟨e, hother, hdisk⟩ | ⟨target', target, hother, hdisk, htarget⟩
  · rw [hother, hdisk]
  · rw [hother, hdisk]
    cases target with
    | free directory name slashed =>
        cases target' with
        | free => rfl
        | entry => contradiction
    | entry place node slashed =>
        cases target' with
        | free => contradiction
        | entry place' node' slashed' =>
            obtain ⟨rfl, -, rfl⟩ := Target.entry.inj htarget
            -- The nodes are those at the place, which shows the same on both disks.
            obtain ⟨hnode, -⟩ := (leads_of_resolve hdisk).2.2.2.entry
            obtain ⟨hnode', -⟩ := (leads_of_resolve hother).2.2.2.entry
            have hfaces := hend place' node slashed' hdisk
            rw [faceAt?, faceAt?, hnode, hnode', Option.map_some, Option.map_some] at hfaces
            have hface := Option.some.inj hfaces
            have hdirectory : node'.isDirectory = node.isDirectory := by
              rw [← DiskNode.isDirectory_face, ← hface, DiskNode.isDirectory_face]
            change (if _ then _ else _ : Except DiskError DiskNode).map DiskNode.face =
              (if _ then _ else _ : Except DiskError DiskNode).map DiskNode.face
            rw [hdirectory]
            split
            · rfl
            · simp only [Except.map, hface]

/-- On disks that look the same on its way, a path leads to nodes that look the same. -/
theorem status_of_faceAt?_eq (hhere : other.here = disk.here)
    (h : ∀ q ∈ disk.visited path, disk.faceAt? q = other.faceAt? q) :
    (other.status path).map DiskNode.face = (disk.status path).map DiskNode.face := by
  refine status_of_shapeAt?_eq hhere (fun q hq => shapeAt?_eq_of_faceAt?_eq (h q hq))
    fun place node slashed hdisk => h place ?_
  rw [visited_of_resolve_ok hdisk]
  exact (leads_of_resolve hdisk).2.2.2.entry.2

/-- A path that leads to a node leads to the same place on a disk that looks the same on its
way. -/
theorem exists_status_of_faceAt?_eq (hhere : other.here = disk.here)
    (h : ∀ q ∈ disk.visited path, disk.faceAt? q = other.faceAt? q) {node : DiskNode}
    (hstatus : disk.status path = .ok node) :
    ∃ place node', disk.at? place = some node ∧ other.at? place = some node' ∧
      other.status path = .ok node' := by
  have hshape := resolve_of_faceAt?_eq path true hhere h
  obtain ⟨place, slashed, hresolve, -⟩ := status_eq_ok_iff.mp hstatus
  rcases eq_or_of_map_eq_map (status_of_faceAt?_eq hhere h) with
    ⟨e, -, hdisk⟩ | ⟨node', _, hother, -, -⟩
  · rw [hstatus] at hdisk
    contradiction
  · obtain ⟨place', slashed', hresolve', -⟩ := status_eq_ok_iff.mp hother
    rw [hresolve, hresolve'] at hshape
    obtain ⟨rfl, -, -⟩ := Target.entry.inj (Except.ok.inj hshape)
    exact ⟨place', node', (leads_of_resolve hresolve).2.2.2.entry.1,
      (leads_of_resolve hresolve').2.2.2.entry.1, hother⟩

theorem isDirectory_of_faceAt?_eq (hhere : other.here = disk.here)
    (h : ∀ q ∈ disk.visited path, disk.faceAt? q = other.faceAt? q) :
    other.isDirectory path = disk.isDirectory path := by
  rw [isDirectory, isDirectory]
  rcases eq_or_of_map_eq_map (status_of_faceAt?_eq hhere h) with
    ⟨e, hother, hdisk⟩ | ⟨node', node, hother, hdisk, hface⟩
  · rw [hother, hdisk]
  · rw [hother, hdisk]
    dsimp only
    rw [← DiskNode.isDirectory_face, hface, DiskNode.isDirectory_face]

/-- What is read at a path is decided by how the node looks that it leads to. -/
theorem read_of_status_eq
    (h : (other.status path).map DiskNode.face = (disk.status path).map DiskNode.face) :
    other.read path = disk.read path := by
  rw [read, read]
  rcases eq_or_of_map_eq_map h with ⟨e, hother, hdisk⟩ | ⟨node', node, hother, hdisk, hface⟩
  · rw [hother, hdisk]
  · rw [hother, hdisk]
    cases node with
    | file content => rw [DiskNode.face_eq_file_iff.mp hface]
    | link target => rw [DiskNode.face_eq_link_iff.mp hface]
    | directory entries =>
        obtain ⟨entries', rfl⟩ := DiskNode.face_eq_directory_iff.mp hface
        rfl

theorem read_of_faceAt?_eq (hhere : other.here = disk.here)
    (h : ∀ q ∈ disk.visited path, disk.faceAt? q = other.faceAt? q) :
    other.read path = disk.read path :=
  read_of_status_eq (status_of_faceAt?_eq hhere h)

/-! ## Below a directory -/

/-- A path leads to the directory at a place. -/
def LeadsTo (disk : Disk) (path : Path) (place : Place) : Prop :=
  ∃ entries slashed, disk.resolve true path = .ok (.entry place (.directory entries) slashed)

theorem status_eq_directory_iff {entries : List (Bytes × DiskNode)} :
    disk.status path = .ok (.directory entries) ↔
      ∃ place, disk.LeadsTo path place ∧ disk.at? place = some (.directory entries) := by
  rw [status_eq_ok_iff]
  constructor
  · rintro ⟨place, slashed, hresolve, -⟩
    exact ⟨place, ⟨entries, slashed, hresolve⟩, (leads_of_resolve hresolve).2.2.2.entry.1⟩
  · rintro ⟨place, ⟨entries', slashed, hresolve⟩, hat⟩
    obtain ⟨hnode, -⟩ := (leads_of_resolve hresolve).2.2.2.entry
    obtain rfl := DiskNode.directory.inj (Option.some.inj (hnode.symm.trans hat))
    exact ⟨place, slashed, hresolve, fun _ => rfl⟩

theorem isDirectory_iff : disk.isDirectory path = true ↔ ∃ place, disk.LeadsTo path place := by
  constructor
  · intro h
    rw [isDirectory] at h
    split at h
    · rename_i node hstatus
      cases node with
      | directory entries =>
          obtain ⟨place, hplace, -⟩ := status_eq_directory_iff.mp hstatus
          exact ⟨place, hplace⟩
      | file => contradiction
      | link => contradiction
    · contradiction
  · rintro ⟨place, entries, slashed, hresolve⟩
    obtain ⟨hnode, -⟩ := (leads_of_resolve hresolve).2.2.2.entry
    rw [isDirectory, status_eq_directory_iff.mpr ⟨place, ⟨_, _, hresolve⟩, hnode⟩]
    rfl

namespace LeadsTo

variable {root : Path} {place : Place} (h : disk.LeadsTo root place)

include h

theorem hasDirectory : disk.HasDirectory place := by
  obtain ⟨entries, slashed, hresolve⟩ := h
  exact hasDirectory_iff.mpr ⟨entries, (leads_of_resolve hresolve).2.2.2.entry.1⟩

theorem bytes_ne_nil : root.bytes ≠ [] := by
  obtain ⟨entries, slashed, hresolve⟩ := h
  exact (leads_of_resolve hresolve).2.1

theorem passage?_ne_none {q : Place} (hq : q ∈ disk.way root) : disk.passage? q ≠ none := by
  obtain ⟨entries, slashed, hresolve⟩ := h
  exact (leads_of_resolve hresolve).2.2.2.passage?_ne_none hq

variable {above : Place} {name : Bytes} (hnames : ∀ other ∈ above, IsName other)
variable (habove : disk.HasDirectory (place ++ above)) (hname : IsName name)

include hnames habove hname

/-- The path of an entry goes on from the directory in which the entry is. -/
theorem exists_goesOn_entryPath :
    ∃ left ≤ linkLimit, ∀ last,
      GoesOn disk last linkLimit (disk.start (entryPath root (above ++ [name])))
        (entryPath root (above ++ [name])).pieces left (place ++ above) [name] ∧
      ((entryPath root (above ++ [name])).bytes.length < pathLimit →
        disk.resolve last (entryPath root (above ++ [name])) =
          disk.follow last left (place ++ above) false [name]) := by
  obtain ⟨entries, slashed, hresolve⟩ := h
  obtain ⟨hnul, hne, -, hleads⟩ := leads_of_resolve hresolve
  obtain ⟨left, hleft, hgoesOn⟩ := hleads.exists_goesOn
  have hall : ∀ other ∈ above ++ [name], IsName other := by
    intro other hother
    rcases List.mem_append.mp hother with hmem | hmem
    · exact hnames other hmem
    · exact List.mem_singleton.mp hmem ▸ hname
  have hstart : disk.start (entryPath root (above ++ [name])) = disk.start root := by
    rw [start, start, isAbsolute_entryPath hne hall]
  have hslash : (entryPath root (above ++ [name])).endsWithSlash = false := by
    rw [entryPath_concat]
    exact Path.endsWithSlash_join (entryPath_ne_nil hne hnames) hname
  refine ⟨left, hleft, fun last => ?_⟩
  have hgoes : GoesOn disk last linkLimit (disk.start (entryPath root (above ++ [name])))
      (entryPath root (above ++ [name])).pieces left (place ++ above) [name] := by
    rw [hstart, pieces_entryPath hne hall]
    exact (hgoesOn last (above ++ [name]) (by simp)).trans (goesOn_down hnames habove [name])
  refine ⟨hgoes, fun hlength => ?_⟩
  rw [resolve_eq_follow last (nul_not_mem_entryPath hne hnul hall) (entryPath_ne_nil hne hall)
    hlength, hslash]
  exact hgoes.follow_eq false

theorem isDirectory_entryPath_of_directory {entries : List (Bytes × DiskNode)}
    (hat : disk.at? (place ++ above ++ [name]) = some (.directory entries))
    (hlength : (entryPath root (above ++ [name])).bytes.length < pathLimit) :
    disk.isDirectory (entryPath root (above ++ [name])) = true := by
  obtain ⟨left, -, hleft⟩ := h.exists_goesOn_entryPath hnames habove hname
  obtain ⟨-, hresolve⟩ := hleft true
  rw [isDirectory_iff]
  refine ⟨place ++ above ++ [name], entries, false, ?_⟩
  rw [hresolve hlength, follow_sought _ _ _ _ _ _ hname.isSought, hat]
  dsimp only
  rw [follow, hat]

theorem isDirectory_entryPath_of_file {content : Bytes}
    (hat : disk.at? (place ++ above ++ [name]) = some (.file content)) :
    disk.isDirectory (entryPath root (above ++ [name])) = false := by
  obtain ⟨left, -, hleft⟩ := h.exists_goesOn_entryPath hnames habove hname
  obtain ⟨-, hresolve⟩ := hleft true
  rw [Bool.eq_false_iff]
  intro hdirectory
  obtain ⟨other, entries, slashed, hother⟩ := isDirectory_iff.mp hdirectory
  have hlength := (leads_of_resolve hother).2.2.1
  rw [hresolve hlength, follow_sought _ _ _ _ _ _ hname.isSought, hat] at hother
  simp at hother

/-- On the way of an entry there are directories and links, and then what is on the way of
the entry alone. -/
theorem passage?_or_mem_of_mem_way {q : Place}
    (hq : q ∈ disk.way (entryPath root (above ++ [name]))) :
    disk.passage? q ≠ none ∨ q ∈ disk.wayFrom true linkLimit (place ++ above) [name] := by
  obtain ⟨left, hle, hleft⟩ := h.exists_goesOn_entryPath hnames habove hname
  obtain ⟨hgoes, -⟩ := hleft true
  exact (hgoes.passage?_or_mem q hq).imp_right (mem_wayFrom_mono id hle)

end LeadsTo

end Disk

end JavadocNames
