import JavadocNames.Disk.Change
import JavadocNames.Proofs.Disk.Entries

/-!
# What making files and directories changes

Making a file or a directory changes what is seen at one place: where a name was free, or where
a file is emptied.  Whatever else is on the disk stays, so a disk on which directories are made
shows all that it showed before, and directories where nothing was.
-/

namespace JavadocNames

namespace Disk

variable {disk made : Disk} {path : Path}

/-! ## One place -/

/-- A disk after a node has been put at a place: elsewhere the same is seen as before. -/
structure Puts (disk : Disk) (place : Place) (node : DiskNode) (made : Disk) : Prop where
  isTree : made.IsTree
  here_eq : made.here = disk.here
  faceAt?_self : made.faceAt? place = some node
  faceAt?_of_ne : ∀ q, q ≠ place → made.faceAt? q = disk.faceAt? q

/-- A node without entries can be put in a directory under a name that is free or that of a
file. -/
theorem puts_put (htree : disk.IsTree) {directory : Place} {name : Bytes} {node : DiskNode}
    (hdirectory : disk.HasDirectory directory) (hname : IsName name)
    (hold : ∀ old, disk.at? (directory ++ [name]) = some old → ∃ content, old = .file content)
    (hface : node.face = node) (hnode : node.IsTree) :
    disk.Puts (directory ++ [name]) node (disk.put (directory ++ [name]) node) := by
  have hfaces : ∀ q, (disk.put (directory ++ [name]) node).faceAt? q =
      if q = directory ++ [name] then some node else disk.faceAt? q :=
    faceAt?_put hdirectory (fun old hat => by
      obtain ⟨content, rfl⟩ := hold old hat
      rfl) hface
  have hnames : ∀ other ∈ directory ++ [name], IsName other := by
    obtain ⟨entries, hentries⟩ := hasDirectory_iff.mp hdirectory
    rw [List.forall_mem_append, List.forall_mem_singleton]
    exact ⟨htree.top.isName hentries, hname⟩
  have hhere : disk.here ≠ directory ++ [name] := by
    intro heq
    obtain ⟨entries, hentries⟩ := hasDirectory_iff.mp htree.here
    obtain ⟨content, hfile⟩ := hold _ (heq ▸ hentries)
    contradiction
  refine ⟨⟨htree.top.put hnode _ hnames, ?_⟩, rfl, ?_, fun q hq => ?_⟩
  · rw [HasDirectory, hfaces]
    exact (if_neg hhere).trans htree.here
  · rw [hfaces, if_pos rfl]
  · rw [hfaces, if_neg hq]

namespace Puts

variable {place : Place} {node : DiskNode} (h : disk.Puts place node made)

include h

/-- What looks the same on the disk before, is the same where only shapes matter. -/
theorem shapeAt?_eq (hplace : disk.shapeAt? place = made.shapeAt? place) (q : Place) :
    disk.shapeAt? q = made.shapeAt? q := by
  by_cases hq : q = place
  · exact hq ▸ hplace
  · exact shapeAt?_eq_of_faceAt?_eq (h.faceAt?_of_ne q hq).symm

theorem at?_eq_none_iff {q : Place} (hq : q ≠ place) : made.at? q = none ↔ disk.at? q = none := by
  rw [← faceAt?_eq_none_iff, ← faceAt?_eq_none_iff, h.faceAt?_of_ne q hq]

/-- Putting something at one place of a disk goes together with putting something at another. -/
theorem comm {place' : Place} {node' : DiskNode} {disk' made' : Disk}
    (hdisk : disk.Puts place' node' disk') (hmade : made.Puts place' node' made')
    (hne : place ≠ place') : disk'.Puts place node made' where
  isTree := hmade.isTree
  here_eq := by rw [hmade.here_eq, h.here_eq, hdisk.here_eq]
  faceAt?_self := by rw [hmade.faceAt?_of_ne place hne, h.faceAt?_self]
  faceAt?_of_ne q hq := by
    by_cases hplace : q = place'
    · rw [hplace, hmade.faceAt?_self, hdisk.faceAt?_self]
    · rw [hmade.faceAt?_of_ne q hplace, hdisk.faceAt?_of_ne q hplace, h.faceAt?_of_ne q hq]

/-- A path that leads to a free name leads to what has been put there. -/
theorem follow_of_free {last : Bool} {links : Nat} {start : Place} {slashed slashed' : Bool}
    {pieces : List Bytes} {directory : Place} {name : Bytes}
    (hleads : Leads disk last links start slashed pieces (.free directory name slashed'))
    (hplace : place = directory ++ [name]) (hfree : disk.at? place = none)
    (hlink : ∀ target, node ≠ .link target) :
    ∃ found, made.follow last links start slashed pieces = .ok (.entry place found slashed') := by
  generalize htarget : Target.free directory name slashed' = target at hleads
  have hother : ∀ {q : Place} {found : DiskNode}, disk.at? q = some found →
      made.faceAt? q = some found.face := by
    intro q found hq
    have hne : q ≠ place := by
      rintro rfl
      rw [hfree] at hq
      contradiction
    rw [h.faceAt?_of_ne q hne, faceAt?, hq, Option.map_some]
  induction hleads with
  | here => contradiction
  | dot _ ih =>
      rw [follow_dot]
      exact ih htarget
  | dots _ ih =>
      rw [follow_dots]
      exact ih htarget
  | free hpiece hnode =>
      obtain ⟨rfl, rfl, rfl⟩ := Target.free.inj htarget
      rw [follow_sought _ _ _ _ _ _ hpiece, ← hplace]
      obtain ⟨found, hfound, hface⟩ := Option.map_eq_some_iff.mp h.faceAt?_self
      rw [hfound]
      cases found with
      | file content => exact ⟨_, rfl⟩
      | link target => exact absurd hface.symm (hlink target)
      | directory entries => exact ⟨_, by rw [follow, hfound]⟩
  | file => contradiction
  | directory hpiece hnode _ ih =>
      obtain ⟨entries', hmade⟩ := hasDirectory_iff.mp (hother hnode)
      rw [follow_sought _ _ _ _ _ _ hpiece, hmade]
      exact ih htarget
  | stay => contradiction
  | link hpiece hnode hgo hpath _ ih =>
      rw [follow_sought _ _ _ _ _ _ hpiece, faceAt?_eq_some_link_iff.mp (hother hnode)]
      simp only [hgo, hpath, if_false, Bool.false_eq_true]
      exact ih htarget

end Puts

/-! ## Making files -/

/-- A free name that a path leads to can be given to a file or a directory. -/
theorem free_of_resolve (htree : disk.IsTree) {last : Bool} {directory : Place} {name : Bytes}
    {slashed : Bool} (h : disk.resolve last path = .ok (.free directory name slashed)) :
    disk.HasDirectory directory ∧ IsName name ∧ disk.at? (directory ++ [name]) = none ∧
      directory ++ [name] ∈ disk.wayFrom last linkLimit (disk.start path) path.pieces := by
  obtain ⟨hnul, -, -, hleads⟩ := leads_of_resolve h
  refine hleads.free_spec htree (htree.hasDirectory_start path) fun piece hpiece => ?_
  obtain ⟨hne, hslash, hbytes⟩ := Path.of_mem_pieces hpiece
  exact ⟨hne, hslash, fun hzero => hnul (hbytes 0 hzero)⟩

/-- After something has been put under the free name that a path leads to, the path leads to
it. -/
theorem Puts.resolve_of_free {place directory : Place} {name : Bytes} {node : DiskNode}
    {last slashed : Bool} (h : disk.Puts place node made)
    (hresolve : disk.resolve last path = .ok (.free directory name slashed))
    (hplace : place = directory ++ [name]) (hfree : disk.at? place = none)
    (hlink : ∀ target, node ≠ .link target) :
    ∃ found, made.resolve last path = .ok (.entry place found slashed) := by
  obtain ⟨hnul, hne, hlength, hleads⟩ := leads_of_resolve hresolve
  rw [resolve_eq_follow last hnul hne hlength, start_of_here_eq h.here_eq]
  exact h.follow_of_free hleads hplace hfree hlink

/-- A file can be given another content. -/
theorem puts_setContent (htree : disk.IsTree) {place : Place} {old : Bytes}
    (hat : disk.at? place = some (.file old)) (content : Bytes) :
    disk.Puts place (.file content) (disk.setContent place content) := by
  obtain ⟨directory, name, rfl, hdirectory, hname⟩ := htree.exists_eq_concat_of_file hat
  refine puts_put htree hdirectory hname (fun found hfound => ?_) rfl (.file content)
  exact ⟨old, Option.some.inj (hfound.symm.trans hat)⟩

/-- A disk on which a file has another content shows the same shapes. -/
theorem Puts.shapeAt?_eq_of_file {place : Place} {old content : Bytes}
    (h : disk.Puts place (.file content) made) (hat : disk.at? place = some (.file old))
    (q : Place) : disk.shapeAt? q = made.shapeAt? q := by
  refine h.shapeAt?_eq ?_ q
  rw [shapeAt?, shapeAt?, hat, faceAt?_eq_some_file_iff.mp h.faceAt?_self]
  rfl

/-- A path leads to the same place on a disk that shows the same shapes. -/
theorem exists_resolve_of_shapeAt?_eq {other : Disk} {place : Place} {node : DiskNode}
    {slashed : Bool} (hhere : other.here = disk.here)
    (h : ∀ q, disk.shapeAt? q = other.shapeAt? q)
    (hresolve : disk.resolve true path = .ok (.entry place node slashed)) :
    ∃ found, other.resolve true path = .ok (.entry place found slashed) := by
  have hshape := resolve_of_shapeAt?_eq path true hhere fun q _ => h q
  rw [hresolve] at hshape
  rcases eq_or_of_map_eq_map hshape with ⟨e, -, hdisk⟩ | ⟨target, _, htarget, hdisk, heq⟩
  · contradiction
  · obtain rfl := Except.ok.inj hdisk
    cases target with
    | free => contradiction
    | entry place found slashed' =>
        obtain ⟨rfl, -, rfl⟩ := Target.entry.inj heq
        exact ⟨found, htarget⟩

/-- A path leads to the same place after another content has been given to a file. -/
theorem Puts.resolve_of_file {place place' : Place} {old content : Bytes} {node : DiskNode}
    {slashed : Bool} (h : disk.Puts place (.file content) made)
    (hat : disk.at? place = some (.file old))
    (hresolve : disk.resolve true path = .ok (.entry place' node slashed)) :
    ∃ found, made.resolve true path = .ok (.entry place' found slashed) :=
  exists_resolve_of_shapeAt?_eq h.here_eq (h.shapeAt?_eq_of_file hat) hresolve

/-- A file is made under a free name, or one that exists is emptied. -/
theorem createFile_cases (htree : disk.IsTree) {place : Place}
    (h : disk.createFile path = .ok (place, made)) :
    made = disk.put place (.file []) ∧
      ((∃ content, disk.resolve true path = .ok (.entry place (.file content) false)) ∨
        ∃ directory name, place = directory ++ [name] ∧
          disk.resolve true path = .ok (.free directory name false)) := by
  -- A slash at the end would be refused.
  have hslash : ∀ target, disk.resolve (!path.endsWithSlash) path = .ok target →
      target.isSlashed = false → disk.resolve true path = .ok target := by
    intro target htarget hslashed
    have hleads := (leads_of_resolve htarget).2.2.2
    have hends : path.endsWithSlash = false :=
      Bool.eq_false_iff.mpr fun hends => by simp [hleads.isSlashed hends] at hslashed
    rwa [hends, Bool.not_false] at htarget
  rw [createFile] at h
  split at h
  case h_1 => contradiction
  case h_2 place' node slashed hresolve =>
      split at h
      case isTrue => contradiction
      case isFalse hnot =>
          obtain ⟨rfl, rfl⟩ := Prod.mk.inj (Except.ok.inj h)
          obtain ⟨hnode, rfl⟩ : node.isDirectory = false ∧ slashed = false := by simpa using hnot
          replace hresolve := hslash _ hresolve rfl
          cases node with
          | file content => exact ⟨rfl, .inl ⟨content, hresolve⟩⟩
          | directory => contradiction
          | link target =>
              obtain ⟨-, -, -, hleads⟩ := leads_of_resolve hresolve
              exact (hleads.ne_link htree (htree.hasDirectory_start path)).elim
  case h_3 directory name slashed hresolve =>
      split at h
      case isTrue => contradiction
      case isFalse hnot =>
          obtain ⟨rfl, rfl⟩ := Prod.mk.inj (Except.ok.inj h)
          obtain rfl : slashed = false := by simpa using hnot
          exact ⟨rfl, .inr ⟨directory, name, rfl, hslash _ hresolve rfl⟩⟩

/-- The file that is made, or emptied, is at a place on the way of its path, where nothing or a
file was before. -/
theorem createFile_spec (htree : disk.IsTree) {place : Place}
    (h : disk.createFile path = .ok (place, made)) :
    disk.Puts place (.file []) made ∧ disk.passage? place = none ∧ place ∈ disk.way path ∧
      made.resolve true path = .ok (.entry place (.file []) false) := by
  have hmade : ∀ {made : Disk} {found : DiskNode}, disk.Puts place (.file []) made →
      made.resolve true path = .ok (.entry place found false) →
      made.resolve true path = .ok (.entry place (.file []) false) := by
    intro made found hputs hfound
    have hat := (leads_of_resolve hfound).2.2.2.entry.1
    rw [faceAt?_eq_some_file_iff.mp hputs.faceAt?_self] at hat
    rw [hfound, Option.some.inj hat]
  obtain ⟨rfl, ⟨content, hresolve⟩ | ⟨directory, name, rfl, hresolve⟩⟩ := createFile_cases htree h
  · obtain ⟨hat, hway⟩ := (leads_of_resolve hresolve).2.2.2.entry
    have hputs := puts_setContent htree hat []
    obtain ⟨found, hfound⟩ := hputs.resolve_of_file hat hresolve
    exact ⟨hputs, by rw [passage?, hat], hway, hmade hputs hfound⟩
  · obtain ⟨hdirectory, hname, hfree, hway⟩ := free_of_resolve htree hresolve
    have hputs := puts_put htree hdirectory hname (by simp [hfree]) rfl (.file [])
    obtain ⟨found, hfound⟩ := hputs.resolve_of_free hresolve rfl hfree (by simp)
    exact ⟨hputs, by rw [passage?, hfree], hway, hmade hputs hfound⟩

theorem visited_of_createFile_ok (htree : disk.IsTree) {place : Place}
    (h : disk.createFile path = .ok (place, made)) : disk.visited path = disk.way path := by
  obtain ⟨-, ⟨content, hresolve⟩ | ⟨directory, name, -, hresolve⟩⟩ := createFile_cases htree h
  · exact visited_of_resolve_ok hresolve
  · exact visited_of_resolve_ok hresolve

/-- A file that is new has the name at the end of its path, unless a link leads to it. -/
theorem getLast?_eq_of_createFile (htree : disk.IsTree) {place : Place}
    (h : disk.createFile path = .ok (place, made)) (hfree : disk.at? place = none)
    (hlinks : ∀ directory name target, disk.at? (directory ++ [name]) = some (.link target) →
      place ∉ disk.wayFrom true linkLimit directory [name]) :
    path.pieces.getLast? = place.getLast? := by
  rcases disk.resolve_false_cases path with hsame | ⟨place', target, hlink⟩
  · obtain ⟨-, ⟨content, hresolve⟩ | ⟨directory, name, rfl, hresolve⟩⟩ := createFile_cases htree h
    · obtain ⟨hat, -⟩ := (leads_of_resolve hresolve).2.2.2.entry
      rw [hfree] at hat
      contradiction
    · rw [List.getLast?_concat]
      exact (leads_of_resolve (hsame.trans hresolve)).2.2.2.getLast?_of_free
  · obtain ⟨-, hpassage, hway, -⟩ := createFile_spec htree h
    obtain ⟨-, -, -, hleads⟩ := leads_of_resolve hlink
    obtain ⟨hat, directory, name, left, hleft, rfl, hgoes⟩ :=
      hleads.exists_goesOn_link htree (htree.hasDirectory_start path)
    rcases hgoes.passage?_or_mem place hway with hnot | hmem
    · exact absurd hpassage hnot
    · exact absurd (mem_wayFrom_mono id hleft hmem) (hlinks directory name target hat)

theorem isDirectory_eq_of_shape_eq {node node' : DiskNode} (h : node'.shape = node.shape) :
    node'.isDirectory = node.isDirectory := by
  cases node <;> cases node' <;> first | rfl | contradiction

/-- On disks that look the same on its way, a path makes a file at the same place. -/
theorem createFile_of_faceAt?_eq {other : Disk} (hhere : other.here = disk.here)
    (h : ∀ q ∈ disk.visited path, disk.faceAt? q = other.faceAt? q) :
    (other.createFile path).map (·.1) = (disk.createFile path).map (·.1) := by
  have hshape := resolve_of_faceAt?_eq path (!path.endsWithSlash) hhere h
  rw [createFile, createFile]
  rcases eq_or_of_map_eq_map hshape with ⟨e, hother, hdisk⟩ | ⟨target', target, hother, hdisk, heq⟩
  · rw [hother, hdisk]
  · rw [hother, hdisk]
    cases target with
    | free directory name slashed =>
        cases target' with
        | entry => contradiction
        | free directory' name' slashed' =>
            obtain ⟨rfl, rfl, rfl⟩ := Target.free.inj heq
            dsimp only
            split <;> rfl
    | entry place node slashed =>
        cases target' with
        | free => contradiction
        | entry place' node' slashed' =>
            obtain ⟨rfl, hnode, rfl⟩ := Target.entry.inj heq
            dsimp only
            rw [isDirectory_eq_of_shape_eq hnode]
            split <;> rfl

/-! ## Growing -/

/-- A disk after some things have been made where nothing was: all that was seen before is seen
as it was, and what is new is as described. -/
structure Grows (disk : Disk) (fits : Place → DiskNode → Prop) (made : Disk) : Prop where
  isTree : made.IsTree
  here_eq : made.here = disk.here
  kept : ∀ q face, disk.faceAt? q = some face → made.faceAt? q = some face
  old_or_new : ∀ q face, made.faceAt? q = some face →
    disk.faceAt? q = some face ∨ disk.at? q = none ∧ fits q face

namespace Grows

variable {fits fits' : Place → DiskNode → Prop}

theorem refl (htree : disk.IsTree) : disk.Grows fits disk :=
  ⟨htree, rfl, fun _ _ h => h, fun _ _ h => .inl h⟩

/-- Nothing goes away. -/
theorem at?_eq_none (h : disk.Grows fits made) {q : Place} (hq : made.at? q = none) :
    disk.at? q = none := by
  cases hat : disk.at? q with
  | none => rfl
  | some node =>
      have hkept := h.kept q node.face (by rw [faceAt?, hat, Option.map_some])
      rw [faceAt?, hq] at hkept
      contradiction

theorem trans {other : Disk} (h : disk.Grows fits made) (h' : made.Grows fits other) :
    disk.Grows fits other where
  isTree := h'.isTree
  here_eq := h'.here_eq.trans h.here_eq
  kept := fun q face hq => h'.kept q face (h.kept q face hq)
  old_or_new := fun q face hq => by
    rcases h'.old_or_new q face hq with hold | ⟨hnone, hfits⟩
    · exact h.old_or_new q face hold
    · exact .inr ⟨h.at?_eq_none hnone, hfits⟩

theorem weaken (h : disk.Grows fits made) (hfits : ∀ q face, fits q face → fits' q face) :
    disk.Grows fits' made :=
  ⟨h.isTree, h.here_eq, h.kept, fun q face hq =>
    (h.old_or_new q face hq).imp_right fun hnew => ⟨hnew.1, hfits q face hnew.2⟩⟩

/-- What was there is seen as it was. -/
theorem faceAt?_eq (h : disk.Grows fits made) {q : Place} (hq : disk.at? q ≠ none) :
    disk.faceAt? q = made.faceAt? q := by
  obtain ⟨node, hnode⟩ := Option.ne_none_iff_exists'.mp hq
  have hface : disk.faceAt? q = some node.face := by rw [faceAt?, hnode, Option.map_some]
  rw [hface, h.kept q node.face hface]

/-- What is not new is seen as it was. -/
theorem faceAt?_eq_of_not_new (h : disk.Grows fits made) {q : Place}
    (hq : disk.at? q = none → made.at? q = none) : disk.faceAt? q = made.faceAt? q := by
  cases hat : disk.at? q with
  | none => rw [faceAt?, faceAt?, hat, hq hat]
  | some node => exact h.faceAt?_eq (by simp [hat])

end Grows

theorem Puts.grows {place : Place} {node : DiskNode} {fits : Place → DiskNode → Prop}
    (h : disk.Puts place node made) (hfree : disk.at? place = none) (hfits : fits place node) :
    disk.Grows fits made where
  isTree := h.isTree
  here_eq := h.here_eq
  kept := fun q face hq => by
    have hne : q ≠ place := by
      rintro rfl
      rw [faceAt?, hfree] at hq
      contradiction
    rw [h.faceAt?_of_ne q hne, hq]
  old_or_new := fun q face hq => by
    by_cases hplace : q = place
    · subst hplace
      rw [h.faceAt?_self] at hq
      exact .inr ⟨hfree, Option.some.inj hq ▸ hfits⟩
    · rw [h.faceAt?_of_ne q hplace] at hq
      exact .inl hq

/-! ## Making directories -/

variable {fits : Place → DiskNode → Prop}

theorem createDirectory_grows (htree : disk.IsTree) (hfits : ∀ q, fits q (.directory []))
    (h : disk.createDirectory path = .ok made) : disk.Grows fits made := by
  rw [createDirectory] at h
  split at h
  case h_1 => contradiction
  case h_2 => contradiction
  case h_3 directory name slashed hresolve =>
      obtain rfl := Except.ok.inj h
      obtain ⟨hdirectory, hname, hfree, -⟩ := free_of_resolve htree hresolve
      have hempty : (DiskNode.directory []).IsTree :=
        .directory .nil (by simp [DiskNode.names]) (by simp)
      exact (puts_put htree hdirectory hname (by simp [hfree]) rfl hempty).grows hfree (hfits _)

/-- Whether all directories can be made or not, only directories are. -/
theorem createDirectoriesUp_grows (htree : disk.IsTree) (hfits : ∀ q, fits q (.directory []))
    (components : List Path.Component) :
    disk.Grows fits (disk.createDirectoriesUp components).1 := by
  induction components with
  | nil => exact .refl htree
  | cons c above ih =>
      rw [createDirectoriesUp]
      split
      case h_1 made hmade => exact createDirectory_grows htree hfits hmade
      case h_2 =>
          split
          case h_1 made e habove => rwa [habove] at ih
          case h_2 made habove =>
              rw [habove] at ih
              split
              case h_1 all hall => exact ih.trans (createDirectory_grows ih.isTree hfits hall)
              case h_2 => exact ih
      case h_3 => exact .refl htree

theorem createDirectories_grows (htree : disk.IsTree) (hfits : ∀ q, fits q (.directory []))
    (path : Path) : disk.Grows fits (disk.createDirectories path).1 := by
  rw [createDirectories]
  split
  · exact .refl htree
  · exact createDirectoriesUp_grows htree hfits _

end Disk

end JavadocNames
