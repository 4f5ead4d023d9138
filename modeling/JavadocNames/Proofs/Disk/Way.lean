import JavadocNames.Proofs.Disk.Paths

/-!
# The way of a path

Resolving a path looks at one place after the other.  These places are its way: what is
seen there decides where the path leads, and nothing else on the disk does.  The way of an
entry below a directory is that of the directory, then straight down, and then that of the
entry alone.
-/

namespace JavadocNames

/-- What resolving a path can tell of a node: neither what a file contains nor what lies
in a directory. -/
def DiskNode.shape : DiskNode → DiskNode
  | .file _ => .file []
  | .link target => .link target
  | .directory _ => .directory []

namespace Disk

/-- What a path can pass through. -/
inductive Passage where
  | directory
  | link (target : Path)

/-- The passage at a place, if there is one. -/
def passage? (disk : Disk) (place : Place) : Option Passage :=
  match disk.at? place with
  | some (.directory _) => some .directory
  | some (.link target) => some (.link target)
  | _ => none

/-- The places that resolving pieces looks at, in order. -/
def wayFrom (disk : Disk) (last : Bool) (links : Nat) (place : Place) : List Bytes → List Place
  | [] => [place]
  | piece :: rest =>
      if piece = [Path.dot] then wayFrom disk last links place rest
      else if piece = [Path.dot, Path.dot] then wayFrom disk last links place.dropLast rest
      else if nameLimit < piece.length then []
      else
        (place ++ [piece]) ::
          match disk.passage? (place ++ [piece]) with
          | some .directory => wayFrom disk last links (place ++ [piece]) rest
          | some (.link target) =>
              if rest = [] && !last then []
              else
                match links with
                | 0 => []
                | links + 1 =>
                    if target.bytes = [] then []
                    else
                      wayFrom disk last links (if target.isAbsolute then [] else place)
                        (target.pieces ++ rest)
          | none => []
termination_by pieces => (links, pieces.length)

/-- The place that a path starts from. -/
def start (disk : Disk) (path : Path) : Place :=
  if path.isAbsolute then [] else disk.here

/-- The places on the way of a path, through links in the last place too. -/
def way (disk : Disk) (path : Path) : List Place :=
  disk.wayFrom true linkLimit (disk.start path) path.pieces

/-! ## One piece at a time -/

/-- A piece that is looked up as a name. -/
structure IsSought (piece : Bytes) : Prop where
  ne_dot : piece ≠ [Path.dot]
  ne_dots : piece ≠ [Path.dot, Path.dot]
  length_le : ¬ nameLimit < piece.length

theorem IsName.isSought {name : Bytes} (h : IsName name) : IsSought name :=
  ⟨h.ne_dot, h.ne_dots, Nat.not_lt.mpr h.length_le⟩

section Pieces

variable (disk : Disk) (last : Bool) (links : Nat) (place : Place) (slashed : Bool)
variable {piece : Bytes} (rest : List Bytes)

theorem follow_dot : disk.follow last links place slashed ([Path.dot] :: rest) =
    disk.follow last links place slashed rest := by
  rw [follow, if_pos rfl]

theorem follow_dots : disk.follow last links place slashed ([Path.dot, Path.dot] :: rest) =
    disk.follow last links place.dropLast slashed rest := by
  rw [follow, if_neg (by decide), if_pos rfl]

theorem wayFrom_dot : disk.wayFrom last links place ([Path.dot] :: rest) =
    disk.wayFrom last links place rest := by
  rw [wayFrom, if_pos rfl]

theorem wayFrom_dots : disk.wayFrom last links place ([Path.dot, Path.dot] :: rest) =
    disk.wayFrom last links place.dropLast rest := by
  rw [wayFrom, if_neg (by decide), if_pos rfl]

theorem follow_sought (hpiece : IsSought piece) :
    disk.follow last links place slashed (piece :: rest) =
      match disk.at? (place ++ [piece]) with
      | none => if rest = [] then .ok (.free place piece slashed) else .error .notFound
      | some (.directory _) => disk.follow last links (place ++ [piece]) slashed rest
      | some (.file content) =>
          if rest = [] then .ok (.entry (place ++ [piece]) (.file content) slashed)
          else .error .notADirectory
      | some (.link target) =>
          if rest = [] && !last then .ok (.entry (place ++ [piece]) (.link target) slashed)
          else
            match links with
            | 0 => .error .tooManyLinks
            | links + 1 =>
                if target.bytes = [] then .error .notFound
                else disk.follow last links (if target.isAbsolute then [] else place)
                  (slashed || rest = [] && target.endsWithSlash) (target.pieces ++ rest) := by
  rewrite [follow, if_neg hpiece.ne_dot, if_neg hpiece.ne_dots, if_neg hpiece.length_le]
  rcases disk.at? (place ++ [piece]) with _ | _ | _ | _
  · rfl
  · rfl
  · cases links <;> rfl
  · rfl

theorem wayFrom_sought (hpiece : IsSought piece) :
    disk.wayFrom last links place (piece :: rest) =
      (place ++ [piece]) ::
        match disk.passage? (place ++ [piece]) with
        | some .directory => disk.wayFrom last links (place ++ [piece]) rest
        | some (.link target) =>
            if rest = [] && !last then []
            else
              match links with
              | 0 => []
              | links + 1 =>
                  if target.bytes = [] then []
                  else disk.wayFrom last links (if target.isAbsolute then [] else place)
                    (target.pieces ++ rest)
        | none => [] := by
  rw [wayFrom, if_neg hpiece.ne_dot, if_neg hpiece.ne_dots, if_neg hpiece.length_le]

end Pieces

/-- Induction along the way of some pieces, by what is found for the next one.  A link is not
followed when it is wanted itself, when too many have been followed, or when it leads to
nothing. -/
theorem pieces_induction (disk : Disk) (last : Bool)
    {motive : Nat → Place → Bool → List Bytes → Prop}
    (nil : ∀ links place slashed, motive links place slashed [])
    (dot : ∀ links place slashed rest, motive links place slashed rest →
      motive links place slashed ([Path.dot] :: rest))
    (dots : ∀ links place slashed rest, motive links place.dropLast slashed rest →
      motive links place slashed ([Path.dot, Path.dot] :: rest))
    (long : ∀ links place slashed piece rest, piece ≠ [Path.dot] →
      piece ≠ [Path.dot, Path.dot] → nameLimit < piece.length →
      motive links place slashed (piece :: rest))
    (none : ∀ links place slashed piece rest, IsSought piece →
      disk.at? (place ++ [piece]) = none → motive links place slashed (piece :: rest))
    (file : ∀ links place slashed piece rest, IsSought piece →
      ∀ content, disk.at? (place ++ [piece]) = some (.file content) →
      motive links place slashed (piece :: rest))
    (directory : ∀ links place slashed piece rest, IsSought piece →
      ∀ entries, disk.at? (place ++ [piece]) = some (.directory entries) →
      motive links (place ++ [piece]) slashed rest → motive links place slashed (piece :: rest))
    (stay : ∀ links place slashed piece rest, IsSought piece →
      ∀ target, disk.at? (place ++ [piece]) = some (.link target) →
      (rest = [] && !last) = true → motive links place slashed (piece :: rest))
    (zero : ∀ place slashed piece rest, IsSought piece →
      ∀ target, disk.at? (place ++ [piece]) = some (.link target) →
      (rest = [] && !last) = false → motive 0 place slashed (piece :: rest))
    (empty : ∀ links place slashed piece rest, IsSought piece →
      ∀ target, disk.at? (place ++ [piece]) = some (.link target) →
      (rest = [] && !last) = false → target.bytes = [] →
      motive (links + 1) place slashed (piece :: rest))
    (succ : ∀ links place slashed piece rest, IsSought piece →
      ∀ target, disk.at? (place ++ [piece]) = some (.link target) →
      (rest = [] && !last) = false → target.bytes ≠ [] →
      motive links (if target.isAbsolute then [] else place)
        (slashed || rest = [] && target.endsWithSlash) (target.pieces ++ rest) →
      motive (links + 1) place slashed (piece :: rest))
    (links : Nat) (place : Place) (slashed : Bool) (pieces : List Bytes) :
    motive links place slashed pieces := by
  induction links, place, slashed, pieces using follow.induct disk last with
  | case1 | case2 => exact nil ..
  | case3 links place slashed rest ih => exact dot _ _ _ _ ih
  | case4 links place slashed rest _ ih => exact dots _ _ _ _ ih
  | case5 _ _ _ _ _ hdot hdots hlong => exact long _ _ _ _ _ hdot hdots hlong
  | case6 _ _ _ _ hdot hdots hlong hat => exact none _ _ _ _ _ ⟨hdot, hdots, hlong⟩ hat
  | case7 _ _ _ _ _ hdot hdots hlong hat => exact none _ _ _ _ _ ⟨hdot, hdots, hlong⟩ hat
  | case8 _ _ _ _ _ hdot hdots hlong _ hat ih =>
      exact directory _ _ _ _ _ ⟨hdot, hdots, hlong⟩ _ hat ih
  | case9 _ _ _ _ hdot hdots hlong _ hat => exact file _ _ _ _ _ ⟨hdot, hdots, hlong⟩ _ hat
  | case10 _ _ _ _ _ hdot hdots hlong _ hat => exact file _ _ _ _ _ ⟨hdot, hdots, hlong⟩ _ hat
  | case11 _ _ _ _ _ hdot hdots hlong _ hat hstay =>
      exact stay _ _ _ _ _ ⟨hdot, hdots, hlong⟩ _ hat hstay
  | case12 _ _ _ _ hdot hdots hlong _ hat hgo =>
      exact zero _ _ _ _ ⟨hdot, hdots, hlong⟩ _ hat (Bool.eq_false_iff.mpr hgo)
  | case13 _ _ _ _ hdot hdots hlong _ hat hgo _ hempty =>
      exact empty _ _ _ _ _ ⟨hdot, hdots, hlong⟩ _ hat (Bool.eq_false_iff.mpr hgo) hempty
  | case14 _ _ _ _ hdot hdots hlong _ hat hgo _ hempty ih =>
      exact succ _ _ _ _ _ ⟨hdot, hdots, hlong⟩ _ hat (Bool.eq_false_iff.mpr hgo) hempty ih

/-! ## What decides where a path leads -/

variable {disk other : Disk} {last : Bool} {links : Nat} {place : Place} {slashed : Bool}
variable {pieces : List Bytes}

/-- The shape of what is at a place. -/
def shapeAt? (disk : Disk) (place : Place) : Option DiskNode :=
  (disk.at? place).map DiskNode.shape

theorem shapeAt?_eq_of_faceAt?_eq {q : Place} (h : disk.faceAt? q = other.faceAt? q) :
    disk.shapeAt? q = other.shapeAt? q := by
  have hshape : ∀ node : DiskNode, node.face.shape = node.shape := by
    intro node
    cases node <;> rfl
  have hboth : ∀ d : Disk, d.shapeAt? q = (d.faceAt? q).map DiskNode.shape := by
    intro d
    simp only [shapeAt?, faceAt?, Option.map_map, Function.comp_def, hshape]
  rw [hboth, hboth, h]

section Shapes

variable {q : Place} (h : disk.shapeAt? q = other.shapeAt? q)

include h

theorem at?_eq_none_of_shapeAt?_eq (hq : disk.at? q = none) : other.at? q = none := by
  rw [shapeAt?, hq] at h
  exact Option.map_eq_none_iff.mp h.symm

theorem exists_shape_of_shapeAt?_eq {node : DiskNode} (hq : disk.at? q = some node) :
    ∃ node', other.at? q = some node' ∧ node'.shape = node.shape := by
  rw [shapeAt?, hq] at h
  exact Option.map_eq_some_iff.mp h.symm

theorem exists_file_of_shapeAt?_eq {content : Bytes} (hq : disk.at? q = some (.file content)) :
    ∃ content', other.at? q = some (.file content') := by
  obtain ⟨node, hnode, hshape⟩ := exists_shape_of_shapeAt?_eq h hq
  cases node with
  | file content' => exact ⟨content', hnode⟩
  | link => contradiction
  | directory => contradiction

theorem exists_directory_of_shapeAt?_eq {entries : List (Bytes × DiskNode)}
    (hq : disk.at? q = some (.directory entries)) :
    ∃ entries', other.at? q = some (.directory entries') := by
  obtain ⟨node, hnode, hshape⟩ := exists_shape_of_shapeAt?_eq h hq
  cases node with
  | directory entries' => exact ⟨entries', hnode⟩
  | link => contradiction
  | file => contradiction

theorem at?_eq_link_of_shapeAt?_eq {target : Path} (hq : disk.at? q = some (.link target)) :
    other.at? q = some (.link target) := by
  obtain ⟨node, hnode, hshape⟩ := exists_shape_of_shapeAt?_eq h hq
  cases node with
  | link target' => exact DiskNode.link.inj hshape ▸ hnode
  | file => contradiction
  | directory => contradiction

end Shapes

/-- Where a path leads, by the shape of what is there. -/
def Target.shape : Target → Target
  | .entry place node slashed => .entry place node.shape slashed
  | .free directory name slashed => .free directory name slashed

/-- On disks that look alike on the way of some pieces, the pieces lead to the same place. -/
theorem follow_of_shapeAt?_eq
    (h : ∀ q ∈ disk.wayFrom last links place pieces, disk.shapeAt? q = other.shapeAt? q) :
    (other.follow last links place slashed pieces).map Target.shape =
      (disk.follow last links place slashed pieces).map Target.shape := by
  induction links, place, slashed, pieces using pieces_induction disk last with
  | nil links place slashed =>
      have hplace := h place (by rw [wayFrom]; exact List.mem_singleton_self place)
      rw [follow, follow]
      cases hnode : disk.at? place with
      | none => rw [at?_eq_none_of_shapeAt?_eq hplace hnode]
      | some node =>
          obtain ⟨node', hnode', hshape⟩ := exists_shape_of_shapeAt?_eq hplace hnode
          rw [hnode']
          simp only [Except.map, Target.shape, hshape]
  | dot links place slashed rest ih =>
      rw [wayFrom_dot] at h
      rw [follow_dot, follow_dot]
      exact ih h
  | dots links place slashed rest ih =>
      rw [wayFrom_dots] at h
      rw [follow_dots, follow_dots]
      exact ih h
  | long links place slashed piece rest hdot hdots hlong =>
      rw [follow, if_neg hdot, if_neg hdots, if_pos hlong, follow, if_neg hdot, if_neg hdots,
        if_pos hlong]
  | none links place slashed piece rest hpiece hnode =>
      rw [wayFrom_sought _ _ _ _ _ hpiece, List.forall_mem_cons] at h
      rw [follow_sought _ _ _ _ _ _ hpiece, follow_sought _ _ _ _ _ _ hpiece, hnode,
        at?_eq_none_of_shapeAt?_eq h.1 hnode]
  | file links place slashed piece rest hpiece content hnode =>
      rw [wayFrom_sought _ _ _ _ _ hpiece, List.forall_mem_cons] at h
      obtain ⟨content', hother⟩ := exists_file_of_shapeAt?_eq h.1 hnode
      rw [follow_sought _ _ _ _ _ _ hpiece, follow_sought _ _ _ _ _ _ hpiece, hnode, hother]
      by_cases hrest : rest = []
      · simp only [hrest, if_true, Except.map, Target.shape, DiskNode.shape]
      · simp only [hrest, if_false]
  | directory links place slashed piece rest hpiece entries hnode ih =>
      rw [wayFrom_sought _ _ _ _ _ hpiece, List.forall_mem_cons, passage?, hnode] at h
      obtain ⟨entries', hother⟩ := exists_directory_of_shapeAt?_eq h.1 hnode
      rw [follow_sought _ _ _ _ _ _ hpiece, follow_sought _ _ _ _ _ _ hpiece, hnode, hother]
      exact ih h.2
  | stay links place slashed piece rest hpiece target hnode hstay =>
      rw [wayFrom_sought _ _ _ _ _ hpiece, List.forall_mem_cons] at h
      rw [follow_sought _ _ _ _ _ _ hpiece, follow_sought _ _ _ _ _ _ hpiece, hnode,
        at?_eq_link_of_shapeAt?_eq h.1 hnode]
      simp only [hstay, if_true]
  | zero place slashed piece rest hpiece target hnode hgo =>
      rw [wayFrom_sought _ _ _ _ _ hpiece, List.forall_mem_cons] at h
      rw [follow_sought _ _ _ _ _ _ hpiece, follow_sought _ _ _ _ _ _ hpiece, hnode,
        at?_eq_link_of_shapeAt?_eq h.1 hnode]
  | empty links place slashed piece rest hpiece target hnode hgo hempty =>
      rw [wayFrom_sought _ _ _ _ _ hpiece, List.forall_mem_cons] at h
      rw [follow_sought _ _ _ _ _ _ hpiece, follow_sought _ _ _ _ _ _ hpiece, hnode,
        at?_eq_link_of_shapeAt?_eq h.1 hnode]
      simp only [hgo, hempty, if_true, if_false, Bool.false_eq_true]
  | succ links place slashed piece rest hpiece target hnode hgo hempty ih =>
      rw [wayFrom_sought _ _ _ _ _ hpiece, List.forall_mem_cons, passage?, hnode] at h
      rw [follow_sought _ _ _ _ _ _ hpiece, follow_sought _ _ _ _ _ _ hpiece, hnode,
        at?_eq_link_of_shapeAt?_eq h.1 hnode]
      simp only [hgo, hempty, if_false, Bool.false_eq_true] at h ⊢
      exact ih h.2

/-- Where the same places can be passed, the way is the same, wherever it ends. -/
theorem wayFrom_of_passage?_eq
    (h : ∀ q ∈ disk.wayFrom last links place pieces, disk.passage? q = other.passage? q) :
    other.wayFrom last links place pieces = disk.wayFrom last links place pieces := by
  induction links, place, pieces using wayFrom.induct with
  | case1 => rw [wayFrom, wayFrom]
  | case2 links place rest ih =>
      rw [wayFrom_dot] at h
      rw [wayFrom_dot, wayFrom_dot, ih h]
  | case3 links place rest _ ih =>
      rw [wayFrom_dots] at h
      rw [wayFrom_dots, wayFrom_dots, ih h]
  | case4 links place piece rest hdot hdots hlong =>
      rw [wayFrom, if_neg hdot, if_neg hdots, if_pos hlong, wayFrom, if_neg hdot, if_neg hdots,
        if_pos hlong]
  | case5 links place piece rest hdot hdots hlong ihDirectory ihLink =>
      have hpiece : IsSought piece := ⟨hdot, hdots, hlong⟩
      rw [wayFrom_sought _ _ _ _ _ hpiece, List.forall_mem_cons] at h
      rw [wayFrom_sought _ _ _ _ _ hpiece, wayFrom_sought _ _ _ _ _ hpiece, ← h.1]
      rcases hpassage : disk.passage? (place ++ [piece]) with _ | _ | target
      · rfl
      · rw [hpassage] at h
        simp only [ihDirectory h.2]
      · rw [hpassage] at h
        by_cases hstay : (rest = [] && !last) = true
        · simp only [hstay, if_true]
        · cases links with
          | zero => rfl
          | succ links =>
              by_cases hempty : target.bytes = []
              · simp only [hempty, if_true]
              · simp only [hstay, hempty, if_false, Bool.false_eq_true] at h ⊢
                exact congrArg ((place ++ [piece]) :: ·) (ihLink target h.2)

/-- With more links to follow, and a link in the last place followed too, a path goes at least
as far. -/
theorem mem_wayFrom_mono {last' : Bool} {more : Nat} (hlast : last = true → last' = true)
    (hmore : links ≤ more) {q : Place} (hq : q ∈ disk.wayFrom last links place pieces) :
    q ∈ disk.wayFrom last' more place pieces := by
  induction links, place, pieces using wayFrom.induct generalizing more with
  | case1 =>
      rw [wayFrom] at hq ⊢
      exact hq
  | case2 links place rest ih =>
      rw [wayFrom_dot] at hq ⊢
      exact ih hmore hq
  | case3 links place rest _ ih =>
      rw [wayFrom_dots] at hq ⊢
      exact ih hmore hq
  | case4 links place piece rest hdot hdots hlong =>
      rw [wayFrom, if_neg hdot, if_neg hdots, if_pos hlong] at hq
      contradiction
  | case5 links place piece rest hdot hdots hlong ihDirectory ihLink =>
      have hpiece : IsSought piece := ⟨hdot, hdots, hlong⟩
      rw [wayFrom_sought _ _ _ _ _ hpiece] at hq ⊢
      rcases List.mem_cons.mp hq with rfl | hq
      · exact List.mem_cons_self
      refine List.mem_cons_of_mem _ ?_
      rcases hpassage : disk.passage? (place ++ [piece]) with _ | _ | target
      · rw [hpassage] at hq
        contradiction
      · rw [hpassage] at hq
        exact ihDirectory hmore hq
      · rw [hpassage] at hq
        -- A link that is followed on the one way is followed on the other.
        by_cases hstay : (rest = [] && !last) = true
        · simp [hstay] at hq
        have hstay' : ¬ (rest = [] && !last') = true := by
          simp only [Bool.and_eq_true, decide_eq_true_eq, Bool.not_eq_true', not_and,
            Bool.not_eq_false] at hstay ⊢
          exact fun hrest => hlast (hstay hrest)
        cases links with
        | zero => simp at hq
        | succ links =>
            cases more with
            | zero => contradiction
            | succ more =>
                by_cases hempty : target.bytes = []
                · simp [hempty] at hq
                simp only [hstay, hstay', hempty, if_false, Bool.false_eq_true] at hq ⊢
                exact ihLink target (Nat.le_of_succ_le_succ hmore) hq

end Disk

end JavadocNames
