import JavadocNames.Proofs.Disk.Way

/-!
# Where pieces lead

Pieces that can be resolved lead somewhere in a sequence of steps: down into a directory,
up to the one above, or on behind a link, until an entry or a free name is met.  Everything
on the way to a directory is a directory or a link, and pieces behind such a way go on from
where it leads.
-/

namespace JavadocNames

namespace Disk

variable {disk : Disk} {last : Bool} {links : Nat} {place : Place} {slashed : Bool}
variable {pieces : List Bytes}

/-- Pieces lead somewhere, one step for each of them and one for each link. -/
inductive Leads (disk : Disk) (last : Bool) :
    Nat → Place → Bool → List Bytes → Target → Prop
  | here {links place slashed node} (hnode : disk.at? place = some node) :
      Leads disk last links place slashed [] (.entry place node slashed)
  | dot {links place slashed rest target}
      (hrest : Leads disk last links place slashed rest target) :
      Leads disk last links place slashed ([Path.dot] :: rest) target
  | dots {links place slashed rest target}
      (hrest : Leads disk last links place.dropLast slashed rest target) :
      Leads disk last links place slashed ([Path.dot, Path.dot] :: rest) target
  | free {links place slashed piece} (hpiece : IsSought piece)
      (hnode : disk.at? (place ++ [piece]) = none) :
      Leads disk last links place slashed [piece] (.free place piece slashed)
  | file {links place slashed piece content} (hpiece : IsSought piece)
      (hnode : disk.at? (place ++ [piece]) = some (.file content)) :
      Leads disk last links place slashed [piece]
        (.entry (place ++ [piece]) (.file content) slashed)
  | directory {links place slashed piece rest entries target} (hpiece : IsSought piece)
      (hnode : disk.at? (place ++ [piece]) = some (.directory entries))
      (hrest : Leads disk last links (place ++ [piece]) slashed rest target) :
      Leads disk last links place slashed (piece :: rest) target
  | stay {links place slashed piece path} (hpiece : IsSought piece)
      (hnode : disk.at? (place ++ [piece]) = some (.link path)) (hlast : last = false) :
      Leads disk last links place slashed [piece] (.entry (place ++ [piece]) (.link path) slashed)
  | link {links place slashed piece rest path target} (hpiece : IsSought piece)
      (hnode : disk.at? (place ++ [piece]) = some (.link path))
      (hgo : (rest = [] && !last) = false) (hpath : path.bytes ≠ [])
      (hrest : Leads disk last links (if path.isAbsolute then [] else place)
        (slashed || rest = [] && path.endsWithSlash) (path.pieces ++ rest) target) :
      Leads disk last (links + 1) place slashed (piece :: rest) target

theorem leads_of_follow {target : Target}
    (h : disk.follow last links place slashed pieces = .ok target) :
    Leads disk last links place slashed pieces target := by
  induction links, place, slashed, pieces using pieces_induction disk last with
  | nil links place slashed =>
      rw [follow] at h
      split at h
      · rename_i node hnode
        obtain rfl := Except.ok.inj h
        exact .here hnode
      · contradiction
  | dot links place slashed rest ih =>
      rw [follow_dot] at h
      exact .dot (ih h)
  | dots links place slashed rest ih =>
      rw [follow_dots] at h
      exact .dots (ih h)
  | long links place slashed piece rest hdot hdots hlong =>
      rw [follow, if_neg hdot, if_neg hdots, if_pos hlong] at h
      contradiction
  | none links place slashed piece rest hpiece hnode =>
      rw [follow_sought _ _ _ _ _ _ hpiece, hnode] at h
      by_cases hrest : rest = []
      · simp only [hrest, if_true] at h
        obtain rfl := Except.ok.inj h
        subst hrest
        exact .free hpiece hnode
      · simp [hrest] at h
  | file links place slashed piece rest hpiece content hnode =>
      rw [follow_sought _ _ _ _ _ _ hpiece, hnode] at h
      by_cases hrest : rest = []
      · simp only [hrest, if_true] at h
        obtain rfl := Except.ok.inj h
        subst hrest
        exact .file hpiece hnode
      · simp [hrest] at h
  | directory links place slashed piece rest hpiece entries hnode ih =>
      rw [follow_sought _ _ _ _ _ _ hpiece, hnode] at h
      exact .directory hpiece hnode (ih h)
  | stay links place slashed piece rest hpiece path hnode hstay =>
      rw [follow_sought _ _ _ _ _ _ hpiece, hnode] at h
      simp only [hstay, if_true] at h
      obtain rfl := Except.ok.inj h
      obtain ⟨rfl, hlast⟩ : rest = [] ∧ last = false := by simpa using hstay
      exact .stay hpiece hnode hlast
  | zero place slashed piece rest hpiece path hnode hgo =>
      rw [follow_sought _ _ _ _ _ _ hpiece, hnode] at h
      simp [hgo] at h
  | empty links place slashed piece rest hpiece path hnode hgo hempty =>
      rw [follow_sought _ _ _ _ _ _ hpiece, hnode] at h
      simp [hgo, hempty] at h
  | succ links place slashed piece rest hpiece path hnode hgo hpath ih =>
      rw [follow_sought _ _ _ _ _ _ hpiece, hnode] at h
      simp only [hgo, hpath, if_false, Bool.false_eq_true] at h
      exact .link hpiece hnode hgo hpath (ih h)

/-- An entry that pieces lead to is at its place, and its place is on their way. -/
theorem Leads.entry {place' : Place} {node : DiskNode} {slashed' : Bool}
    (h : Leads disk last links place slashed pieces (.entry place' node slashed')) :
    disk.at? place' = some node ∧ place' ∈ disk.wayFrom last links place pieces := by
  generalize htarget : Target.entry place' node slashed' = target at h
  induction h with
  | here hnode =>
      obtain ⟨rfl, rfl, -⟩ := Target.entry.inj htarget
      rw [wayFrom]
      exact ⟨hnode, List.mem_singleton_self _⟩
  | dot _ ih =>
      rw [wayFrom_dot]
      exact ih htarget
  | dots _ ih =>
      rw [wayFrom_dots]
      exact ih htarget
  | free => contradiction
  | file hpiece hnode =>
      obtain ⟨rfl, rfl, -⟩ := Target.entry.inj htarget
      rw [wayFrom_sought _ _ _ _ _ hpiece]
      exact ⟨hnode, List.mem_cons_self⟩
  | directory hpiece hnode _ ih =>
      rw [wayFrom_sought _ _ _ _ _ hpiece, passage?, hnode]
      exact (ih htarget).imp_right (List.mem_cons_of_mem _)
  | stay hpiece hnode =>
      obtain ⟨rfl, rfl, -⟩ := Target.entry.inj htarget
      rw [wayFrom_sought _ _ _ _ _ hpiece]
      exact ⟨hnode, List.mem_cons_self⟩
  | link hpiece hnode hgo hpath _ ih =>
      rw [wayFrom_sought _ _ _ _ _ hpiece, passage?, hnode]
      simp only [hgo, hpath, if_false, Bool.false_eq_true]
      exact (ih htarget).imp_right (List.mem_cons_of_mem _)

/-- Everything on the way to a directory can be passed. -/
theorem Leads.passage?_ne_none {place' : Place} {entries : List (Bytes × DiskNode)}
    {slashed' : Bool}
    (h : Leads disk last links place slashed pieces (.entry place' (.directory entries) slashed'))
    {q : Place} (hq : q ∈ disk.wayFrom last links place pieces) : disk.passage? q ≠ none := by
  generalize htarget : Target.entry place' (.directory entries) slashed' = target at h
  induction h with
  | here hnode =>
      obtain ⟨-, rfl, -⟩ := Target.entry.inj htarget
      rw [wayFrom, List.mem_singleton] at hq
      simp [hq, passage?, hnode]
  | dot _ ih =>
      rw [wayFrom_dot] at hq
      exact ih hq htarget
  | dots _ ih =>
      rw [wayFrom_dots] at hq
      exact ih hq htarget
  | free => contradiction
  | file => simp at htarget
  | directory hpiece hnode _ ih =>
      rw [wayFrom_sought _ _ _ _ _ hpiece] at hq
      rcases List.mem_cons.mp hq with rfl | hq
      · simp [passage?, hnode]
      · rw [passage?, hnode] at hq
        exact ih hq htarget
  | stay => simp at htarget
  | link hpiece hnode hgo hpath _ ih =>
      rw [wayFrom_sought _ _ _ _ _ hpiece] at hq
      rcases List.mem_cons.mp hq with rfl | hq
      · simp [passage?, hnode]
      · rw [passage?, hnode] at hq
        simp only [hgo, hpath, if_false, Bool.false_eq_true] at hq
        exact ih hq htarget

/-- A free name that pieces lead to can be given to a file in a directory that exists. -/
theorem Leads.free_spec {directory : Place} {name : Bytes} {slashed' : Bool}
    (h : Leads disk last links place slashed pieces (.free directory name slashed'))
    (htree : disk.IsTree) (hplace : disk.HasDirectory place)
    (hpieces : ∀ piece ∈ pieces, piece ≠ [] ∧ Path.slash ∉ piece ∧ 0 ∉ piece) :
    disk.HasDirectory directory ∧ IsName name ∧ disk.at? (directory ++ [name]) = none ∧
      directory ++ [name] ∈ disk.wayFrom last links place pieces := by
  generalize htarget : Target.free directory name slashed' = target at h
  induction h with
  | here => contradiction
  | dot _ ih =>
      rw [wayFrom_dot]
      exact ih hplace (List.forall_mem_cons.mp hpieces).2 htarget
  | dots _ ih =>
      rw [wayFrom_dots]
      exact ih hplace.dropLast (List.forall_mem_cons.mp hpieces).2 htarget
  | free hpiece hnode =>
      obtain ⟨rfl, rfl, -⟩ := Target.free.inj htarget
      obtain ⟨hne, hslash, hnul⟩ := hpieces name List.mem_cons_self
      rw [wayFrom_sought _ _ _ _ _ hpiece]
      exact ⟨hplace, ⟨hne, hslash, hnul, hpiece.ne_dot, hpiece.ne_dots,
        Nat.not_lt.mp hpiece.length_le⟩, hnode, List.mem_cons_self⟩
  | file => contradiction
  | directory hpiece hnode _ ih =>
      rw [wayFrom_sought _ _ _ _ _ hpiece, passage?, hnode]
      obtain ⟨hdirectory, hname, hfree, hway⟩ := ih (hasDirectory_iff.mpr ⟨_, hnode⟩)
        (List.forall_mem_cons.mp hpieces).2 htarget
      exact ⟨hdirectory, hname, hfree, List.mem_cons_of_mem _ hway⟩
  | stay => contradiction
  | @link links place slashed piece rest path target hpiece hnode hgo hpath _ ih =>
      rw [wayFrom_sought _ _ _ _ _ hpiece, passage?, hnode]
      simp only [hgo, hpath, if_false, Bool.false_eq_true]
      -- The link goes on from the top or from where it is, with pieces of its own.
      have hstart : disk.HasDirectory (if path.isAbsolute then [] else place) := by
        split
        · exact htree.hasDirectory_nil
        · exact hplace
      have hlink : 0 ∉ path.bytes := by
        cases htree.top.at? hnode with
        | link hnul => exact hnul
      obtain ⟨hdirectory, hname, hfree, hway⟩ := ih hstart (by
        intro other hother
        rcases List.mem_append.mp hother with hmem | hmem
        · obtain ⟨hne, hslash, hbytes⟩ := Path.of_mem_pieces hmem
          exact ⟨hne, hslash, fun hzero => hlink (hbytes 0 hzero)⟩
        · exact hpieces other (List.mem_cons_of_mem _ hmem)) htarget
      exact ⟨hdirectory, hname, hfree, List.mem_cons_of_mem _ hway⟩

/-- The target was spelled with a slash after its name. -/
def Target.isSlashed : Target → Bool
  | .entry _ _ slashed => slashed
  | .free _ _ slashed => slashed

/-- A slash at the end is not lost on the way. -/
theorem Leads.isSlashed {target : Target}
    (h : Leads disk last links place slashed pieces target) (hslashed : slashed = true) :
    target.isSlashed = true := by
  induction h with
  | here | free | file | stay => exact hslashed
  | dot _ ih | dots _ ih | directory _ _ _ ih => exact ih hslashed
  | link _ _ _ _ _ ih => exact ih (by rw [hslashed, Bool.true_or])

/-- When links are followed to the last, none is left. -/
theorem Leads.ne_link {place' : Place} {path : Path} {slashed' : Bool}
    (h : Leads disk true links place slashed pieces (.entry place' (.link path) slashed'))
    (htree : disk.IsTree) (hplace : disk.HasDirectory place) : False := by
  generalize htarget : Target.entry place' (.link path) slashed' = target at h
  induction h with
  | here hnode =>
      obtain ⟨-, rfl, -⟩ := Target.entry.inj htarget
      obtain ⟨entries, hentries⟩ := hasDirectory_iff.mp hplace
      rw [hnode] at hentries
      simp at hentries
  | dot _ ih => exact ih hplace htarget
  | dots _ ih => exact ih hplace.dropLast htarget
  | free => contradiction
  | file => simp at htarget
  | directory _ hnode _ ih => exact ih (hasDirectory_iff.mpr ⟨_, hnode⟩) htarget
  | stay _ _ hlast => contradiction
  | link _ _ _ _ _ ih =>
      refine ih ?_ htarget
      split
      · exact htree.hasDirectory_nil
      · exact hplace

/-- When a link in the last place is not followed, a free name is the last piece. -/
theorem Leads.getLast?_of_free {directory : Place} {name : Bytes} {slashed' : Bool}
    (h : Leads disk false links place slashed pieces (.free directory name slashed')) :
    pieces.getLast? = some name := by
  generalize htarget : Target.free directory name slashed' = target at h
  have hcons : ∀ {piece : Bytes} {rest : List Bytes}, rest.getLast? = some name →
      (piece :: rest).getLast? = some name := by
    intro piece rest hrest
    rw [List.getLast?_cons, hrest, Option.getD_some]
  induction h with
  | here => contradiction
  | dot _ ih => exact hcons (ih htarget)
  | dots _ ih => exact hcons (ih htarget)
  | free =>
      obtain ⟨-, rfl, -⟩ := Target.free.inj htarget
      rfl
  | file => contradiction
  | directory _ _ _ ih => exact hcons (ih htarget)
  | stay => contradiction
  | link _ _ hgo _ _ ih =>
      have hlast := ih htarget
      rw [List.getLast?_append] at hlast
      refine hcons ?_
      rename_i rest _ _ _ _ _ _
      cases hrest : rest.getLast? with
      | none => simp [List.getLast?_eq_none_iff.mp hrest] at hgo
      | some piece => rwa [hrest, Option.some_or] at hlast

/-- Looking for a link itself makes no difference unless there is one in the last place. -/
theorem follow_false_cases :
    disk.follow false links place slashed pieces = disk.follow true links place slashed pieces ∨
      ∃ place' path, disk.follow false links place slashed pieces =
        .ok (.entry place' (.link path) slashed) := by
  induction links, place, slashed, pieces using pieces_induction disk false with
  | nil links place slashed => exact .inl (by rw [follow, follow])
  | dot links place slashed rest ih => simpa only [follow_dot] using ih
  | dots links place slashed rest ih => simpa only [follow_dots] using ih
  | long links place slashed piece rest hdot hdots hlong =>
      exact .inl (by rw [follow, if_neg hdot, if_neg hdots, if_pos hlong, follow, if_neg hdot,
        if_neg hdots, if_pos hlong])
  | none links place slashed piece rest hpiece hnode =>
      exact .inl (by rw [follow_sought _ _ _ _ _ _ hpiece, follow_sought _ _ _ _ _ _ hpiece, hnode])
  | file links place slashed piece rest hpiece content hnode =>
      exact .inl (by rw [follow_sought _ _ _ _ _ _ hpiece, follow_sought _ _ _ _ _ _ hpiece, hnode])
  | directory links place slashed piece rest hpiece entries hnode ih =>
      rw [follow_sought _ _ _ _ _ _ hpiece, follow_sought _ _ _ _ _ _ hpiece, hnode]
      exact ih
  | stay links place slashed piece rest hpiece path hnode hstay =>
      refine .inr ⟨place ++ [piece], path, ?_⟩
      rw [follow_sought _ _ _ _ _ _ hpiece, hnode]
      simp only [hstay, if_true]
  | zero place slashed piece rest hpiece path hnode hgo =>
      refine .inl ?_
      rw [follow_sought _ _ _ _ _ _ hpiece, follow_sought _ _ _ _ _ _ hpiece, hnode]
      simp only [hgo, Bool.not_true, Bool.and_false, if_false, Bool.false_eq_true]
  | empty links place slashed piece rest hpiece path hnode hgo hempty =>
      refine .inl ?_
      rw [follow_sought _ _ _ _ _ _ hpiece, follow_sought _ _ _ _ _ _ hpiece, hnode]
      simp only [hgo, hempty, Bool.not_true, Bool.and_false, if_true, if_false,
        Bool.false_eq_true]
  | succ links place slashed piece rest hpiece path hnode hgo hpath ih =>
      rw [follow_sought _ _ _ _ _ _ hpiece, follow_sought _ _ _ _ _ _ hpiece, hnode]
      simp only [hgo, hpath, Bool.not_true, Bool.and_false, if_false, Bool.false_eq_true]
      have hrest : rest ≠ [] := by simpa using hgo
      simpa only [hrest, decide_false, Bool.false_and, Bool.or_false] using ih

/-! ## Going on -/

/-- Pieces go on as others do from another place, with `left` links that can be followed.
Until then only directories and links are on their way. -/
structure GoesOn (disk : Disk) (last : Bool) (links : Nat) (place : Place) (pieces : List Bytes)
    (left : Nat) (place' : Place) (pieces' : List Bytes) : Prop where
  follow_eq : ∀ slashed, disk.follow last links place slashed pieces =
    disk.follow last left place' slashed pieces'
  passage?_or_mem : ∀ q ∈ disk.wayFrom last links place pieces,
    disk.passage? q ≠ none ∨ q ∈ disk.wayFrom last left place' pieces'

namespace GoesOn

theorem refl : GoesOn disk last links place pieces links place pieces :=
  ⟨fun _ => rfl, fun _ hq => .inr hq⟩

theorem trans {links' links'' : Nat} {place' place'' : Place} {pieces' pieces'' : List Bytes}
    (h : GoesOn disk last links place pieces links' place' pieces')
    (h' : GoesOn disk last links' place' pieces' links'' place'' pieces'') :
    GoesOn disk last links place pieces links'' place'' pieces'' where
  follow_eq := fun slashed => (h.follow_eq slashed).trans (h'.follow_eq slashed)
  passage?_or_mem := fun q hq => (h.passage?_or_mem q hq).elim .inl (h'.passage?_or_mem q)

theorem dot {rest : List Bytes} :
    GoesOn disk last links place ([Path.dot] :: rest) links place rest where
  follow_eq := fun _ => follow_dot ..
  passage?_or_mem := fun q hq => .inr (by rwa [wayFrom_dot] at hq)

theorem dots {rest : List Bytes} :
    GoesOn disk last links place ([Path.dot, Path.dot] :: rest) links place.dropLast rest where
  follow_eq := fun _ => follow_dots ..
  passage?_or_mem := fun q hq => .inr (by rwa [wayFrom_dots] at hq)

variable {piece : Bytes} {rest : List Bytes} (hpiece : IsSought piece)

include hpiece

theorem directory {entries : List (Bytes × DiskNode)}
    (hnode : disk.at? (place ++ [piece]) = some (.directory entries)) :
    GoesOn disk last links place (piece :: rest) links (place ++ [piece]) rest where
  follow_eq := fun slashed => by rw [follow_sought _ _ _ _ _ _ hpiece, hnode]
  passage?_or_mem := fun q hq => by
    rw [wayFrom_sought _ _ _ _ _ hpiece, List.mem_cons, passage?, hnode] at hq
    rcases hq with rfl | hq
    · exact .inl (by simp [passage?, hnode])
    · exact .inr hq

/-- A link that is not in the last place is followed. -/
theorem link {path : Path} (hnode : disk.at? (place ++ [piece]) = some (.link path))
    (hrest : rest ≠ []) (hpath : path.bytes ≠ []) :
    GoesOn disk last (links + 1) place (piece :: rest) links
      (if path.isAbsolute then [] else place) (path.pieces ++ rest) where
  follow_eq := fun slashed => by
    rw [follow_sought _ _ _ _ _ _ hpiece, hnode]
    simp only [hrest, hpath, decide_false, Bool.false_and, Bool.or_false, if_false,
      Bool.false_eq_true]
  passage?_or_mem := fun q hq => by
    rw [wayFrom_sought _ _ _ _ _ hpiece, List.mem_cons, passage?, hnode] at hq
    simp only [hrest, hpath, decide_false, Bool.false_and, if_false, Bool.false_eq_true] at hq
    rcases hq with rfl | hq
    · exact .inl (by simp [passage?, hnode])
    · exact .inr hq

end GoesOn

/-- Pieces behind a path to a directory go on from that directory. -/
theorem Leads.exists_goesOn {place' : Place} {entries : List (Bytes × DiskNode)}
    {slashed' : Bool}
    (h : Leads disk true links place slashed pieces (.entry place' (.directory entries) slashed')) :
    ∃ left ≤ links, ∀ (last : Bool) (further : List Bytes), further ≠ [] →
      GoesOn disk last links place (pieces ++ further) left place' further := by
  generalize htarget : Target.entry place' (.directory entries) slashed' = target at h
  induction h with
  | @here links place slashed node hnode =>
      obtain ⟨rfl, -, -⟩ := Target.entry.inj htarget
      exact ⟨links, Nat.le_refl _, fun _ _ _ => .refl⟩
  | dot _ ih =>
      obtain ⟨left, hleft, hfurther⟩ := ih htarget
      exact ⟨left, hleft, fun last further hne => .trans .dot (hfurther last further hne)⟩
  | dots _ ih =>
      obtain ⟨left, hleft, hfurther⟩ := ih htarget
      exact ⟨left, hleft, fun last further hne => .trans .dots (hfurther last further hne)⟩
  | free => contradiction
  | file => simp at htarget
  | directory hpiece hnode _ ih =>
      obtain ⟨left, hleft, hfurther⟩ := ih htarget
      exact ⟨left, hleft, fun last further hne =>
        .trans (.directory hpiece hnode) (hfurther last further hne)⟩
  | stay => simp at htarget
  | @link links place slashed piece rest path target hpiece hnode hgo hpath _ ih =>
      obtain ⟨left, hleft, hfurther⟩ := ih htarget
      refine ⟨left, Nat.le_succ_of_le hleft, fun last further hne => ?_⟩
      have hrest : rest ++ further ≠ [] := by simp [hne]
      have hlink : GoesOn disk last (links + 1) place (piece :: (rest ++ further)) links
          (if path.isAbsolute then [] else place) (path.pieces ++ (rest ++ further)) :=
        .link hpiece hnode hrest hpath
      rw [← List.append_assoc] at hlink
      exact hlink.trans (hfurther last further hne)

/-- Pieces that lead to a link itself go on with the link when it is followed too. -/
theorem Leads.exists_goesOn_link {place' : Place} {path : Path} {slashed' : Bool}
    (h : Leads disk false links place slashed pieces (.entry place' (.link path) slashed'))
    (htree : disk.IsTree) (hplace : disk.HasDirectory place) :
    disk.at? place' = some (.link path) ∧ ∃ directory name, ∃ left ≤ links,
      place' = directory ++ [name] ∧
      GoesOn disk true links place pieces left directory [name] := by
  refine ⟨h.entry.1, ?_⟩
  generalize htarget : Target.entry place' (.link path) slashed' = target at h
  induction h with
  | here hnode =>
      obtain ⟨-, rfl, -⟩ := Target.entry.inj htarget
      obtain ⟨entries, hentries⟩ := hasDirectory_iff.mp hplace
      rw [hnode] at hentries
      simp at hentries
  | dot _ ih =>
      obtain ⟨directory, name, left, hleft, heq, hgoes⟩ := ih hplace htarget
      exact ⟨directory, name, left, hleft, heq, .trans .dot hgoes⟩
  | dots _ ih =>
      obtain ⟨directory, name, left, hleft, heq, hgoes⟩ := ih hplace.dropLast htarget
      exact ⟨directory, name, left, hleft, heq, .trans .dots hgoes⟩
  | free => contradiction
  | file => simp at htarget
  | directory hpiece hnode _ ih =>
      obtain ⟨directory, name, left, hleft, heq, hgoes⟩ :=
        ih (hasDirectory_iff.mpr ⟨_, hnode⟩) htarget
      exact ⟨directory, name, left, hleft, heq, .trans (.directory hpiece hnode) hgoes⟩
  | @stay links place slashed piece path hpiece hnode =>
      obtain ⟨rfl, -, -⟩ := Target.entry.inj htarget
      exact ⟨place, piece, links, Nat.le_refl _, rfl, .refl⟩
  | link hpiece hnode hgo hpath _ ih =>
      obtain ⟨directory, name, left, hleft, heq, hgoes⟩ := ih (by
        split
        · exact htree.hasDirectory_nil
        · exact hplace) htarget
      exact ⟨directory, name, left, Nat.le_succ_of_le hleft, heq,
        .trans (.link hpiece hnode (by simpa using hgo) hpath) hgoes⟩

/-- The names that lead down to a directory are followed one by one. -/
theorem goesOn_down {names : Place} (hnames : ∀ name ∈ names, IsName name)
    (hdirectory : disk.HasDirectory (place ++ names)) (further : List Bytes) :
    GoesOn disk last links place (names ++ further) links (place ++ names) further := by
  induction names generalizing place with
  | nil =>
      rw [List.append_nil]
      exact .refl
  | cons name names ih =>
      have hsplit : place ++ name :: names = (place ++ [name]) ++ names := by simp
      rw [hsplit] at hdirectory ⊢
      obtain ⟨entries, hnode⟩ := hasDirectory_iff.mp hdirectory.of_append
      exact .trans (.directory (hnames name List.mem_cons_self).isSought hnode)
        (ih (fun other hother => hnames other (List.mem_cons_of_mem name hother)) hdirectory)

end Disk

end JavadocNames
