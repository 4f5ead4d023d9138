import JavadocNames.Disk.Listing
import JavadocNames.Proofs.Disk.Tree

/-!
# Paths of entries

An entry below a path is spelled by joining the names that lead to it, one by one.  The
path that comes out has the pieces of the one at its front and then these names, so it
tells which names they are, and its file name is the last of them.
-/

namespace JavadocNames

namespace Path

/-! ## Pieces -/

theorem cut_ne_nil (bytes : Bytes) : cut bytes ≠ [] := by
  cases bytes with
  | nil => exact List.cons_ne_nil _ _
  | cons b rest =>
      rw [cut]
      split
      · exact List.cons_ne_nil _ _
      · split <;> exact List.cons_ne_nil _ _

theorem cut_append_slash (front back : Bytes) :
    cut (front ++ slash :: back) = cut front ++ cut back := by
  induction front with
  | nil => simp [cut]
  | cons b front ih =>
      rw [List.cons_append, cut, cut, ih]
      split
      · rfl
      · cases hfront : cut front with
        | nil => exact absurd hfront (cut_ne_nil front)
        | cons piece pieces => rfl

theorem cut_of_slash_not_mem {bytes : Bytes} (h : slash ∉ bytes) : cut bytes = [bytes] := by
  induction bytes with
  | nil => rfl
  | cons b rest ih =>
      have hb : b ≠ slash := fun heq => h (heq ▸ List.mem_cons_self)
      rw [cut, if_neg hb, ih fun hmem => h (List.mem_cons_of_mem b hmem)]

theorem of_mem_cut {bytes piece : Bytes} (h : piece ∈ cut bytes) :
    slash ∉ piece ∧ ∀ b ∈ piece, b ∈ bytes := by
  induction bytes generalizing piece with
  | nil =>
      obtain rfl := List.mem_singleton.mp h
      simp
  | cons first rest ih =>
      rw [cut] at h
      split at h
      case isTrue =>
          rcases List.mem_cons.mp h with rfl | hmem
          · simp
          · obtain ⟨hslash, hbytes⟩ := ih hmem
            exact ⟨hslash, fun b hb => List.mem_cons_of_mem _ (hbytes b hb)⟩
      case isFalse hfirst =>
          cases hrest : cut rest with
          | nil => exact absurd hrest (cut_ne_nil rest)
          | cons start others =>
              rw [hrest] at h ih
              rcases List.mem_cons.mp h with rfl | hmem
              · obtain ⟨hslash, hbytes⟩ := ih List.mem_cons_self
                refine ⟨?_, ?_⟩
                · rw [List.mem_cons, not_or]
                  exact ⟨fun heq => hfirst heq.symm, hslash⟩
                · rintro b (_ | ⟨_, hb⟩)
                  · exact List.mem_cons_self
                  · exact List.mem_cons_of_mem _ (hbytes b hb)
              · obtain ⟨hslash, hbytes⟩ := ih (List.mem_cons_of_mem _ hmem)
                exact ⟨hslash, fun b hb => List.mem_cons_of_mem _ (hbytes b hb)⟩

/-- A piece of a path is not empty, holds no slash, and is spelled by bytes of the path. -/
theorem of_mem_pieces {path : Path} {piece : Bytes} (h : piece ∈ path.pieces) :
    piece ≠ [] ∧ slash ∉ piece ∧ ∀ b ∈ piece, b ∈ path.bytes := by
  obtain ⟨hmem, hne⟩ := List.mem_filter.mp h
  exact ⟨by simpa using hne, of_mem_cut hmem⟩

/-- The last piece of a path ends as the path does. -/
theorem exists_getLast?_pieces {path : Path} {front : Bytes} {b : UInt8}
    (hpath : path.bytes = front ++ [b]) (hb : b ≠ slash) :
    ∃ stem, path.pieces.getLast? = some (stem ++ [b]) := by
  have hcut : ∀ front : Bytes, ∃ above stem, cut (front ++ [b]) = above ++ [stem ++ [b]] := by
    intro front
    induction front with
    | nil => exact ⟨[], [], by simp [cut, hb]⟩
    | cons c front ih =>
        obtain ⟨above, stem, hrest⟩ := ih
        rw [List.cons_append, cut, hrest]
        split
        · exact ⟨[] :: above, stem, rfl⟩
        · cases above with
          | nil => exact ⟨[], c :: stem, rfl⟩
          | cons piece above => exact ⟨(c :: piece) :: above, stem, rfl⟩
  obtain ⟨above, stem, hfront⟩ := hcut front
  refine ⟨stem, ?_⟩
  rw [pieces, hpath, hfront, List.filter_append, List.filter_cons_of_pos (by simp),
    List.filter_nil, List.getLast?_concat]

/-! ## Joining a name -/

variable {path : Path} {name : Bytes}

/-- A name is joined behind a slash, which is there already or comes in between. -/
theorem exists_join_eq (hpath : path.bytes ≠ []) (hname : slash ∉ name) :
    ∃ front, (path.join ⟨name⟩).bytes = front ++ slash :: name ∧
      (path.bytes = front ∨ path.bytes = front ++ [slash]) := by
  have hrelative : (Path.mk name).isAbsolute = false := by
    rw [isAbsolute, decide_eq_false_iff_not]
    intro hhead
    exact hname (List.mem_of_mem_head? hhead)
  rw [join, hrelative, if_neg Bool.false_ne_true]
  by_cases hslash : path.endsWithSlash = true
  · rw [endsWithSlash, decide_eq_true_eq] at hslash
    obtain ⟨front, hfront⟩ := List.getLast?_eq_some_iff.mp hslash
    refine ⟨front, ?_, .inr hfront⟩
    simp [endsWithSlash, hfront]
  · refine ⟨path.bytes, ?_, .inl rfl⟩
    simp [hpath, hslash]

theorem join_ne_nil (hpath : path.bytes ≠ []) (hname : Disk.IsName name) :
    (path.join ⟨name⟩).bytes ≠ [] := by
  obtain ⟨front, hjoin, -⟩ := exists_join_eq hpath hname.slash_not_mem
  simp [hjoin]

theorem length_le_length_join (hpath : path.bytes ≠ []) (hname : Disk.IsName name) :
    path.bytes.length + name.length ≤ (path.join ⟨name⟩).bytes.length := by
  obtain ⟨front, hjoin, hfront⟩ := exists_join_eq hpath hname.slash_not_mem
  rw [hjoin, List.length_append, List.length_cons]
  rcases hfront with heq | heq
  · rw [heq]
    omega
  · rw [heq, List.length_append, List.length_singleton]
    omega

theorem pieces_join (hpath : path.bytes ≠ []) (hname : Disk.IsName name) :
    (path.join ⟨name⟩).pieces = path.pieces ++ [name] := by
  obtain ⟨front, hjoin, hfront⟩ := exists_join_eq hpath hname.slash_not_mem
  have hlast : [name].filter (· ≠ []) = [name] := by simp [hname.ne_nil]
  rw [pieces, hjoin, cut_append_slash, List.filter_append,
    cut_of_slash_not_mem hname.slash_not_mem, hlast]
  rcases hfront with hpath | hpath
  · rw [pieces, hpath]
  · rw [pieces, hpath, cut_append_slash, List.filter_append]
    simp [cut]

theorem isAbsolute_join (hpath : path.bytes ≠ []) (hname : Disk.IsName name) :
    (path.join ⟨name⟩).isAbsolute = path.isAbsolute := by
  obtain ⟨front, hjoin, hfront⟩ := exists_join_eq hpath hname.slash_not_mem
  rw [isAbsolute, isAbsolute, hjoin]
  rcases hfront with heq | heq
  · cases front with
    | nil => exact absurd heq hpath
    | cons b front => simp [heq]
  · cases front <;> simp [heq]

theorem endsWithSlash_join (hpath : path.bytes ≠ []) (hname : Disk.IsName name) :
    (path.join ⟨name⟩).endsWithSlash = false := by
  obtain ⟨front, hjoin, -⟩ := exists_join_eq hpath hname.slash_not_mem
  rw [endsWithSlash, hjoin, decide_eq_false_iff_not, List.getLast?_append,
    List.getLast?_cons]
  intro hlast
  cases hrest : name.getLast? with
  | none => exact hname.ne_nil (List.getLast?_eq_none_iff.mp hrest)
  | some b =>
      rw [hrest] at hlast
      obtain rfl : b = slash := by simpa using hlast
      exact hname.slash_not_mem (List.mem_of_getLast? hrest)

theorem nul_not_mem_join (hpath : path.bytes ≠ []) (hnul : 0 ∉ path.bytes)
    (hname : Disk.IsName name) : 0 ∉ (path.join ⟨name⟩).bytes := by
  obtain ⟨front, hjoin, hfront⟩ := exists_join_eq hpath hname.slash_not_mem
  have hnulFront : 0 ∉ front := by
    rcases hfront with heq | heq
    · exact heq ▸ hnul
    · exact fun hmem => hnul (heq ▸ List.mem_append_left _ hmem)
  rw [hjoin, List.mem_append, List.mem_cons]
  rintro (hmem | hzero | hmem)
  · exact hnulFront hmem
  · exact absurd hzero (by decide)
  · exact hname.nul_not_mem hmem

/-- The pieces of a path that lead anywhere, which are all but `.`. -/
def moves (path : Path) : List Bytes :=
  path.pieces.filter (· ≠ [dot])

/-- The last component of a path is read off its last piece that leads anywhere. -/
theorem fileName?_eq (path : Path) :
    path.fileName? = path.moves.getLast?.filter (· ≠ [dot, dot]) := by
  have hcurrent : ∀ piece, Component.ofPiece piece ≠ .current ↔ piece ≠ [dot] := by
    intro piece
    rw [Component.ofPiece]
    split
    · simp [*]
    · split <;> simp [*]
  have hsteps : (path.pieces.map Component.ofPiece).filter (· ≠ .current) =
      path.moves.map Component.ofPiece := by
    rw [List.filter_map, moves]
    simp only [Function.comp_def, hcurrent]
  have hfront : ∃ front, path.components = front ++ path.moves.map Component.ofPiece ∧
      ∀ c ∈ front.getLast?, ∀ b, c ≠ .name b := by
    rw [components, hsteps]
    split
    · exact ⟨[.root], rfl, by simp⟩
    split
    · exact ⟨[.current], rfl, by simp⟩
    · exact ⟨[], rfl, by simp⟩
  obtain ⟨front, hcomponents, hname⟩ := hfront
  rw [fileName?, hcomponents, List.getLast?_append, List.getLast?_map]
  cases hpiece : path.moves.getLast? with
  | none =>
      -- No piece leads anywhere, so the last component is the one at the front, if any.
      cases hlast : front.getLast? with
      | none => rfl
      | some c =>
          cases c with
          | name b => exact absurd rfl (hname _ hlast b)
          | root | current | parent => rfl
  | some piece =>
      have hne : piece ≠ [dot] := by
        simpa using (List.mem_filter.mp (List.mem_of_getLast? hpiece)).2
      by_cases hdots : piece = [dot, dot]
      · simp [Component.ofPiece, hdots, Option.filter]
      · simp [Component.ofPiece, hdots, hne, Option.filter]

theorem fileName?_eq_of_pieces {above : List Bytes} (hpieces : path.pieces = above ++ [name])
    (hname : Disk.IsName name) : path.fileName? = some name := by
  rw [fileName?_eq, moves, hpieces, List.filter_append]
  simp [hname.ne_dot, hname.ne_dots]

theorem fileName?_join (hpath : path.bytes ≠ []) (hname : Disk.IsName name) :
    (path.join ⟨name⟩).fileName? = some name :=
  fileName?_eq_of_pieces (pieces_join hpath hname) hname

/-! ## Steps that stay -/

/-- A path behind a number of steps `./`, which stay where they are. -/
def dotted (path : Path) : Nat → Path
  | 0 => path
  | steps + 1 => ⟨dot :: slash :: (dotted path steps).bytes⟩

theorem length_dotted (path : Path) (steps : Nat) :
    (path.dotted steps).bytes.length = 2 * steps + path.bytes.length := by
  induction steps with
  | zero => exact (Nat.zero_add _).symm
  | succ steps ih =>
      simp only [dotted, List.length_cons, ih]
      omega

theorem pieces_dotted (path : Path) (steps : Nat) :
    (path.dotted steps).pieces = List.replicate steps [dot] ++ path.pieces := by
  induction steps with
  | zero => rfl
  | succ steps ih =>
      have hcut : cut (path.dotted (steps + 1)).bytes = [dot] :: cut (path.dotted steps).bytes :=
        cut_append_slash [dot] _
      rw [pieces, hcut, List.filter_cons_of_pos (by decide), ← pieces, ih, List.replicate_succ,
        List.cons_append]

theorem isAbsolute_dotted (h : path.isAbsolute = false) (steps : Nat) :
    (path.dotted steps).isAbsolute = false := by
  cases steps with
  | zero => exact h
  | succ steps => rfl

theorem nul_mem_dotted_iff (steps : Nat) : 0 ∈ (path.dotted steps).bytes ↔ 0 ∈ path.bytes := by
  induction steps with
  | zero => exact .rfl
  | succ steps ih =>
      have hdot : ¬ (0 : UInt8) = dot := by decide
      have hslash : ¬ (0 : UInt8) = slash := by decide
      simp only [dotted, List.mem_cons, ih, hdot, hslash, false_or]

theorem dotted_ne_nil (h : path.bytes ≠ []) (steps : Nat) : (path.dotted steps).bytes ≠ [] := by
  cases steps with
  | zero => exact h
  | succ steps => exact List.cons_ne_nil _ _

theorem endsWithSlash_dotted (h : path.bytes ≠ []) (steps : Nat) :
    (path.dotted steps).endsWithSlash = path.endsWithSlash := by
  induction steps with
  | zero => rfl
  | succ steps ih =>
      rw [← ih, endsWithSlash, endsWithSlash, dotted, List.getLast?_cons, List.getLast?_cons]
      cases hlast : (path.dotted steps).bytes.getLast? with
      | none => exact absurd (List.getLast?_eq_none_iff.mp hlast) (dotted_ne_nil h steps)
      | some b => rfl

/-! ## Extensions -/

theorem cutLastDot?_eq_none_iff {bytes : Bytes} : cutLastDot? bytes = none ↔ dot ∉ bytes := by
  induction bytes with
  | nil => simp [cutLastDot?]
  | cons b rest ih =>
      rw [cutLastDot?]
      cases hrest : cutLastDot? rest with
      | some parts => simp [hrest] at ih; simp [ih]
      | none =>
          have hnot : dot ∉ rest := ih.mp hrest
          by_cases hb : b = dot
          · simp [hb]
          · simp [hb, hnot, Ne.symm hb]

/-- A byte string is cut at its last dot. -/
theorem cutLastDot?_eq_some_iff {bytes stem extension : Bytes} :
    cutLastDot? bytes = some (stem, extension) ↔
      bytes = stem ++ dot :: extension ∧ dot ∉ extension := by
  induction bytes generalizing stem extension with
  | nil => simp [cutLastDot?]
  | cons b rest ih =>
      rw [cutLastDot?]
      cases hrest : cutLastDot? rest with
      | none =>
          have hnot := cutLastDot?_eq_none_iff.mp hrest
          constructor
          · intro h
            by_cases hb : b = dot
            · obtain ⟨rfl, rfl⟩ : [] = stem ∧ rest = extension := by simpa [hb] using h
              exact ⟨by rw [hb, List.nil_append], hnot⟩
            · simp [hb] at h
          · rintro ⟨h, -⟩
            cases stem with
            | nil =>
                obtain ⟨rfl, rfl⟩ := List.cons.inj h
                simp
            | cons c stem =>
                obtain ⟨-, rfl⟩ := List.cons.inj h
                exact absurd (List.mem_append_right _ List.mem_cons_self) hnot
      | some parts =>
          obtain ⟨inner, last⟩ := parts
          obtain ⟨hinner, hlast⟩ := ih.mp hrest
          constructor
          · intro h
            obtain ⟨rfl, rfl⟩ : b :: inner = stem ∧ last = extension := by simpa using h
            exact ⟨by rw [hinner, List.cons_append], hlast⟩
          · rintro ⟨h, hextension⟩
            cases stem with
            | nil =>
                obtain ⟨-, rfl⟩ := List.cons.inj h
                rw [hinner] at hextension
                exact absurd (List.mem_append_right _ List.mem_cons_self) hextension
            | cons c stem =>
                obtain ⟨rfl, hsome⟩ := List.cons.inj h
                have hparts := ih.mpr ⟨hsome, hextension⟩
                rw [hrest] at hparts
                obtain ⟨rfl, rfl⟩ := Prod.mk.inj (Option.some.inj hparts)
                rfl

end Path

namespace Disk

/-- The end of the name of a page. -/
def pageEnding : Bytes :=
  Path.dot :: pageExtension

/-- Only the end of the name of a page goes, whatever dots come before it. -/
theorem splitName_append_pageEnding {stem : Bytes} (hne : stem ≠ []) :
    Path.splitName (stem ++ pageEnding) = (stem, some pageExtension) := by
  have hcut : Path.cutLastDot? (stem ++ pageEnding) = some (stem, pageExtension) :=
    Path.cutLastDot?_eq_some_iff.mpr ⟨rfl, by decide⟩
  rw [Path.splitName, hcut]
  cases stem with
  | nil => contradiction
  | cons b stem => rfl

/-- A path is that of a page when its file name ends in `.html` and something comes before
that. -/
theorem isPagePath_iff {path : Path} :
    isPagePath path ↔ ∃ stem ≠ [], path.fileName? = some (stem ++ pageEnding) := by
  have hsplit : ∀ name, (Path.splitName name).2 = some pageExtension ↔
      ∃ stem ≠ [], name = stem ++ pageEnding := by
    intro name
    constructor
    · intro h
      rw [Path.splitName] at h
      split at h
      · contradiction
      · contradiction
      case h_3 stem last hne hcut =>
          obtain rfl := Option.some.inj h
          exact ⟨stem, hne, (Path.cutLastDot?_eq_some_iff.mp hcut).1⟩
    · rintro ⟨stem, hne, rfl⟩
      rw [splitName_append_pageEnding hne]
  rw [isPagePath, decide_eq_true_eq, Path.extension?, Option.bind_eq_some_iff]
  simp only [hsplit]
  constructor
  · rintro ⟨name, hname, stem, hne, rfl⟩
    exact ⟨stem, hne, hname⟩
  · rintro ⟨stem, hne, hname⟩
    exact ⟨_, hname, stem, hne, rfl⟩

/-! ## Entries below a path -/

/-- The path of an entry, by the names that lead to it from below another path. -/
def entryPath (root : Path) (names : Place) : Path :=
  names.foldl (fun path name => path.join ⟨name⟩) root

theorem entryPath_cons (root : Path) (name : Bytes) (rest : Place) :
    entryPath root (name :: rest) = entryPath (root.join ⟨name⟩) rest := rfl

theorem entryPath_concat (root : Path) (names : Place) (name : Bytes) :
    entryPath root (names ++ [name]) = (entryPath root names).join ⟨name⟩ :=
  List.foldl_append

variable {root : Path}

theorem entryPath_ne_nil (hroot : root.bytes ≠ []) {names : Place}
    (hnames : ∀ name ∈ names, IsName name) : (entryPath root names).bytes ≠ [] := by
  induction names generalizing root with
  | nil => exact hroot
  | cons name rest ih =>
      exact ih (Path.join_ne_nil hroot (hnames name List.mem_cons_self))
        fun other hother => hnames other (List.mem_cons_of_mem name hother)

theorem nul_not_mem_entryPath (hroot : root.bytes ≠ []) (hnul : 0 ∉ root.bytes) {names : Place}
    (hnames : ∀ name ∈ names, IsName name) : 0 ∉ (entryPath root names).bytes := by
  induction names generalizing root with
  | nil => exact hnul
  | cons name rest ih =>
      have hname := hnames name List.mem_cons_self
      exact ih (Path.join_ne_nil hroot hname) (Path.nul_not_mem_join hroot hnul hname)
        fun other hother => hnames other (List.mem_cons_of_mem name hother)

theorem isAbsolute_entryPath (hroot : root.bytes ≠ []) {names : Place}
    (hnames : ∀ name ∈ names, IsName name) :
    (entryPath root names).isAbsolute = root.isAbsolute := by
  induction names generalizing root with
  | nil => rfl
  | cons name rest ih =>
      have hname := hnames name List.mem_cons_self
      rw [entryPath_cons, ih (Path.join_ne_nil hroot hname)
        fun other hother => hnames other (List.mem_cons_of_mem name hother),
        Path.isAbsolute_join hroot hname]

theorem pieces_entryPath (hroot : root.bytes ≠ []) {names : Place}
    (hnames : ∀ name ∈ names, IsName name) :
    (entryPath root names).pieces = root.pieces ++ names := by
  induction names generalizing root with
  | nil => exact (List.append_nil _).symm
  | cons name rest ih =>
      have hname := hnames name List.mem_cons_self
      rw [entryPath_cons, ih (Path.join_ne_nil hroot hname)
        fun other hother => hnames other (List.mem_cons_of_mem name hother),
        Path.pieces_join hroot hname, List.append_assoc, List.singleton_append]

theorem fileName?_entryPath_concat (hroot : root.bytes ≠ []) {names : Place} {name : Bytes}
    (hnames : ∀ name ∈ names, IsName name) (hname : IsName name) :
    (entryPath root (names ++ [name])).fileName? = some name := by
  rw [entryPath_concat]
  exact Path.fileName?_join (entryPath_ne_nil hroot hnames) hname

/-- The file name of an entry is the last name that leads to it. -/
theorem fileName?_entryPath (hroot : root.bytes ≠ []) {names : Place}
    (hnames : ∀ name ∈ names, IsName name) :
    (entryPath root names).fileName? = names.getLast?.or root.fileName? := by
  rcases List.eq_nil_or_concat names with rfl | ⟨above, name, rfl⟩
  · rfl
  · rw [List.concat_eq_append] at hnames ⊢
    obtain ⟨habove, hname⟩ := List.forall_mem_append.mp hnames
    rw [fileName?_entryPath_concat hroot habove (List.forall_mem_singleton.mp hname),
      List.getLast?_concat, Option.some_or]

/-- An entry is told by its path. -/
theorem entryPath_injective (hroot : root.bytes ≠ []) {names others : Place}
    (hnames : ∀ name ∈ names, IsName name) (hothers : ∀ name ∈ others, IsName name)
    (h : entryPath root names = entryPath root others) : names = others := by
  have hpieces := congrArg Path.pieces h
  rw [pieces_entryPath hroot hnames, pieces_entryPath hroot hothers] at hpieces
  exact List.append_cancel_left hpieces

end Disk

end JavadocNames
