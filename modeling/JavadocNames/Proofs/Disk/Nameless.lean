import JavadocNames.Proofs.Disk.Entries

/-!
# Paths without a file name

Slashes and steps `/.` at the end of a path do not count.  What is left of a path has no file
name when it is empty, when it is `.` alone, or when it ends in the step `..`.  On a file tree
such a path leads to a directory or nowhere, so no file can be read by it.
-/

namespace JavadocNames

namespace Path

/-! ## The end of a path -/

/-- The bytes of a path without the slashes and the steps `/.` at their end. -/
def trimEnd : Bytes → Bytes
  | [] => []
  | b :: rest =>
      if b = slash ∧ (trimEnd rest = [] ∨ trimEnd rest = [dot]) then []
      else b :: trimEnd rest

/-- Behind the last slash that is left there is more than nothing and more than `.`. -/
theorem ne_of_trimEnd_eq {bytes front last : Bytes}
    (h : trimEnd bytes = front ++ slash :: last) : last ≠ [] ∧ last ≠ [dot] := by
  induction bytes generalizing front with
  | nil => simp [trimEnd] at h
  | cons b rest ih =>
      rw [trimEnd] at h
      split at h
      case isTrue => simp at h
      case isFalse hkept =>
          cases front with
          | nil =>
              obtain ⟨rfl, rfl⟩ := List.cons.inj h
              simpa using hkept
          | cons c front =>
              obtain ⟨-, hrest⟩ := List.cons.inj h
              exact ih hrest

/-- What is trimmed leads nowhere. -/
theorem moves_trimEnd (path : Path) : (Path.mk (trimEnd path.bytes)).moves = path.moves := by
  -- The first piece is joined to what comes before it, so it must stay as it is.
  have hcut : ∀ bytes : Bytes, ∃ first rest rest', cut bytes = first :: rest ∧
      cut (trimEnd bytes) = first :: rest' ∧
      (rest'.filter (· ≠ [])).filter (· ≠ [dot]) = (rest.filter (· ≠ [])).filter (· ≠ [dot]) := by
    intro bytes
    induction bytes with
    | nil => exact ⟨[], [], [], rfl, rfl, rfl⟩
    | cons b bytes ih =>
        obtain ⟨first, rest, rest', hall, htrim, hsame⟩ := ih
        rw [trimEnd]
        split
        case isTrue hcond =>
            obtain ⟨rfl, hend⟩ := hcond
            refine ⟨[], first :: rest, [], by simp [cut, hall], rfl, ?_⟩
            have hnone : rest' = [] ∧ (first = [] ∨ first = [dot]) := by
              rcases hend with hnil | hdot
              · rw [hnil, cut] at htrim
                obtain ⟨rfl, rfl⟩ := List.cons.inj htrim
                exact ⟨rfl, .inl rfl⟩
              · rw [hdot] at htrim
                have hpiece : cut [dot] = [[dot]] := cut_of_slash_not_mem (by decide)
                rw [hpiece] at htrim
                obtain ⟨rfl, rfl⟩ := List.cons.inj htrim
                exact ⟨rfl, .inr rfl⟩
            obtain ⟨rfl, rfl | rfl⟩ := hnone
            · simpa using hsame
            · simpa using hsame
        case isFalse hkept =>
            by_cases hb : b = slash
            · refine ⟨[], first :: rest, first :: rest', by simp [cut, hb, hall],
                by simp [cut, hb, htrim], ?_⟩
              rw [List.filter_cons, List.filter_cons]
              split
              · rw [List.filter_cons, List.filter_cons, hsame]
              · exact hsame
            · exact ⟨b :: first, rest, rest', by simp [cut, hb, hall],
                by simp [cut, hb, htrim], hsame⟩
  obtain ⟨first, rest, rest', hall, htrim, hsame⟩ := hcut path.bytes
  rw [moves, moves, pieces, pieces, hall, htrim, List.filter_cons, List.filter_cons]
  split
  · rw [List.filter_cons, List.filter_cons, hsame]
  · exact hsame

/-- A path has no file name when nothing is left of it but `.` or a last step `..`. -/
def IsNameless (path : Path) : Prop :=
  trimEnd path.bytes = [] ∨ trimEnd path.bytes = [dot] ∨ trimEnd path.bytes = [dot, dot] ∨
    [slash, dot, dot] <:+ trimEnd path.bytes

instance (path : Path) : Decidable path.IsNameless :=
  inferInstanceAs (Decidable (_ ∨ _ ∨ _ ∨ _))

/-- A step `..` stands last when it stands behind the last slash. -/
theorem dots_suffix_iff {front last : Bytes} (hlast : slash ∉ last) :
    [slash, dot, dot] <:+ front ++ slash :: last ↔ last = [dot, dot] := by
  constructor
  · rintro ⟨above, habove⟩
    have hcut : cut above ++ [[dot, dot]] = cut front ++ [last] := by
      rw [← cut_of_slash_not_mem hlast, ← cut_append_slash, ← habove]
      exact (cut_append_slash above [dot, dot]).symm
    exact (List.append_singleton_inj.mp hcut).2.symm
  · rintro rfl
    exact List.suffix_append _ _

theorem fileName?_eq_none_iff (path : Path) : path.fileName? = none ↔ path.IsNameless := by
  rw [fileName?_eq, ← moves_trimEnd, IsNameless]
  by_cases hmem : slash ∈ trimEnd path.bytes
  · obtain ⟨back, front, hsplit, hback⟩ := List.eq_append_cons_of_mem (List.mem_reverse.mpr hmem)
    have htrim : trimEnd path.bytes = front.reverse ++ slash :: back.reverse := by
      rw [← List.reverse_reverse (trimEnd path.bytes), hsplit]
      simp
    have hlast : slash ∉ back.reverse := by simpa using hback
    generalize back.reverse = last at htrim hlast
    -- The last piece is what stands behind the last slash, and it leads somewhere.
    obtain ⟨hne, hdot⟩ := ne_of_trimEnd_eq htrim
    have hmoves : (Path.mk (trimEnd path.bytes)).moves.getLast? = some last := by
      rw [moves, pieces, htrim, cut_append_slash, cut_of_slash_not_mem hlast]
      simp [hne, hdot]
    have hnot : ∀ bytes : Bytes, slash ∉ bytes → trimEnd path.bytes ≠ bytes :=
      fun bytes hbytes heq => hbytes (heq ▸ hmem)
    rw [hmoves]
    simp only [hnot [] (by decide), hnot [dot] (by decide), hnot [dot, dot] (by decide),
      false_or]
    rw [htrim, dots_suffix_iff hlast]
    simp [Option.filter]
  · have hsuffix : ¬ [slash, dot, dot] <:+ trimEnd path.bytes :=
      fun h => hmem (h.subset List.mem_cons_self)
    rw [moves, pieces, cut_of_slash_not_mem hmem]
    by_cases hnil : trimEnd path.bytes = []
    · simp [hnil]
    by_cases hdot : trimEnd path.bytes = [dot]
    · simp [hdot]
    · simp [hnil, hdot, hsuffix, Option.filter]

end Path

namespace Disk

variable {disk : Disk} {last : Bool} {links : Nat} {place : Place} {slashed : Bool}
variable {pieces : List Bytes}

/-! ## Where such a path leads -/

/-- No piece leads anywhere, or the last one that does leads up. -/
def EndsAbove (pieces : List Bytes) : Prop :=
  ∀ piece ∈ (pieces.filter (· ≠ [Path.dot])).getLast?, piece = [Path.dot, Path.dot]

theorem endsAbove_cons {piece : Bytes} {rest : List Bytes} (hpiece : piece ≠ [Path.dot])
    (h : EndsAbove (piece :: rest)) :
    EndsAbove rest ∧ (rest.filter (· ≠ [Path.dot]) = [] → piece = [Path.dot, Path.dot]) := by
  rw [EndsAbove, List.filter_cons_of_pos (by simpa using hpiece), List.getLast?_cons] at h
  constructor
  · intro other hother
    refine h other ?_
    rw [Option.mem_def.mp hother]
    rfl
  · intro hrest
    exact h piece (by rw [hrest]; rfl)

/-- Pieces that end above lead to a directory, if they lead anywhere. -/
theorem Leads.exists_directory {target : Target}
    (h : Leads disk last links place slashed pieces target) (htree : disk.IsTree)
    (hplace : disk.HasDirectory place) (hpieces : EndsAbove pieces) :
    ∃ place' entries slashed', target = .entry place' (.directory entries) slashed' := by
  -- A name that is looked up last does not lead up.
  have hnot : ∀ {piece : Bytes}, IsSought piece → ¬ EndsAbove [piece] := fun hpiece hends =>
    hpiece.ne_dots ((endsAbove_cons hpiece.ne_dot hends).2 rfl)
  induction h with
  | @here links place slashed node hnode =>
      obtain ⟨entries, hentries⟩ := hasDirectory_iff.mp hplace
      obtain rfl := Option.some.inj (hnode.symm.trans hentries)
      exact ⟨place, entries, slashed, rfl⟩
  | dot _ ih => exact ih hplace (by simpa [EndsAbove] using hpieces)
  | dots _ ih => exact ih hplace.dropLast (endsAbove_cons (by decide) hpieces).1
  | free hpiece => exact absurd hpieces (hnot hpiece)
  | file hpiece => exact absurd hpieces (hnot hpiece)
  | stay hpiece => exact absurd hpieces (hnot hpiece)
  | directory hpiece hnode _ ih =>
      exact ih (hasDirectory_iff.mpr ⟨_, hnode⟩) (endsAbove_cons hpiece.ne_dot hpieces).1
  | @link links place slashed piece rest path target hpiece hnode hgo hpath _ ih =>
      obtain ⟨hrest, hnone⟩ := endsAbove_cons hpiece.ne_dot hpieces
      have hne : rest.filter (· ≠ [Path.dot]) ≠ [] := fun hnil => hpiece.ne_dots (hnone hnil)
      refine ih ?_ ?_
      · split
        · exact htree.hasDirectory_nil
        · exact hplace
      · intro other hother
        rw [List.filter_append, List.getLast?_append, List.getLast?_eq_some_getLast hne] at hother
        exact hrest other (by rwa [List.getLast?_eq_some_getLast hne])

/-- A path without a file name cannot be read. -/
theorem exists_read_eq_error (htree : disk.IsTree) {path : Path} (h : path.IsNameless) :
    ∃ cause, disk.read path = .error cause := by
  have hends : EndsAbove path.pieces := by
    intro piece hpiece
    have hname := path.fileName?_eq_none_iff.mpr h
    rw [Path.fileName?_eq, Path.moves, Option.mem_def.mp hpiece] at hname
    simpa [Option.filter] using hname
  cases hstatus : disk.status path with
  | error cause => exact ⟨cause, by rw [read, hstatus]⟩
  | ok node =>
      obtain ⟨place, slashed, hresolve, -⟩ := status_eq_ok_iff.mp hstatus
      have hleads := (leads_of_resolve hresolve).2.2.2
      obtain ⟨place', entries, slashed', htarget⟩ := hleads.exists_directory htree
        (htree.hasDirectory_start path) hends
      obtain ⟨-, rfl, -⟩ := Target.entry.inj htarget
      exact ⟨.isADirectory, by rw [read, hstatus]⟩

end Disk

end JavadocNames
