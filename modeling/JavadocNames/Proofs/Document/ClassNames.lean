import JavadocNames.Document
import JavadocNames.Proofs.Disk.Enumeration
import JavadocNames.Proofs.Disk.Nameless

/-!
# Class names of documents

The class of a page is its file name without `.html`, whatever dots there are before that.
A path names no class only when it has no file name; the pages that are found all have one,
and a document is never refused for the lack of one, since a path without a file name cannot
be read in the first place.
-/

namespace JavadocNames

theorem Utf8.decodeLossy_ne_nil {bytes : Bytes} (h : bytes ≠ []) : decodeLossy bytes ≠ [] := by
  cases bytes with
  | nil => contradiction
  | cons first rest =>
      rw [decodeLossy, decodeFrom, List.map_cons]
      exact List.cons_ne_nil _ _

namespace Path

/-- A name that is joined to any path is the last piece that leads somewhere. -/
theorem getLast?_moves_join (directory : Path) {name : Bytes} (hne : name ≠ [])
    (hslash : slash ∉ name) (hdot : name ≠ [dot]) :
    (directory.join ⟨name⟩).moves.getLast? = some name := by
  have hcut : ∃ above, cut (directory.join ⟨name⟩).bytes = above ++ [name] := by
    by_cases hnil : directory.bytes = []
    · have hjoin : (directory.join ⟨name⟩).bytes = name := by
        rw [join]
        split
        · rfl
        · simp [hnil]
      exact ⟨[], by rw [hjoin, cut_of_slash_not_mem hslash, List.nil_append]⟩
    · obtain ⟨front, hjoin, -⟩ := exists_join_eq hnil hslash
      exact ⟨cut front, by rw [hjoin, cut_append_slash, cut_of_slash_not_mem hslash]⟩
  obtain ⟨above, habove⟩ := hcut
  rw [moves, pieces, habove]
  simp [hne, hdot]

end Path

open Disk (pageEnding)

variable {path : Path} {stem : Bytes}

theorem className_of_fileName? (hne : stem ≠ [])
    (hname : path.fileName? = some (stem ++ pageEnding)) :
    className path = .ok (Utf8.decodeLossy stem) := by
  rw [className, Path.stem?, hname, Option.map_some, Disk.splitName_append_pageEnding hne]

theorem className_join (directory : Path) (hne : stem ≠ []) (hslash : Path.slash ∉ stem) :
    className (directory.join ⟨stem ++ pageEnding⟩) = .ok (Utf8.decodeLossy stem) := by
  have hlength : ∀ bytes : Bytes, bytes.length < 5 → stem ++ pageEnding ≠ bytes := by
    rintro bytes hshort rfl
    rw [List.length_append] at hshort
    have hending : pageEnding.length = 5 := by decide
    omega
  have hending : Path.slash ∉ pageEnding := by decide
  have hlast := directory.getLast?_moves_join (hlength [] (by decide))
    (by simp [hslash, hending]) (hlength [Path.dot] (by decide))
  refine className_of_fileName? hne ?_
  rw [Path.fileName?_eq, hlast]
  simp [Option.filter, hlength [Path.dot, Path.dot] (by decide)]

theorem className_eq_error_iff {failure : Failure} :
    className path = .error failure ↔ failure = .noFileName path ∧ path.IsNameless := by
  rw [← Path.fileName?_eq_none_iff, className, Path.stem?]
  cases path.fileName? with
  | none => simp [eq_comm]
  | some name => simp

/-- The pages that are found have the names of their classes. -/
theorem className_of_mem_findPages {disk : Disk} {root : Path} {pages : List Path}
    (h : disk.findPages root = .ok pages) (hpage : path ∈ pages) :
    ∃ stem ≠ [], path.fileName? = some (stem ++ pageEnding) ∧
      className path = .ok (Utf8.decodeLossy stem) := by
  obtain ⟨stem, hne, hname⟩ :=
    Disk.isPagePath_iff.mp (Disk.isPagePath_of_mem_findPages h path hpage)
  exact ⟨stem, hne, hname, className_of_fileName? hne hname⟩

/-- A document without a file name is refused as one that cannot be read. -/
theorem Document.load_of_isNameless {disk : Disk} (htree : disk.IsTree) (naming : Naming)
    (h : path.IsNameless) : ∃ cause, load disk naming path = .error (.load path cause) := by
  obtain ⟨cause, hread⟩ := Disk.exists_read_eq_error htree h
  exact ⟨cause, by rw [load, hread]⟩

theorem Document.load_ne_noFileName {disk : Disk} (htree : disk.IsTree) (naming : Naming)
    (path other : Path) : load disk naming path ≠ .error (.noFileName other) := by
  intro hload
  by_cases hnameless : path.IsNameless
  · obtain ⟨cause, hcause⟩ := load_of_isNameless htree naming hnameless
    rw [hcause] at hload
    exact Failure.noConfusion (Except.error.inj hload)
  · -- Any other path has a class name, so what refuses it is the read.
    have hname : ∃ name, JavadocNames.className path = .ok name := by
      cases hclass : JavadocNames.className path with
      | ok name => exact ⟨name, rfl⟩
      | error failure => exact absurd (className_eq_error_iff.mp hclass).2 hnameless
    obtain ⟨name, hname⟩ := hname
    rw [load, hname] at hload
    cases hread : disk.read path with
    | error cause =>
        rw [hread] at hload
        exact Failure.noConfusion (Except.error.inj hload)
    | ok content =>
        rw [hread] at hload
        contradiction

/-- The class name of a page is its file name without `.html`, as it is shown.  A path has no
class name exactly when its last step is not a name: nothing is left of it, or `.` alone, or
a last step `..`, once the slashes and the steps `/.` at its end are gone.  So every page that
is found has a class name, which is not empty; and on a file tree no path whatsoever is
refused for the lack of one, since a path without a file name is refused as one that cannot
be read. -/
theorem class_names_exact {disk : Disk} (htree : disk.IsTree) :
    (∀ (directory : Path) (stem : Bytes), stem ≠ [] → Path.slash ∉ stem →
      className (directory.join ⟨stem ++ Utf8.encode ".html".toList⟩) =
        .ok (Utf8.decodeLossy stem)) ∧
    (∀ (path : Path) (failure : Failure), className path = .error failure ↔
      failure = .noFileName path ∧
        (Path.trimEnd path.bytes ∈ [[], [Path.dot], [Path.dot, Path.dot]] ∨
          [Path.slash, Path.dot, Path.dot] <:+ Path.trimEnd path.bytes)) ∧
    (∀ (root : Path) (pages : List Path), disk.findPages root = .ok pages →
      ∀ page ∈ pages, ∃ stem,
        page.fileName? = some (stem ++ Utf8.encode ".html".toList) ∧
        className page = .ok (Utf8.decodeLossy stem) ∧ Utf8.decodeLossy stem ≠ []) ∧
    ∀ (naming : Naming) (path : Path),
      (∀ other, Document.load disk naming path ≠ .error (.noFileName other)) ∧
      ∀ failure, className path = .error failure →
        ∃ cause, Document.load disk naming path = .error (.load path cause) := by
  have hending : Utf8.encode ".html".toList = pageEnding := by decide
  rw [hending]
  refine ⟨fun directory stem => className_join directory, fun path failure => ?_, ?_, ?_⟩
  · rw [className_eq_error_iff, Path.IsNameless]
    simp only [List.mem_cons, List.not_mem_nil, or_false, or_assoc]
  · intro root pages hpages page hpage
    obtain ⟨stem, hne, hname, hclass⟩ := className_of_mem_findPages hpages hpage
    exact ⟨stem, hname, hclass, Utf8.decodeLossy_ne_nil hne⟩
  · intro naming path
    refine ⟨Document.load_ne_noFileName htree naming path, fun failure hfailure => ?_⟩
    exact Document.load_of_isNameless htree naming (className_eq_error_iff.mp hfailure).2

/-- On a disk with one page, two directories down: a name with dots at its front loses `.html`
only, and the directory above the page, spelled by a step `..`, is refused as one. -/
theorem class_names_exact_nested :
    Disk.Nested.tree.IsTree ∧
      className ((Path.mk Disk.Nested.docs).join ⟨[Path.dot] ++ Utf8.encode ".html".toList⟩) =
        .ok ".".toList ∧
      className ⟨Utf8.encode "docs/api/../.".toList⟩ =
        .error (.noFileName ⟨Utf8.encode "docs/api/../.".toList⟩) ∧
      ∃ cause, Document.load Disk.Nested.tree ⟨"com.robot".toList, .standard⟩
          ⟨Utf8.encode "docs/api/../.".toList⟩ =
        .error (.load ⟨Utf8.encode "docs/api/../.".toList⟩ cause) := by
  obtain ⟨hstem, hnone, -, hload⟩ := class_names_exact Disk.Nested.isTree
  have hnameless := (hnone ⟨Utf8.encode "docs/api/../.".toList⟩ _).mpr ⟨rfl, by decide⟩
  refine ⟨Disk.Nested.isTree, ?_, hnameless, (hload _ _).2 _ hnameless⟩
  exact hstem _ [Path.dot] (by decide) (by decide)

end JavadocNames
