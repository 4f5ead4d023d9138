import JavadocNames.Proofs.Disk.Listing
import JavadocNames.Proofs.Run.Documents

/-!
# Runs as compositions of walks

A run reads all documents, then writes them one by one and counts.  What it leaves
behind is put together from the walks of its documents, each made by itself: their
output in order, their counts added up, and the first failure if failures count.
-/

namespace JavadocNames

variable (disk : Disk) (naming : Naming) (settings : RunSettings) (journal : Journal)

/-! ## Walks -/

namespace Document

/-- A walk over one document alone leaves its records and gives its counts, or it fails as
reading the document does. -/
theorem outcome_walk (path : Path) :
    (walk disk naming settings.format path).outcome journal =
      (Run.outputOf disk naming settings path, (load disk naming path).map Document.tally) := by
  rw [Script.outcome, walk, Script.play_bind, Script.play_ofExcept]
  cases hload : load disk naming path with
  | error failure =>
      rw [Run.outputOf_of_error hload]
      rfl
  | ok document =>
      simp only [Script.play_bind, Sink.empty,
        OutputFormat.play_writeRecords_of_holds (Sink.holds_none _), Script.play_pure]
      rw [Run.outputOf_of_ok hload]
      rfl

variable {disk naming}

/-- A page has a class name, so a document that can be read can be walked. -/
theorem exists_className_of_isPagePath {path : Path} (h : Disk.isPagePath path) :
    ∃ name, JavadocNames.className path = .ok name := by
  rw [Disk.isPagePath, decide_eq_true_eq, Path.extension?, Option.bind_eq_some_iff] at h
  obtain ⟨name, hname, -⟩ := h
  rw [JavadocNames.className, Path.stem?, hname]
  exact ⟨_, rfl⟩

theorem load_of_read_error (naming : Naming) {path : Path} {cause : DiskError}
    (h : disk.read path = .error cause) :
    load disk naming path = .error (.load path cause) := by
  rw [load, h]

theorem exists_load_of_read_ok (naming : Naming) {path : Path}
    (hpath : Disk.isPagePath path) {content : Bytes} (h : disk.read path = .ok content) :
    ∃ document, load disk naming path = .ok document := by
  obtain ⟨name, hname⟩ := exists_className_of_isPagePath hpath
  rw [load, h, hname]
  exact ⟨_, rfl⟩

end Document

/-! ## The documents of a run -/

namespace Run

variable {disk naming settings journal}

theorem isOk_load (path : Path) :
    ((Document.load disk naming path).map Document.tally).isOk = !fails disk naming path := by
  rw [fails]
  cases Document.load disk naming path with
  | ok document => rfl
  | error failure => rfl

theorem talliesOf_eq (pages : List Path) :
    pages.filterMap (fun path =>
      ((Document.load disk naming path).map Document.tally).toOption) =
        talliesOf disk naming pages := by
  have hmap : ∀ path, ((Document.load disk naming path).map Document.tally).toOption =
      (Document.load disk naming path).toOption.map Document.tally := by
    intro path
    cases Document.load disk naming path with
    | ok document => rfl
    | error failure => rfl
  simp only [hmap, talliesOf]

/-- Documents that cannot be read leave nothing. -/
theorem flatMap_outputOf_filter (pages : List Path) :
    (pages.filter fun path => !fails disk naming path).flatMap (outputOf disk naming settings) =
      pages.flatMap (outputOf disk naming settings) := by
  induction pages with
  | nil => rfl
  | cons path rest ih =>
      cases hload : Document.load disk naming path with
      | ok document => simp [fails_of_ok hload, ih]
      | error failure => simp [fails_of_error hload, outputOf_of_error hload, ih]

/-- On a sink without limit a run ends behind its last document, or in front of the first
one that cannot be read when it does not keep going. -/
theorem outcome_script_cases (naming : Naming) {pages : List Path}
    (hfind : disk.findPages settings.root = .ok pages) {shown : Disk}
    (hshown : seen disk journal pages = shown) :
    let outcome := (script disk naming settings).outcome journal
    let head := Text.lineBytes settings.format.header
    ((∀ path ∈ pages, fails shown naming path = true → settings.keepGoing = true) ∧
      outcome = (head ++ pages.flatMap (outputOf shown naming settings),
        .ok (summaryOf shown naming pages))) ∨
    (settings.keepGoing = false ∧ ∃ before path after failure, pages = before ++ path :: after ∧
      (∀ earlier ∈ before, fails shown naming earlier = false) ∧
      Document.load shown naming path = .error failure ∧
      outcome = (head ++ before.flatMap (outputOf shown naming settings), .error failure)) := by
  intro outcome head
  subst hshown
  obtain ⟨done, rest, hpages, hhandled⟩ :=
    exists_handled_script naming (Sink.holds_none _) hfind journal
  have hpassed := hhandled.passed
  have hends := hhandled.ends
  rw [RunSummary.zero_add] at hends
  change Ends _ _ _ _ _ _ _ outcome.1 outcome.2 at hends
  obtain ⟨left, result⟩ := outcome
  cases hends with
  | finished =>
      rw [List.append_nil] at hpages
      subst hpages
      exact .inl ⟨hpassed, rfl⟩
  | @unreadable path later failure hload hstop =>
      refine .inr ⟨hstop, done, path, later, failure, hpages, fun earlier hearlier => ?_, hload,
        rfl⟩
      rw [Bool.eq_false_iff]
      intro hfails
      exact Bool.false_ne_true (hstop.symm.trans (hpassed earlier hearlier hfails))
  | full _ hfull => exact absurd (Sink.holds_none _) hfull

end Run

/-- A line that holds a comment and nothing else. -/
def IsCommentLine (line : Text) : Prop :=
  "  <!-- ".toList <+: line ∧ " -->".toList <:+ line ∧ '\n' ∉ line

theorem isCommentLine_of_mem_header {line : Text} (h : line ∈ OutputFormat.attr.header) :
    IsCommentLine line := by
  have hall : ∀ line ∈ OutputFormat.attr.header,
      "  <!-- ".toList <+: line ∧ " -->".toList <:+ line ∧ '\n' ∉ line := by
    decide +kernel
  exact hall line h

/-- A run is put together from the walks over its documents, each made alone.  The
header comes first: two comments or nothing.  A root that cannot be listed ends the
run there.  A walk fails exactly when the document cannot be read.  The first failure
ends the run, with the output of the documents before it; a run that keeps going
leaves out the documents that fail, and always succeeds.  The documents find the disk with
the first message in the log file, if there is one. -/
theorem run_composes_walks :
    let run := (Run.script disk naming settings).outcome journal
    let header := settings.format.header
    let head := header.flatMap fun line => Utf8.encode (Text.line line)
    (settings.format = .json → header = []) ∧
    (settings.format = .attr → header.length = 2 ∧ ∀ line ∈ header, IsCommentLine line) ∧
    (∀ failure, disk.findPages settings.root = .error failure →
      run = (head, .error failure)) ∧
    ∀ pages, disk.findPages settings.root = .ok pages →
      let seen := (journal.log (Run.foundMessage pages)).save disk
      let walk := fun path => (Document.walk seen naming settings.format path).outcome journal
      let walks := fun path => (walk path).2.isOk
      let outputs := fun pages : List Path => pages.flatMap fun path => (walk path).1
      let tallies := fun pages : List Path => pages.filterMap fun path => (walk path).2.toOption
      (journal.file = none → seen = disk) ∧
      (∀ path ∈ pages, ∀ content, seen.read path = .ok content → walks path) ∧
      (∀ path ∈ pages, ∀ cause, seen.read path = .error cause →
        walk path = ([], .error (.load path cause))) ∧
      (settings.keepGoing = false → (∀ path ∈ pages, walks path) →
        run = (head ++ outputs pages, .ok ⟨pages.length, 0, .sum (tallies pages)⟩)) ∧
      (settings.keepGoing = false → ¬ (∀ path ∈ pages, walks path) →
        ∃ before path after failure, pages = before ++ path :: after ∧
          (∀ earlier ∈ before, walks earlier) ∧ (walk path).2 = .error failure ∧
          run = (head ++ outputs before, .error failure)) ∧
      (settings.keepGoing = true →
        run = (head ++ outputs (pages.filter walks),
          .ok ⟨pages.length, pages.countP (fun path => !walks path),
            .sum (tallies pages)⟩)) := by
  intro run header head
  refine ⟨?_, ?_, ?_, ?_⟩
  · intro hformat
    simp only [header, hformat]
    rfl
  · intro hformat
    simp only [header, hformat]
    exact ⟨rfl, fun _ => isCommentLine_of_mem_header⟩
  · intro failure hpages
    simp only [run, Script.outcome, Run.play_script_of_error (Sink.holds_none _) hpages]
    rfl
  intro pages hpages seen walk walks outputs tallies
  -- What a walk gives is read off the document, so the walks tell the cases of the run.
  have hwalk : ∀ path, walk path = _ :=
    fun path => Document.outcome_walk seen naming settings journal path
  have hwalks : ∀ path, walks path = !Run.fails seen naming path := by
    intro path
    simp only [walks, hwalk]
    exact Run.isOk_load path
  have houtputs : ∀ pages, outputs pages =
      pages.flatMap (Run.outputOf seen naming settings) := by
    intro pages
    simp only [outputs, hwalk]
  have htallies : ∀ pages, tallies pages = Run.talliesOf seen naming pages := by
    intro pages
    simp only [tallies, hwalk]
    exact Run.talliesOf_eq pages
  have hsummary : Run.summaryOf seen naming pages =
      ⟨pages.length, pages.countP (fun path => !walks path), .sum (tallies pages)⟩ := by
    simp only [Run.summaryOf, htallies, hwalks, Bool.not_not, List.countP_eq_length_filter]
  have hshown : Run.seen disk journal pages = seen := rfl
  have hcases := Run.outcome_script_cases naming hpages hshown
  refine ⟨fun hfile => Run.seen_of_file_eq_none hfile pages, ?_, ?_, ?_, ?_, ?_⟩
  · intro path hpath content hread
    obtain ⟨document, hload⟩ := Document.exists_load_of_read_ok naming
      (Disk.isPagePath_of_mem_findPages hpages path hpath) hread
    rw [hwalks, Run.fails_of_ok hload]
    rfl
  · intro path _ cause hread
    have hload := Document.load_of_read_error naming hread
    rw [hwalk, Run.outputOf_of_error hload, hload]
    rfl
  · intro hstop hall
    rcases hcases with ⟨-, hrun⟩ | ⟨-, before, path, after, failure, hsplit, -, hload, -⟩
    · have hcount : pages.countP (fun path => !walks path) = 0 := by
        rw [List.countP_eq_zero]
        intro path hpath
        simp [hall path hpath]
      rw [houtputs, ← hcount, ← hsummary]
      exact hrun
    · have hok := hall path (hsplit ▸ List.mem_append_right before List.mem_cons_self)
      rw [hwalks, Run.fails_of_error hload] at hok
      exact absurd hok Bool.false_ne_true
  · intro hstop hsome
    rcases hcases with
      ⟨hpassed, -⟩ | ⟨-, before, path, after, failure, hsplit, hbefore, hload, hrun⟩
    · refine absurd (fun path hpath => ?_) hsome
      rw [hwalks, Bool.not_eq_true', Bool.eq_false_iff]
      intro hfails
      exact Bool.false_ne_true (hstop.symm.trans (hpassed path hpath hfails))
    · refine ⟨before, path, after, failure, hsplit, fun earlier hearlier => ?_, ?_, ?_⟩
      · rw [hwalks, hbefore earlier hearlier]
        rfl
      · rw [hwalk, hload]
        rfl
      · rw [houtputs]
        exact hrun
  · -- A run that keeps going leaves out what fails, which has no output anyway.
    intro hgo
    have hkept : outputs (pages.filter walks) =
        pages.flatMap (Run.outputOf seen naming settings) := by
      have hsame : walks = fun path => !Run.fails seen naming path := funext hwalks
      rw [houtputs, ← Run.flatMap_outputOf_filter pages, hsame]
    rcases hcases with ⟨-, hrun⟩ | ⟨hstop, -⟩
    · rw [hkept, ← hsummary]
      exact hrun
    · exact absurd (hstop.symm.trans hgo) Bool.false_ne_true

end JavadocNames
