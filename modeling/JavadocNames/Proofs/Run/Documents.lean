import Mathlib.Algebra.GroupWithZero.Nat
import JavadocNames.Proofs.Run.Writing
import JavadocNames.Run

/-!
# The loop over the documents

The loop over the documents of a run keeps four things in step: the bytes in the sink, the log
file, standard error and the counts.  Each of them is told by the documents handled so far, and
the first document that cannot be handled ends the run with all four as they are.  A document
is handled when its records were written to the last byte, or when the run passed it over with
a warning.
-/

namespace JavadocNames

/-! ## Counting -/

namespace Tally

theorem zero_add (a : Tally) : zero + a = a := by
  change Tally.mk _ _ _ = a
  simp only [zero, Nat.zero_add]

theorem add_zero (a : Tally) : a + zero = a := rfl

theorem add_assoc (a b c : Tally) : a + b + c = a + (b + c) := by
  change Tally.mk _ _ _ = Tally.mk _ _ _
  congr 1
  · exact Nat.add_assoc ..
  · exact Nat.add_assoc ..
  · exact Nat.add_assoc ..

/-- The counts of several parts together. -/
def sum (tallies : List Tally) : Tally :=
  tallies.foldr (· + ·) zero

theorem sum_eq (tallies : List Tally) :
    sum tallies = ⟨(tallies.map rows).sum, (tallies.map skipped).sum,
      (tallies.map records).sum⟩ := by
  induction tallies with
  | nil => rfl
  | cons tally rest ih =>
      change tally + sum rest = _
      rw [ih]
      rfl

end Tally

namespace RunSummary

theorem add_mk (a : RunSummary) (documents failed : Nat) (tally : Tally) :
    a + ⟨documents, failed, tally⟩ =
      ⟨a.documents + documents, a.failed + failed, a.tally + tally⟩ := rfl

theorem zero_add (a : RunSummary) : zero + a = a := by
  obtain ⟨documents, failed, tally⟩ := a
  simp only [add_mk, zero, Nat.zero_add, Tally.zero_add]

theorem add_zero (a : RunSummary) : a + zero = a := by
  obtain ⟨documents, failed, tally⟩ := a
  simp only [zero, add_mk, Nat.add_zero, Tally.add_zero]

theorem add_assoc (a b c : RunSummary) : a + b + c = a + (b + c) := by
  change RunSummary.mk _ _ _ = RunSummary.mk _ _ _
  congr 1
  · exact Nat.add_assoc ..
  · exact Nat.add_assoc ..
  · exact Tally.add_assoc ..

end RunSummary

/-! ## Journals that grow -/

namespace Journal

/-- The journal with more text in its log file and on standard error. -/
def grown (journal : Journal) (log told : Text) : Journal :=
  { journal with
    file := journal.file.map fun f => { f with text := f.text ++ log }
    stderr := journal.stderr ++ told }

variable (journal : Journal)

theorem grown_nil : journal.grown [] [] = journal := by
  simp [grown]

theorem grown_grown (log told log' told' : Text) :
    (journal.grown log told).grown log' told' =
      journal.grown (log ++ log') (told ++ told') := by
  simp [grown, Function.comp_def]

theorem note_eq_grown (message : Text) :
    journal.note message = journal.grown (Text.line message) [] := by
  simp [note, grown]

theorem warn_eq_grown (message : Text) :
    journal.warn message =
      journal.grown (Text.line (warning message)) (Text.line (warning message)) := rfl

theorem log_eq_grown (message : Text) :
    journal.log message =
      journal.grown (Text.line message) (if journal.echo then Text.line message else []) := by
  by_cases hecho : journal.echo = true
  · simp [log, hecho, note, announce, grown]
  · simp [log, hecho, note, grown]

end Journal

namespace Run

variable (disk : Disk) (naming : Naming) (settings : RunSettings)

/-- The documents that are left, each with what reading it gave. -/
def readings (pages : List Path) : List (Path × Except Failure Document) :=
  pages.map fun path => (path, Document.load disk naming path)

theorem zip_map_load (pages : List Path) :
    pages.zip (pages.map (Document.load disk naming)) = readings disk naming pages := by
  have hzip := List.zip_map' (l := pages) (f := id) (g := Document.load disk naming)
  rwa [List.map_id] at hzip

/-- A document cannot be read. -/
def fails (path : Path) : Bool :=
  match Document.load disk naming path with
  | .ok _ => false
  | .error _ => true

/-- The bytes of the records of a document, one line each; none if it cannot be read. -/
def outputOf (path : Path) : Bytes :=
  match Document.load disk naming path with
  | .ok document => Text.lineBytes (document.records.map settings.format.render)
  | .error _ => []

/-- What the log says about a document: what it gave, or why it is passed over. -/
def trailLine (path : Path) : Text :=
  match Document.load disk naming path with
  | .ok document =>
      path.display ++ ": ".toList ++
        Text.decimal document.tally.rows ++ " rows, ".toList ++
        Text.decimal document.tally.skipped ++ " skipped, ".toList ++
        Text.decimal document.tally.records ++ " records".toList
  | .error failure =>
      Journal.warning ("Skipping ".toList ++ path.display ++ ": ".toList ++ failure.message)

/-- The entries of the log about documents, a line for each. -/
def trail (pages : List Path) : Text :=
  pages.flatMap fun path => Text.line (trailLine disk naming path)

/-- The counts of the documents that can be read. -/
def talliesOf (pages : List Path) : List Tally :=
  pages.filterMap fun path => (Document.load disk naming path).toOption.map Document.tally

/-- The summary of documents that have been handled. -/
def summaryOf (pages : List Path) : RunSummary :=
  ⟨pages.length, (pages.filter (fails disk naming)).length, .sum (talliesOf disk naming pages)⟩

/-- How a run ends that has handled documents, with these bytes of them and this summary,
in front of those that are left: the bytes in its sink, and its result. -/
inductive Ends (limit : Option Nat) (handled : Bytes) (summary : RunSummary) :
    List Path → Bytes → Except Failure RunSummary → Prop where
  /-- No document is left. -/
  | finished : Ends limit handled summary [] handled (.ok summary)
  /-- The next document cannot be read, and the run does not keep going. -/
  | unreadable {path : Path} {later : List Path} {failure : Failure} :
      Document.load disk naming path = .error failure → settings.keepGoing = false →
      Ends limit handled summary (path :: later) handled (.error failure)
  /-- The records of the next document do not fit into the sink. -/
  | full {path : Path} {later : List Path} :
      fails disk naming path = false →
      ¬ Sink.Holds limit (handled ++ outputOf disk naming settings path) →
      Ends limit handled summary (path :: later)
        (Sink.cut limit (handled ++ outputOf disk naming settings path)) (.error .sinkFull)

/-! ## One document -/

variable {disk naming settings} {limit : Option Nat} {accepted : Bytes}

theorem fails_of_ok {path : Path} {document : Document}
    (h : Document.load disk naming path = .ok document) : fails disk naming path = false := by
  rw [fails, h]

theorem fails_of_error {path : Path} {failure : Failure}
    (h : Document.load disk naming path = .error failure) : fails disk naming path = true := by
  rw [fails, h]

theorem outputOf_of_ok {path : Path} {document : Document}
    (h : Document.load disk naming path = .ok document) :
    outputOf disk naming settings path =
      Text.lineBytes (document.records.map settings.format.render) := by
  rw [outputOf, h]

theorem outputOf_of_error {path : Path} {failure : Failure}
    (h : Document.load disk naming path = .error failure) :
    outputOf disk naming settings path = [] := by
  rw [outputOf, h]

theorem path_of_load {path : Path} {document : Document}
    (h : Document.load disk naming path = .ok document) : document.path = path := by
  rw [Document.load] at h
  split at h
  · cases h
  · cases hname : JavadocNames.className path with
    | error failure =>
        rw [hname] at h
        cases h
    | ok name =>
        rw [hname] at h
        cases h
        rfl

theorem handledMessage_eq {path : Path} {document : Document}
    (h : Document.load disk naming path = .ok document) :
    handledMessage document = trailLine disk naming path := by
  rw [handledMessage, trailLine, h, path_of_load h]

theorem warning_skippedMessage_eq {path : Path} {failure : Failure}
    (h : Document.load disk naming path = .error failure) :
    Journal.warning (skippedMessage path failure) = trailLine disk naming path := by
  rw [trailLine, h]
  rfl

/-- The steps of a document that a run handles: its bytes, its entry and its counts. -/
theorem play_documentScript_of_handled {path : Path}
    (hgo : fails disk naming path = true → settings.keepGoing = true)
    (hholds : Sink.Holds limit (accepted ++ outputOf disk naming settings path))
    (journal : Journal) :
    (documentScript settings path (Document.load disk naming path)).play
        (.direct ⟨limit, accepted⟩) journal =
      (.direct ⟨limit, accepted ++ outputOf disk naming settings path⟩,
        journal.grown (trail disk naming [path])
          (trail disk naming ([path].filter (fails disk naming))),
        .ok (summaryOf disk naming [path])) := by
  cases hload : Document.load disk naming path with
  | ok document =>
      have houtput : outputOf disk naming settings path = _ := outputOf_of_ok hload
      rw [houtput] at hholds ⊢
      have hwrite := OutputFormat.play_writeRecords_of_holds hholds journal
      simp only [documentScript, Script.play_bind, hwrite, Script.play_tell, Script.play_pure,
        Journal.take, Journal.note_eq_grown, handledMessage_eq hload]
      simp [trail, summaryOf, talliesOf, hload, fails_of_ok hload, Except.toOption, Tally.sum,
        Tally.add_zero]
  | error failure =>
      have hfails := fails_of_error hload
      rw [outputOf_of_error hload, List.append_nil]
      simp only [documentScript, hgo hfails, if_true, Script.play_bind, Script.play_tell,
        Script.play_pure, Journal.take, Journal.warn_eq_grown, warning_skippedMessage_eq hload]
      simp [trail, summaryOf, talliesOf, hload, hfails, Except.toOption, Tally.sum]

/-- A document that a run does not handle ends it. -/
theorem exists_play_documentScript_of_not_handled {path : Path}
    (haccepted : Sink.Holds limit accepted)
    (h : ¬ ((fails disk naming path = true → settings.keepGoing = true) ∧
      Sink.Holds limit (accepted ++ outputOf disk naming settings path)))
    (summary : RunSummary) (later : List Path) (journal : Journal) :
    ∃ left failure,
      Ends disk naming settings limit accepted summary (path :: later) left (.error failure) ∧
      (documentScript settings path (Document.load disk naming path)).play
        (.direct ⟨limit, accepted⟩) journal = (.direct ⟨limit, left⟩, journal, .error failure) := by
  cases hload : Document.load disk naming path with
  | ok document =>
      -- What can be read is refused for its bytes only, and then its entry is not made.
      have hfails := fails_of_ok hload
      have hfull : ¬ Sink.Holds limit (accepted ++ outputOf disk naming settings path) :=
        fun hholds => h ⟨fun hfail => absurd (hfails.symm.trans hfail) nofun, hholds⟩
      refine ⟨_, _, .full hfails hfull, ?_⟩
      rw [outputOf_of_ok hload] at hfull ⊢
      rw [documentScript, Script.play_bind,
        OutputFormat.play_writeRecords_of_not_holds haccepted hfull]
  | error failure =>
      -- What cannot be read has no bytes, so they are not why it is refused.
      have hstop : settings.keepGoing = false := by
        rw [outputOf_of_error hload, List.append_nil] at h
        cases hgo : settings.keepGoing with
        | false => rfl
        | true => exact absurd ⟨fun _ => hgo, haccepted⟩ h
      refine ⟨_, _, .unreadable hload hstop, ?_⟩
      rw [documentScript, hstop]
      rfl

/-! ## All documents -/

theorem summaryOf_nil : summaryOf disk naming [] = .zero := rfl

theorem summaryOf_cons (path : Path) (later : List Path) :
    summaryOf disk naming (path :: later) =
      summaryOf disk naming [path] + summaryOf disk naming later := by
  cases hload : Document.load disk naming path with
  | ok document =>
      simp [summaryOf, RunSummary.add_mk, talliesOf, hload, fails_of_ok hload, Except.toOption,
        Tally.sum, Tally.add_zero, Nat.add_comm]
  | error failure =>
      simp [summaryOf, RunSummary.add_mk, talliesOf, hload, fails_of_error hload,
        Except.toOption, Tally.sum, Tally.zero_add, Nat.add_comm]

theorem trail_cons (path : Path) (later : List Path) :
    trail disk naming (path :: later) = trail disk naming [path] ++ trail disk naming later := by
  simp [trail]

theorem trail_filter_cons (path : Path) (later : List Path) :
    trail disk naming ((path :: later).filter (fails disk naming)) =
      trail disk naming ([path].filter (fails disk naming)) ++
        trail disk naming (later.filter (fails disk naming)) := by
  rw [← List.singleton_append, List.filter_append, trail, List.flatMap_append]
  rfl

/-- Behind some bytes, counts and a journal, documents were handled and the loop has ended in
front of the others.  The invariant is on all four outlets: behind what was there before come
the bytes, the entries, the warnings and the counts of the documents that were handled. -/
structure Handled (disk : Disk) (naming : Naming) (settings : RunSettings) (limit : Option Nat)
    (accepted : Bytes) (counts : RunSummary) (journal : Journal) (done rest : List Path)
    (played : Sink × Journal × Except Failure RunSummary) : Prop where
  passed : ∀ path ∈ done, fails disk naming path = true → settings.keepGoing = true
  holds : Sink.Holds limit (accepted ++ done.flatMap (outputOf disk naming settings))
  sink_eq : played.1 = .direct ⟨limit, played.1.accepted⟩
  journal_eq : played.2.1 = journal.grown (trail disk naming done)
    (trail disk naming (done.filter (fails disk naming)))
  ends : Ends disk naming settings limit
    (accepted ++ done.flatMap (outputOf disk naming settings))
    (counts + summaryOf disk naming done) rest played.1.accepted played.2.2

/-- The loop handles some documents, the first ones, and ends in front of the others. -/
theorem exists_handled_handle (disk : Disk) (naming : Naming) (settings : RunSettings)
    (pages : List Path) (haccepted : Sink.Holds limit accepted) (counts : RunSummary)
    (journal : Journal) :
    ∃ done rest, pages = done ++ rest ∧
      Handled disk naming settings limit accepted counts journal done rest
        ((handle settings counts (readings disk naming pages)).play
          (.direct ⟨limit, accepted⟩) journal) := by
  have hnone : accepted ++ ([] : List Path).flatMap (outputOf disk naming settings) = accepted :=
    List.append_nil accepted
  induction pages generalizing accepted counts journal with
  | nil =>
      refine ⟨[], [], rfl, nofun, ?_, rfl, journal.grown_nil.symm, ?_⟩
      · rwa [hnone]
      · rw [hnone, summaryOf_nil, RunSummary.add_zero]
        exact .finished
  | cons path later ih =>
      have hcons : handle settings counts (readings disk naming (path :: later)) =
          documentScript settings path (Document.load disk naming path) >>= fun own =>
            handle settings (counts + own) (readings disk naming later) := rfl
      rw [hcons, Script.play_bind]
      by_cases hhandled : (fails disk naming path = true → settings.keepGoing = true) ∧
          Sink.Holds limit (accepted ++ outputOf disk naming settings path)
      · -- The document is handled, and the loop goes on behind it.
        obtain ⟨hgo, hholds⟩ := hhandled
        rw [play_documentScript_of_handled hgo hholds journal]
        obtain ⟨done, rest, rfl, hlater⟩ :=
          ih hholds (counts + summaryOf disk naming [path])
            (journal.grown (trail disk naming [path])
              (trail disk naming ([path].filter (fails disk naming)))) (List.append_nil _)
        have hbytes : accepted ++ (path :: done).flatMap (outputOf disk naming settings) =
            accepted ++ outputOf disk naming settings path ++
              done.flatMap (outputOf disk naming settings) := by
          rw [List.flatMap_cons, List.append_assoc]
        refine ⟨path :: done, rest, rfl, List.forall_mem_cons.mpr ⟨hgo, hlater.passed⟩, ?_,
          hlater.sink_eq, ?_, ?_⟩
        · rw [hbytes]
          exact hlater.holds
        · rw [trail_cons path done, trail_filter_cons path done, ← Journal.grown_grown]
          exact hlater.journal_eq
        · rw [hbytes, summaryOf_cons, ← RunSummary.add_assoc]
          exact hlater.ends
      · -- The document ends the run, and nothing is said about it.
        obtain ⟨left, failure, hends, hstep⟩ :=
          exists_play_documentScript_of_not_handled haccepted hhandled counts later journal
        rw [hstep]
        refine ⟨[], path :: later, rfl, nofun, ?_, rfl, journal.grown_nil.symm, ?_⟩
        · rwa [hnone]
        · rw [hnone, summaryOf_nil, RunSummary.add_zero]
          exact hends

/-- A run that succeeds has handled all documents. -/
theorem Ends.of_ok {handled left : Bytes} {summary result : RunSummary} {rest : List Path}
    (h : Ends disk naming settings limit handled summary rest left (.ok result)) :
    rest = [] ∧ result = summary := by
  cases h with
  | finished => exact ⟨rfl, rfl⟩

/-! ## Whole runs -/

/-- The disk as the documents of a run find it: the first message is in the log file. -/
def seen (disk : Disk) (journal : Journal) (pages : List Path) : Disk :=
  (journal.log (foundMessage pages)).save disk

theorem seen_of_file_eq_none {journal : Journal} (h : journal.file = none) (pages : List Path) :
    seen disk journal pages = disk := by
  simp only [seen, Journal.save, Journal.log_eq_grown, Journal.grown, h, Option.map_none]

/-- A run without room for its header ends there. -/
theorem play_script_of_not_holds
    (h : ¬ Sink.Holds limit (Text.lineBytes settings.format.header)) (journal : Journal) :
    (script disk naming settings).play (.empty limit) journal =
      (.direct ⟨limit, Sink.cut limit (Text.lineBytes settings.format.header)⟩, journal,
        .error .sinkFull) := by
  rw [script, Script.play_bind, OutputFormat.play_writeHeader_of_not_holds h]

/-- A run that cannot list its documents ends behind its header. -/
theorem play_script_of_error (h : Sink.Holds limit (Text.lineBytes settings.format.header))
    {failure : Failure} (hfind : disk.findPages settings.root = .error failure)
    (journal : Journal) :
    (script disk naming settings).play (.empty limit) journal =
      (.direct ⟨limit, Text.lineBytes settings.format.header⟩, journal, .error failure) := by
  rw [script, Script.play_bind, OutputFormat.play_writeHeader_of_holds h, hfind]
  rfl

/-- A run that can list its documents reads them, and goes on behind its header. -/
theorem play_script_of_ok (h : Sink.Holds limit (Text.lineBytes settings.format.header))
    {pages : List Path} (hfind : disk.findPages settings.root = .ok pages) (journal : Journal) :
    (script disk naming settings).play (.empty limit) journal =
      (do
        let summary ← handle settings .zero (readings (seen disk journal pages) naming pages)
        Script.flush
        return summary : Script RunSummary).play
          (.direct ⟨limit, Text.lineBytes settings.format.header⟩)
          (journal.log (foundMessage pages)) := by
  rw [script, Script.play_bind, OutputFormat.play_writeHeader_of_holds h, hfind, ← zip_map_load]
  rfl

/-- A run that has room for its header and can list its documents handles some of them. -/
theorem exists_handled_script (naming : Naming)
    (h : Sink.Holds limit (Text.lineBytes settings.format.header)) {pages : List Path}
    (hfind : disk.findPages settings.root = .ok pages) (journal : Journal) :
    ∃ done rest, pages = done ++ rest ∧
      Handled (seen disk journal pages) naming settings limit
        (Text.lineBytes settings.format.header) .zero (journal.log (foundMessage pages)) done rest
        ((script disk naming settings).play (.empty limit) journal) := by
  obtain ⟨done, rest, hpages, hhandled⟩ := exists_handled_handle (seen disk journal pages)
    naming settings pages h .zero (journal.log (foundMessage pages))
  refine ⟨done, rest, hpages, ?_⟩
  rwa [play_script_of_ok h hfind, Script.play_flush_of_direct _ hhandled.sink_eq]

end Run

end JavadocNames
