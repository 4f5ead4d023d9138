import JavadocNames.Proofs.Run.Documents

/-!
# What a run leaves in its log

The log of a run says how many documents there are, and then, in their order, what
became of each one that was handled.  So it tells the same story as the bytes in the sink,
standard error and the counts.
-/

namespace JavadocNames

/-- The log of a run is a faithful trail.  Whatever is on the disk, however much the sink
takes: when there is no room for the header, or the documents cannot be listed, nothing is
said.  Otherwise the log says how many documents there are, and then has one entry for
each document that was handled, in order, and none for the one that ended the run or those
behind it.  Standard error has the warnings among the entries, behind the first line if
that is echoed.  A run ends in front of a document only when it cannot be read and the run
does not keep going, or when its records do not fit behind those before.  When it succeeds,
the summary counts the documents, the warnings, and what the documents gave.  The documents
find the disk with the first line in the log file. -/
theorem run_leaves_trail (disk : Disk) (naming : Naming) (settings : RunSettings)
    (limit : Option Nat) (echo : Bool) (file : LogFile) (stderr : Text) :
    let journal : Journal := ⟨echo, some file, stderr⟩
    let run := (Run.script disk naming settings).play (.empty limit) journal
    let head := settings.format.header.flatMap fun line => Utf8.encode (Text.line line)
    ∃ log told,
      run.2.1 = ⟨echo, some { file with text := file.text ++ log }, stderr ++ told⟩ ∧
      (¬ Sink.Holds limit head →
        log = [] ∧ told = [] ∧ run.1.accepted = Sink.cut limit head ∧
          run.2.2 = .error .sinkFull) ∧
      (Sink.Holds limit head → ∀ failure, disk.findPages settings.root = .error failure →
        log = [] ∧ told = [] ∧ run.1.accepted = head ∧ run.2.2 = .error failure) ∧
      (Sink.Holds limit head → ∀ pages, disk.findPages settings.root = .ok pages →
        let found := Text.line
          ("Found ".toList ++ Text.decimal pages.length ++ " HTML files".toList)
        let seen := disk.setContent file.place (Utf8.encode (file.text ++ found))
        let warned := fun handled : List Path => handled.filter (Run.fails seen naming)
        ∃ done rest, pages = done ++ rest ∧
          log = found ++ Run.trail seen naming done ∧
          told = (if echo then found else []) ++ Run.trail seen naming (warned done) ∧
          (∀ path ∈ warned done, settings.keepGoing = true) ∧
          (let handled := head ++ done.flatMap (Run.outputOf seen naming settings)
          Sink.Holds limit handled ∧
            Run.Ends seen naming settings limit handled (Run.summaryOf seen naming done) rest
              run.1.accepted run.2.2) ∧
          ∀ summary, run.2.2 = .ok summary →
            done = pages ∧ summary.documents = pages.length ∧
            summary.failed = (warned pages).length ∧
            (let tallies := Run.talliesOf seen naming pages
            summary.tally.rows = (tallies.map Tally.rows).sum ∧
              summary.tally.skipped = (tallies.map Tally.skipped).sum ∧
              summary.tally.records = (tallies.map Tally.records).sum)) := by
  intro journal run head
  by_cases hholds : Sink.Holds limit head
  · cases hfind : disk.findPages settings.root with
    | error failure =>
        have hrun : run = (.direct ⟨limit, head⟩, journal, .error failure) :=
          Run.play_script_of_error hholds hfind journal
        rw [hrun]
        refine ⟨[], [], ?_, absurd hholds, fun _ other hother => ?_, fun _ pages hpages => ?_⟩
        · simp only [journal, List.append_nil]
        · cases hother
          exact ⟨rfl, rfl, rfl, rfl⟩
        · contradiction
    | ok pages =>
        obtain ⟨done, rest, hpages, hhandled⟩ :=
          Run.exists_handled_script naming hholds hfind journal
        -- The first line is in the log file before the documents are read.
        have hseen : Run.seen disk journal pages =
            disk.setContent file.place (Utf8.encode (file.text ++ Text.line
              ("Found ".toList ++ Text.decimal pages.length ++ " HTML files".toList))) := by
          rw [Run.seen, Journal.log_eq_grown]
          rfl
        have hends := hhandled.ends
        rw [RunSummary.zero_add] at hends
        have hjournal := hhandled.journal_eq
        rw [Journal.log_eq_grown, Journal.grown_grown] at hjournal
        rw [hseen] at hends hjournal hhandled
        refine ⟨_, _, hjournal, absurd hholds, fun _ failure hfailure => ?_,
          fun _ other hother => ?_⟩
        · contradiction
        cases hother
        refine ⟨done, rest, hpages, rfl, rfl, ?_, ⟨hhandled.holds, hends⟩, ?_⟩
        · intro path hpath
          obtain ⟨hmem, hfails⟩ := List.mem_filter.mp hpath
          exact hhandled.passed path hmem hfails
        · -- Success leaves no document, so what was handled is everything.
          intro summary hsummary
          rw [hsummary] at hends
          obtain ⟨rfl, rfl⟩ := hends.of_ok
          rw [List.append_nil] at hpages
          subst hpages
          simp only [Run.summaryOf, Tally.sum_eq, and_self]
  · have hrun : run = (.direct ⟨limit, Sink.cut limit head⟩, journal, .error .sinkFull) :=
      Run.play_script_of_not_holds hholds journal
    rw [hrun]
    refine ⟨[], [], ?_, fun _ => ⟨rfl, rfl, rfl, rfl⟩, fun h => absurd h hholds,
      fun h => absurd h hholds⟩
    simp only [journal, List.append_nil]

end JavadocNames
