import JavadocNames.Proofs.Record.JsonLines
import JavadocNames.Run

/-!
# Runs in both formats

The format of a run decides how a record is spelled on its line, and whether a header
comes first.  Everything else, from the documents that are found to the failure that ends
the run, is the same: the lines of the one format are those of the other, spelled anew.
-/

namespace JavadocNames

namespace Script

variable {α β : Type}

/-- Scripts, one for each format, that carry the same: from any journal they write the same
records, tell the same messages and have the same result. -/
def Carries (script : OutputFormat → Script α) : Prop :=
  ∀ journal, ∃ (records : List NamingRecord) (journal' : Journal) (result : Except Failure α),
    ∀ format accepted, (script format).play (.direct ⟨none, accepted⟩) journal =
      (.direct ⟨none, accepted ++ Text.lineBytes (records.map format.render)⟩, journal', result)

/-- A script that writes nothing carries the same in all formats. -/
theorem carries_of_quiet {s : Script α} (h : ∀ journal, ∃ journal' result, ∀ device,
    s.play (.direct device) journal = (.direct device, journal', result)) :
    Carries fun _ => s := by
  intro journal
  obtain ⟨journal', result, hplay⟩ := h journal
  refine ⟨[], journal', result, fun format accepted => ?_⟩
  rw [hplay, List.map_nil, Text.lineBytes, List.flatMap_nil, List.append_nil]

theorem carries_ofExcept (result : Except Failure α) : Carries fun _ => ofExcept result :=
  carries_of_quiet fun journal => ⟨journal, result, fun _ => rfl⟩

theorem carries_tell (entry : Entry) : Carries fun _ => tell entry :=
  carries_of_quiet fun journal => ⟨journal.take entry, .ok (), fun _ => rfl⟩

theorem carries_now (disk : Disk) : Carries fun _ => now disk :=
  carries_of_quiet fun journal => ⟨journal, .ok (journal.save disk), fun _ => rfl⟩

theorem carries_flush : Carries fun _ => flush :=
  carries_of_quiet fun journal => ⟨journal, .ok (), fun _ => rfl⟩

theorem carries_writeRecords (records : List NamingRecord) :
    Carries fun format => format.writeRecords records := by
  refine fun journal => ⟨records, journal, .ok (), fun format accepted => ?_⟩
  exact OutputFormat.play_writeRecords_of_holds (Sink.holds_none _) journal

/-- What follows scripts of both formats can depend on their format in the same way. -/
theorem Carries.bind {script : OutputFormat → Script α} {next : OutputFormat → α → Script β}
    (hscript : Carries script) (hnext : ∀ a, Carries fun format => next format a) :
    Carries fun format => script format >>= next format := by
  intro journal
  obtain ⟨records, journal', result, hplay⟩ := hscript journal
  cases result with
  | error failure =>
      refine ⟨records, journal', .error failure, fun format accepted => ?_⟩
      rw [play_bind, hplay]
  | ok a =>
      obtain ⟨more, journal'', result, hmore⟩ := hnext a journal'
      refine ⟨records ++ more, journal'', result, fun format accepted => ?_⟩
      rw [play_bind, hplay, List.map_append, Text.lineBytes_append, ← List.append_assoc]
      exact hmore format _

theorem carries_pure (a : α) : Carries fun _ => (pure a : Script α) :=
  carries_ofExcept (.ok a)

end Script

namespace Run

open Script

variable (root : Path) (keepGoing : Bool)

theorem carries_documentScript (path : Path) (outcome : Except Failure Document) :
    Carries fun format => documentScript ⟨root, format, keepGoing⟩ path outcome := by
  cases outcome with
  | ok document =>
      refine (carries_writeRecords document.records).bind fun _ => ?_
      exact (carries_tell _).bind fun _ => carries_pure _
  | error failure =>
      cases keepGoing with
      | true => exact (carries_tell _).bind fun _ => carries_pure _
      | false => exact carries_ofExcept _

theorem carries_handle (counts : RunSummary)
    (readings : List (Path × Except Failure Document)) :
    Carries fun format => handle ⟨root, format, keepGoing⟩ counts readings := by
  induction readings generalizing counts with
  | nil => exact carries_pure counts
  | cons reading rest ih =>
      exact (carries_documentScript root keepGoing reading.1 reading.2).bind fun own =>
        ih (counts + own)

/-- The part of a run behind its header. -/
def body (disk : Disk) (naming : Naming) (settings : RunSettings) : Script RunSummary := do
  let pages ← Script.ofExcept (disk.findPages settings.root)
  Script.tell (.log (foundMessage pages))
  let disk ← Script.now disk
  let outcomes := pages.map (Document.load disk naming)
  let summary ← handle settings .zero (pages.zip outcomes)
  Script.flush
  return summary

theorem script_eq (disk : Disk) (naming : Naming) (settings : RunSettings) :
    script disk naming settings =
      settings.format.writeHeader >>= fun _ => body disk naming settings := rfl

theorem carries_body (disk : Disk) (naming : Naming) :
    Carries fun format => body disk naming ⟨root, format, keepGoing⟩ := by
  simp only [body]
  refine (carries_ofExcept _).bind fun pages => ?_
  refine (carries_tell _).bind fun _ => ?_
  refine (carries_now disk).bind fun seen => ?_
  refine (carries_handle root keepGoing _ _).bind fun summary => ?_
  exact carries_flush.bind fun _ => carries_pure summary

end Run

/-- A run in one format carries what it carries in the other.  It has the same result, the
summary or the failure that ends it, and leaves the same journal, standard error and log.
The lines of JSON are read back as records, and the elements of these records are the lines
of the other format, behind its two lines of header. -/
theorem formats_carry_same_run (disk : Disk) (naming : Naming) (root : Path) (keepGoing : Bool)
    (journal : Journal) :
    let run := fun format =>
      (Run.script disk naming ⟨root, format, keepGoing⟩).play (.empty none) journal
    let outputOf := fun format => (run format).1.accepted
    let journalOf := fun format => (run format).2.1
    let resultOf := fun format => (run format).2.2
    resultOf .json = resultOf .attr ∧ journalOf .json = journalOf .attr ∧
    ∃ (header : List Text) (lines : List Bytes) (records : List NamingRecord),
      header = OutputFormat.attr.header ∧ header.length = 2 ∧
      (outputOf .json).splitOn 0x0A = lines ++ [[]] ∧
      lines.map NamingRecord.ofLine? = records.map some ∧
      outputOf .attr = Text.lineBytes (header ++ records.map fun r =>
        NamingRecord.formatRecord r.className r.method r.parameter r.position r.total
          r.overload r.package) := by
  intro run outputOf journalOf resultOf
  obtain ⟨records, journal', result, hbody⟩ := Run.carries_body root keepGoing disk naming journal
  -- The header is written before all records; it tells nothing and cannot fail.
  have hrun : ∀ format, run format =
      (.direct ⟨none, Text.lineBytes (format.header ++ records.map format.render)⟩, journal',
        result) := by
    intro format
    simp only [run, Run.script_eq]
    rw [Script.play_bind, OutputFormat.play_writeHeader_of_holds (Sink.holds_none _),
      Text.lineBytes_append]
    exact hbody format _
  have houtput : ∀ format, outputOf format =
      Text.lineBytes (format.header ++ records.map format.render) := by
    intro format
    simp only [outputOf, hrun]
    rfl
  refine ⟨?_, ?_, OutputFormat.attr.header, records.map fun r => Utf8.encode r.jsonObject,
    records, rfl, rfl, ?_, ?_, houtput .attr⟩
  · simp only [resultOf, hrun]
  · simp only [journalOf, hrun]
  · have hplain : ∀ text ∈ records.map OutputFormat.json.render, '\n' ∉ text := by
      intro text htext
      obtain ⟨r, -, rfl⟩ := List.mem_map.mp htext
      exact r.lineFeed_not_mem_jsonObject
    have hnone : OutputFormat.json.header = [] := rfl
    rw [houtput, hnone, List.nil_append, Text.splitOn_lineBytes hplain, List.map_map]
    rfl
  · rw [List.map_map]
    exact List.map_congr_left fun r _ => r.ofLine?_jsonObject

end JavadocNames
