import JavadocNames.Proofs.CommandLine.Parsing
import JavadocNames.Proofs.Run.Buffers
import JavadocNames.Proofs.Run.Documents
import JavadocNames.Proofs.Run.Opening

/-!
# Sessions

A run opens its journal, makes its output file, and plays the script of its documents.  The
script depends on the disk only by the pages that are found and by what reading them gives,
and of the journal nothing shows in what is written.  What a session leaves is the bytes of
the script, on standard output or in the output file, and a journal that tells how it ended.
-/

namespace JavadocNames

variable {disk made : Disk}

/-! ## What a script depends on -/

namespace Script

variable {α β : Type}

/-- What a script writes and its result do not depend on the journal. -/
def IsDeaf (s : Script α) : Prop :=
  ∀ sink journal journal', (s.play sink journal).1 = (s.play sink journal').1 ∧
    (s.play sink journal).2.2 = (s.play sink journal').2.2

theorem isDeaf_ofExcept (result : Except Failure α) : (ofExcept result).IsDeaf :=
  fun _ _ _ => ⟨rfl, rfl⟩

theorem isDeaf_pure (a : α) : (pure a : Script α).IsDeaf :=
  fun _ _ _ => ⟨rfl, rfl⟩

theorem isDeaf_step (step : Step) : step.script.IsDeaf := by
  cases step with
  | write bytes => exact fun _ _ _ => ⟨rfl, rfl⟩
  | flush => exact fun _ _ _ => ⟨rfl, rfl⟩
  | tell entry => exact fun _ _ _ => ⟨rfl, rfl⟩

theorem IsDeaf.bind {s : Script α} {f : α → Script β} (hs : s.IsDeaf) (hf : ∀ a, (f a).IsDeaf) :
    (s >>= f).IsDeaf := by
  intro sink journal journal'
  obtain ⟨hsink, hresult⟩ := hs sink journal journal'
  rw [play_bind, play_bind]
  cases hplay : s.play sink journal with
  | mk next rest =>
      cases hplay' : s.play sink journal' with
      | mk next' rest' =>
          obtain ⟨told, result⟩ := rest
          obtain ⟨told', result'⟩ := rest'
          -- Only the journals may differ where the first part has ended.
          rw [hplay, hplay'] at hsink hresult
          obtain rfl : next = next' := hsink
          obtain rfl : result = result' := hresult
          cases result with
          | error failure => exact ⟨rfl, rfl⟩
          | ok a => exact hf a next told told'

theorem isDeaf_forM {f : α → Script Unit} (hf : ∀ a, (f a).IsDeaf) (l : List α) :
    (l.forM f).IsDeaf := by
  induction l with
  | nil => exact isDeaf_pure ()
  | cons a rest ih => exact (hf a).bind fun _ => ih

end Script

namespace Run

open Script

theorem isDeaf_documentScript (settings : RunSettings) (path : Path)
    (outcome : Except Failure Document) : (documentScript settings path outcome).IsDeaf := by
  obtain ⟨root, format, keepGoing⟩ := settings
  cases outcome with
  | ok document =>
      refine (isDeaf_forM (fun r => isDeaf_step (.write _)) document.records).bind fun _ => ?_
      exact (isDeaf_step (.tell _)).bind fun _ => isDeaf_pure _
  | error failure =>
      cases keepGoing with
      | true => exact (isDeaf_step (.tell _)).bind fun _ => isDeaf_pure _
      | false => exact isDeaf_ofExcept _

theorem isDeaf_handle (settings : RunSettings) (counts : RunSummary)
    (readings : List (Path × Except Failure Document)) :
    (handle settings counts readings).IsDeaf := by
  induction readings generalizing counts with
  | nil => exact isDeaf_pure counts
  | cons reading rest ih =>
      exact (isDeaf_documentScript settings reading.1 reading.2).bind fun own => ih (counts + own)

theorem readings_congr {naming : Naming} {pages : List Path}
    (hread : ∀ page ∈ pages, made.read page = disk.read page) :
    readings made naming pages = readings disk naming pages := by
  refine List.map_congr_left fun page hpage => ?_
  rw [Document.load, Document.load, hread page hpage]

variable {naming : Naming} {root : Path} {format : OutputFormat} {keepGoing : Bool}
variable {journal journal' : Journal}

/-- Disks on which the same pages are found and read give the same run. -/
theorem play_script_congr (hfind : made.findPages root = disk.findPages root)
    (hread : ∀ pages, disk.findPages root = .ok pages → ∀ page ∈ pages,
      (seen made journal pages).read page = (seen disk journal pages).read page) :
    (script made naming ⟨root, format, keepGoing⟩).play (.empty none) journal =
      (script disk naming ⟨root, format, keepGoing⟩).play (.empty none) journal := by
  cases hpages : disk.findPages root with
  | error failure =>
      rw [play_script_of_error (Sink.holds_none _) (hfind.trans hpages),
        play_script_of_error (Sink.holds_none _) hpages]
  | ok pages =>
      rw [play_script_of_ok (Sink.holds_none _) (hfind.trans hpages),
        play_script_of_ok (Sink.holds_none _) hpages,
        readings_congr (hread pages hpages)]

/-- With other journals such disks give the same output and the same result. -/
theorem outcome_script_congr (hfind : made.findPages root = disk.findPages root)
    (hread : ∀ pages, disk.findPages root = .ok pages → ∀ page ∈ pages,
      (seen made journal pages).read page = (seen disk journal' pages).read page) :
    (script made naming ⟨root, format, keepGoing⟩).outcome journal =
      (script disk naming ⟨root, format, keepGoing⟩).outcome journal' := by
  cases hpages : disk.findPages root with
  | error failure =>
      rw [outcome, outcome, play_script_of_error (Sink.holds_none _) (hfind.trans hpages),
        play_script_of_error (Sink.holds_none _) hpages]
  | ok pages =>
      -- The journals differ from the first message on, so what follows must be deaf to them.
      have hdeaf := (isDeaf_handle ⟨root, format, keepGoing⟩ .zero
        (readings (seen disk journal' pages) naming pages)).bind fun summary =>
          (isDeaf_step .flush).bind fun _ => isDeaf_pure summary
      obtain ⟨hsink, hresult⟩ := hdeaf (.direct ⟨none, Text.lineBytes format.header⟩)
        (journal.log (foundMessage pages)) (journal'.log (foundMessage pages))
      rw [outcome, outcome, play_script_of_ok (Sink.holds_none _) (hfind.trans hpages),
        play_script_of_ok (Sink.holds_none _) hpages,
        readings_congr (hread pages hpages)]
      exact Prod.ext (congrArg Sink.accepted hsink) hresult

/-- A run that is not to keep going stops at its first page when that cannot be read. -/
theorem play_script_of_unreadable {page : Path} {rest : List Path} {cause : DiskError}
    (hfind : disk.findPages root = .ok (page :: rest))
    (hread : (seen disk journal (page :: rest)).read page = .error cause) :
    (script disk naming ⟨root, format, false⟩).play (.empty none) journal =
      (.direct ⟨none, Text.lineBytes format.header⟩, journal.log (foundMessage (page :: rest)),
        .error (.load page cause)) := by
  have hload : Document.load (seen disk journal (page :: rest)) naming page =
      .error (.load page cause) := by
    rw [Document.load, hread]
  rw [play_script_of_ok (Sink.holds_none _) hfind, readings, List.map_cons, hload]
  rfl

end Run

namespace Program

open CommandLine

variable {arguments : Arguments} {started : Moment} {clock : Clock} {line : List Bytes}

/-- A command line from its words. -/
def lineOf (words : List String) : List Bytes :=
  words.map fun word => Utf8.encode word.toList

/-- The times of a run. -/
def morning : Clock :=
  ⟨⟨2024, 1, 2, 3, 4, 5⟩, ⟨2024, 1, 2, 3, 4, 6⟩, 7, 8⟩

/-- A script of the program is its run, and ends in the line of the summary. -/
theorem play_scriptOf (disk : Disk) (arguments : Arguments) (journal : Journal) :
    (scriptOf arguments disk).play (.empty none) journal =
      let (sink, journal, result) := (Run.script disk ⟨arguments.packageName, .standard⟩
        ⟨arguments.javadocPath, arguments.format, arguments.keepGoing⟩).play (.empty none) journal
      (sink, journal, result.map RunSummary.line) := by
  obtain ⟨bytes, told, result, hplay⟩ :=
    (Run.propagates_script disk ⟨arguments.packageName, .standard⟩
      ⟨arguments.javadocPath, arguments.format, arguments.keepGoing⟩).exists_play_direct journal
  rw [scriptOf, Script.play_bind, hplay]
  cases result with
  | error failure => rfl
  | ok summary =>
      cases arguments.output with
      | none => rfl
      | some path => rfl

/-- Scripts of the program do not show whether there is an output file, nor any disk on which
the same pages are found and read. -/
theorem play_scriptOf_congr {journal : Journal}
    (hfind : made.findPages arguments.javadocPath = disk.findPages arguments.javadocPath)
    (hread : ∀ pages, disk.findPages arguments.javadocPath = .ok pages → ∀ page ∈ pages,
      (Run.seen made journal pages).read page = (Run.seen disk journal pages).read page)
    (output : Option Path) :
    (scriptOf arguments made).play (.empty none) journal =
      (scriptOf { arguments with output := output } disk).play (.empty none) journal := by
  rw [play_scriptOf, play_scriptOf, Run.play_script_congr hfind hread]

theorem outcome_scriptOf (disk : Disk) (arguments : Arguments) (journal : Journal) :
    (scriptOf arguments disk).outcome journal =
      ((Run.script disk ⟨arguments.packageName, .standard⟩
        ⟨arguments.javadocPath, arguments.format, arguments.keepGoing⟩).outcome journal).map id
          (·.map RunSummary.line) := by
  rw [Script.outcome, Script.outcome, play_scriptOf]
  rfl

/-- A script leaves the log file where it is. -/
theorem place?_play_scriptOf (disk : Disk) (arguments : Arguments) (journal : Journal) :
    ((scriptOf arguments disk).play (.empty none) journal).2.1.place? = journal.place? := by
  obtain ⟨bytes, told, result, hplay⟩ :=
    (propagates_scriptOf arguments disk).exists_play_direct journal
  rw [hplay]
  exact Journal.place?_foldl Journal.place?_take told journal

/-! ## What a session leaves -/

/-- The journal of a run as it is opened, and the disk then. -/
def opened (disk : Disk) (started : Moment) (arguments : Arguments) : Journal × Disk :=
  (toolOf arguments).openJournal disk started

theorem opened_spec (started : Moment) (arguments : Arguments) (htree : disk.IsTree) :
    (opened disk started arguments).2.IsTree ∧
      (∀ path start, disk.LeadsTo path start →
        (opened disk started arguments).2.LeadsTo path start) ∧
      ∀ place, (opened disk started arguments).1.place? = some place →
        (opened disk started arguments).2.at? place = some (.file []) :=
  (toolOf arguments).openJournal_spec started htree

theorem at?_eq_none_of_opened (htree : disk.IsTree) {q : Place}
    (hq : (opened disk started arguments).2.at? q = none) : disk.at? q = none :=
  (toolOf arguments).at?_eq_none_of_openJournal started htree hq

/-- Without a log nothing is made for it. -/
theorem opened_of_not_log (disk : Disk) (started : Moment) (hlog : arguments.log = false) :
    (opened disk started arguments).2 = disk ∧
      (opened disk started arguments).1.place? = none := by
  rw [opened, Tool.openJournal, toolOf, hlog]
  exact ⟨rfl, Journal.place?_log _ _⟩

/-- The moment at which a run starts shows only in the log file. -/
theorem opened_congr {started' : Moment} (disk : Disk)
    (h : arguments.log = true → started' = started) :
    opened disk started' arguments = opened disk started arguments := by
  cases hlog : arguments.log with
  | true => rw [h hlog]
  | false => simp only [opened, Tool.openJournal, toolOf, hlog, Bool.false_eq_true, if_false]

/-- A run ends as if there were no buffer. -/
theorem run_of_openTarget {target : Target} (hline : parse disk line = .ok arguments)
    (h : openTarget (opened disk clock.started arguments).2 arguments.output =
      .ok (target, made)) :
    let played :=
      (scriptOf arguments made).play (.empty none) (opened disk clock.started arguments).1
    run disk clock line =
      Session.conclude ⟨toolOf arguments, target, played.1, played.2.1, played.2.2, made⟩
        clock := by
  intro played
  obtain ⟨haccepted, hsame, -⟩ := (propagates_scriptOf arguments made).play_buffered none
    bufferSize (opened disk clock.started arguments).1
  have hplayed := hsame (Sink.holds_none _)
  rw [opened] at h haccepted hplayed
  simp only [run, hline, start, h, Session.conclude, haccepted, hplayed]
  rfl

theorem run_of_openTarget_error {failure : Failure} (hline : parse disk line = .ok arguments)
    (h : openTarget (opened disk clock.started arguments).2 arguments.output =
      .error failure) :
    run disk clock line =
      Session.conclude ⟨toolOf arguments, .stdout, .empty none,
        (opened disk clock.started arguments).1, .error failure,
        (opened disk clock.started arguments).2⟩ clock := by
  rw [opened] at h
  simp only [run, hline, start, h, opened]

/-- A run whose output file can be made fails when its script does. -/
theorem failed_run {target : Target} (hline : parse disk line = .ok arguments)
    (h : openTarget (opened disk clock.started arguments).2 arguments.output =
      .ok (target, made)) :
    (run disk clock line).failed =
      !((scriptOf arguments made).play (.empty none)
        (opened disk clock.started arguments).1).2.2.isOk := by
  rw [run_of_openTarget hline h, Session.conclude]
  dsimp only
  generalize (Script.play _ _ _).2.2 = result
  cases result with
  | ok summary => rfl
  | error failure => rfl

/-- The log file of a journal, if there is one, is at a place other than the given one. -/
def HasLogApart (disk : Disk) (journal : Journal) (place : Place) : Prop :=
  ∀ log, journal.place? = some log → log ≠ place ∧ ∃ content, disk.at? log = some (.file content)

/-- The log file that has been opened stays apart from an output file elsewhere. -/
theorem hasLogApart_of_puts {place : Place} (htree : disk.IsTree)
    (hputs : (opened disk started arguments).2.Puts place (.file []) made)
    (hlog : ∀ log, (opened disk started arguments).1.place? = some log → log ≠ place)
    {journal : Journal} (hplace : journal.place? = (opened disk started arguments).1.place?) :
    HasLogApart made journal place := by
  intro log hopened
  rw [hplace] at hopened
  refine ⟨hlog log hopened, [], ?_⟩
  have hat := (opened_spec started arguments htree).2.2 log hopened
  rw [← Disk.faceAt?_eq_some_file_iff] at hat ⊢
  rw [hputs.faceAt?_of_ne _ (hlog log hopened)]
  exact hat

theorem read_of_resolve {path : Path} {place : Place} {node : DiskNode} {content : Bytes}
    (hresolve : disk.resolve true path = .ok (.entry place node false))
    (hat : disk.at? place = some (.file content)) : disk.read path = .ok content := by
  have hnode := (Disk.leads_of_resolve hresolve).2.2.2.entry.1
  obtain rfl := Option.some.inj (hat.symm.trans hnode)
  have hstatus : disk.status path = .ok (.file content) :=
    Disk.status_eq_ok_iff.mpr ⟨place, false, hresolve, fun h => absurd h Bool.false_ne_true⟩
  rw [Disk.read, hstatus]

/-- The output file is read back as it was written, whatever the log tells. -/
theorem read_store_writtenFiles {path : Path} {place : Place} {old accepted : Bytes}
    {journal : Journal} (htree : disk.IsTree)
    (hresolve : disk.resolve true path = .ok (.entry place (.file old) false))
    (hlog : HasLogApart disk journal place) :
    (store disk (writtenFiles (.file path place) accepted journal)).read path = .ok accepted := by
  have hat := (Disk.leads_of_resolve hresolve).2.2.2.entry.1
  have hputs := Disk.puts_setContent htree hat accepted
  have hwritten := Disk.faceAt?_eq_some_file_iff.mp hputs.faceAt?_self
  obtain ⟨found, hfound⟩ := hputs.resolve_of_file hat hresolve
  cases hfile : journal.file with
  | none =>
      rw [writtenFiles, hfile]
      exact read_of_resolve hfound hwritten
  | some log =>
      obtain ⟨hne, content, hcontent⟩ := hlog log.place (by rw [Journal.place?, hfile]; rfl)
      -- The log file is still there, and writing it leaves the output file alone.
      rw [← Disk.faceAt?_eq_some_file_iff, ← hputs.faceAt?_of_ne _ hne,
        Disk.faceAt?_eq_some_file_iff] at hcontent
      have hputs' := Disk.puts_setContent hputs.isTree hcontent (Utf8.encode log.text)
      obtain ⟨found', hfound'⟩ := hputs'.resolve_of_file hcontent hfound
      rw [← Disk.faceAt?_eq_some_file_iff, ← hputs'.faceAt?_of_ne _ hne.symm,
        Disk.faceAt?_eq_some_file_iff] at hwritten
      rw [writtenFiles, hfile]
      exact read_of_resolve hfound' hwritten

/-- Without an output file, a path is read as before when it does not look at the log file. -/
theorem read_store_of_stdout {path : Path} {accepted : Bytes} {journal : Journal}
    (htree : disk.IsTree)
    (hlog : ∀ place, journal.place? = some place →
      place ∉ disk.visited path ∧ ∃ content, disk.at? place = some (.file content)) :
    (store disk (writtenFiles .stdout accepted journal)).read path = disk.read path := by
  cases hfile : journal.file with
  | none =>
      rw [writtenFiles, hfile]
      rfl
  | some log =>
      obtain ⟨hvisited, content, hcontent⟩ := hlog log.place (by rw [Journal.place?, hfile]; rfl)
      have hputs := Disk.puts_setContent htree hcontent (Utf8.encode log.text)
      have hpassage : disk.passage? log.place = none := by rw [Disk.passage?, hcontent]
      rw [writtenFiles, hfile]
      exact hputs.read_eq (by rwa [hputs.visited_eq hpassage])

end Program

end JavadocNames
