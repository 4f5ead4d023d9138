import Mathlib.Data.List.Permutation
import JavadocNames.Proofs.Disk.Enumeration
import JavadocNames.Proofs.Run.Sessions
import JavadocNames.Proofs.Run.Trail

/-!
# The two outlets of a journal

A journal is told entries, and it is closed with a summary, perhaps more than once.  Each of
these calls makes some entries, and both outlets are told by the entries of all calls in
order: the log file, if there is one, by all of them, and standard error by those that are
shown.  So echo changes nothing in the log file, and the log file shows on standard error only
where it is said where it is.  A journal whose log file cannot be made goes on as one that was
never to have a log file.
-/

namespace JavadocNames

namespace Entry

/-- The line of an entry. -/
def text : Entry → Text
  | log message => message
  | warn message => Journal.warning message
  | note message => message

/-- The entry is shown on standard error: a warning always, and progress when it is echoed. -/
def isShown (echo : Bool) : Entry → Bool
  | log _ => echo
  | warn _ => true
  | note _ => false

end Entry

namespace Journal

/-- The lines of entries. -/
def linesOf (entries : List Entry) : Text :=
  entries.flatMap fun entry => Text.line entry.text

/-- What is shown of entries. -/
def shown (echo : Bool) (entries : List Entry) : Text :=
  linesOf (entries.filter (·.isShown echo))

/-- A call of a journal. -/
inductive Call where
  /-- The journal is told an entry. -/
  | tell (entry : Entry)
  /-- The journal is closed, at a time and with a summary. -/
  | finish (clock : Clock) (summary : Text)

namespace Call

/-- What a call tells, with or without a log file. -/
def entries : Call → List Entry
  | tell entry => [entry]
  | finish clock summary => (closing clock summary).map .note

/-- Where the log file is; this is said when the journal is closed and there is one. -/
def saved (path? : Option Path) : Call → List Entry
  | tell _ => []
  | finish .. => path?.toList.map fun path => .log ("Log saved to: ".toList ++ path.display)

end Call

/-- Make a call. -/
def make (journal : Journal) : Call → Journal
  | .tell entry => journal.take entry
  | .finish clock summary => journal.finish clock summary

/-- Make calls in order. -/
def makeAll (journal : Journal) (calls : List Call) : Journal :=
  calls.foldl make journal

/-! ## Entries -/

theorem linesOf_append (entries later : List Entry) :
    linesOf (entries ++ later) = linesOf entries ++ linesOf later :=
  List.flatMap_append

theorem shown_append (echo : Bool) (entries later : List Entry) :
    shown echo (entries ++ later) = shown echo entries ++ shown echo later := by
  rw [shown, List.filter_append, linesOf_append]
  rfl

/-- An entry adds its line to the log file, and to standard error if it is shown. -/
theorem take_eq_grown (journal : Journal) (entry : Entry) :
    journal.take entry = journal.grown (linesOf [entry]) (shown journal.echo [entry]) := by
  cases entry with
  | log message =>
      rw [take, log_eq_grown]
      cases hecho : journal.echo <;> simp [linesOf, shown, Entry.text, Entry.isShown]
  | warn message =>
      rw [take, warn_eq_grown]
      simp [linesOf, shown, Entry.text, Entry.isShown]
  | note message =>
      rw [take, note_eq_grown]
      simp [linesOf, shown, Entry.text, Entry.isShown]

theorem foldl_take_eq_grown (journal : Journal) (entries : List Entry) :
    entries.foldl take journal = journal.grown (linesOf entries) (shown journal.echo entries) := by
  induction entries generalizing journal with
  | nil => exact journal.grown_nil.symm
  | cons entry rest ih =>
      have hcons : entry :: rest = [entry] ++ rest := rfl
      rw [List.foldl_cons, ih, take_eq_grown, grown_grown, hcons, linesOf_append, shown_append]
      rfl

/-! ## Calls -/

/-- The entries of calls in order, with the path of the log file if there is one. -/
def told (path? : Option Path) (calls : List Call) : List Entry :=
  calls.flatMap fun call => call.entries ++ call.saved path?

/-- How the path of the log file was spelled. -/
def path? (journal : Journal) : Option Path :=
  journal.file.map (·.path)

theorem path?_grown (journal : Journal) (log told : Text) :
    (journal.grown log told).path? = journal.path? := by
  rw [path?, path?, grown, Option.map_map]
  rfl

theorem told_cons (path? : Option Path) (call : Call) (rest : List Call) :
    told path? (call :: rest) = call.entries ++ call.saved path? ++ told path? rest :=
  List.flatMap_cons

/-- To close a journal is to tell it the lines of its close, and where its log file is. -/
theorem finish_eq_foldl (journal : Journal) (clock : Clock) (summary : Text) :
    journal.finish clock summary =
      ((Call.finish clock summary).entries ++
        (Call.finish clock summary).saved journal.path?).foldl take journal := by
  have hclosed : (closing clock summary).foldl note journal =
      ((closing clock summary).map Entry.note).foldl take journal := by
    rw [List.foldl_map]
    rfl
  have hpath : ((closing clock summary).foldl note journal).path? = journal.path? := by
    rw [hclosed, foldl_take_eq_grown, path?_grown]
  rw [finish, List.foldl_append, Call.entries, ← hclosed, ← hpath, path?]
  cases ((closing clock summary).foldl note journal).file with
  | none => rfl
  | some file => rfl

/-- A call tells its entries. -/
theorem make_eq_grown (journal : Journal) (call : Call) :
    journal.make call =
      journal.grown (linesOf (call.entries ++ call.saved journal.path?))
        (shown journal.echo (call.entries ++ call.saved journal.path?)) := by
  rw [← foldl_take_eq_grown]
  cases call with
  | tell entry => rfl
  | finish clock summary => exact journal.finish_eq_foldl clock summary

/-- Calls tell their entries in order. -/
theorem makeAll_eq_grown (journal : Journal) (calls : List Call) :
    journal.makeAll calls =
      journal.grown (linesOf (told journal.path? calls))
        (shown journal.echo (told journal.path? calls)) := by
  induction calls generalizing journal with
  | nil => exact journal.grown_nil.symm
  | cons call rest ih =>
      have hpath : (journal.make call).path? = journal.path? := by
        rw [make_eq_grown, path?_grown]
      have hecho : (journal.make call).echo = journal.echo := by
        rw [make_eq_grown]
        rfl
      have hrest : journal.makeAll (call :: rest) = (journal.make call).makeAll rest := rfl
      rw [hrest, ih, hpath, hecho, make_eq_grown, grown_grown, told_cons,
        linesOf_append _ (told _ _), shown_append _ _ (told _ _)]

theorem stderr_makeAll (journal : Journal) (calls : List Call) :
    (journal.makeAll calls).stderr =
      journal.stderr ++ shown journal.echo (told journal.path? calls) := by
  rw [makeAll_eq_grown]
  rfl

/-- What is shown of calls, call by call. -/
theorem shown_told (echo : Bool) (path? : Option Path) (calls : List Call) :
    shown echo (told path? calls) = calls.flatMap fun call =>
      shown echo call.entries ++ shown echo (call.saved path?) := by
  induction calls with
  | nil => rfl
  | cons call rest ih => rw [told_cons, shown_append, ih, List.flatMap_cons, shown_append]

/-- Without a log file it is not said where it is. -/
theorem shown_told_none (echo : Bool) (calls : List Call) :
    shown echo (told none calls) = calls.flatMap fun call => shown echo call.entries := by
  rw [shown_told]
  refine List.flatMap_congr fun call _ => ?_
  cases call <;> exact List.append_nil _

/-- Without a log file nothing is shown when a journal is closed. -/
theorem stderr_finish_of_path?_eq_none {journal : Journal} (h : journal.path? = none)
    (clock : Clock) (summary : Text) : (journal.finish clock summary).stderr = journal.stderr := by
  rw [finish_eq_foldl, h, foldl_take_eq_grown]
  exact List.append_nil _

end Journal

/-- A file that a path leads to is read through the path as it was written. -/
theorem Disk.read_setContent {disk : Disk} {path : Path} {place : Place} {old : Bytes}
    (htree : disk.IsTree) (hresolve : disk.resolve true path = .ok (.entry place (.file old) false))
    (content : Bytes) : (disk.setContent place content).read path = .ok content := by
  have hat := (leads_of_resolve hresolve).2.2.2.entry.1
  have hputs := puts_setContent htree hat content
  obtain ⟨found, hfound⟩ := hputs.resolve_of_file hat hresolve
  exact Program.read_of_resolve hfound (faceAt?_eq_some_file_iff.mp hputs.faceAt?_self)

namespace Journal

variable {disk : Disk} {tool : Text} {started : Moment}

/-- A log file that is made is empty, and its path leads to it. -/
theorem resolve_of_createLogFile (htree : disk.IsTree) {file : LogFile}
    (h : (createLogFile disk tool started).2 = .ok file) :
    (createLogFile disk tool started).1.IsTree ∧ file.text = [] ∧
      (createLogFile disk tool started).1.resolve true file.path =
        .ok (.entry file.place (.file []) false) := by
  have hprepared : disk.Grows (fun _ _ => True) (prepared disk tool started) :=
    prepared_grows tool started htree fun _ => trivial
  rcases createLogFile_cases disk tool started with ⟨e, heq⟩ | ⟨place, made, hmade, heq⟩
  · rw [heq] at h
    contradiction
  · rw [heq] at h ⊢
    obtain rfl := Except.ok.inj h
    obtain ⟨hputs, -, -, hresolve⟩ := Disk.createFile_spec hprepared.isTree hmade
    exact ⟨hputs.isTree, rfl, hresolve⟩

theorem openFile_of_ok {file : LogFile} (h : (createLogFile disk tool started).2 = .ok file)
    (echo : Bool) :
    openFile disk tool started echo =
      (⟨echo, some file, []⟩, (createLogFile disk tool started).1) := by
  rw [openFile]
  rcases hcreate : createLogFile disk tool started with ⟨made, e | found⟩
  · rw [hcreate] at h
    contradiction
  · rw [hcreate] at h
    obtain rfl := Except.ok.inj h
    rfl

theorem openFile_of_error {e : DiskError} (h : (createLogFile disk tool started).2 = .error e)
    (echo : Bool) :
    openFile disk tool started echo =
      (⟨echo, none, Text.line ("Warning: Could not create log file: ".toList ++ e.message) ++
        Text.line "Continuing without logging...".toList⟩,
        (createLogFile disk tool started).1) := by
  rw [openFile]
  rcases hcreate : createLogFile disk tool started with ⟨made, found | file⟩
  · rw [hcreate] at h
    obtain rfl := Except.error.inj h
    rfl
  · rw [hcreate] at h
    contradiction

/-- The two outlets of a journal agree, whatever it is told and however often it is closed.
When its log file has been made, the log file holds the lines of all entries in order, echoed
or not, and standard error those that are shown; call by call, these are what a journal without
a log file shows, and where the log file is.  When the log file cannot be made, standard error
says so, and then shows what a journal without a log file shows; no log file comes about, and
nothing is shown when the journal is closed. -/
theorem outlets_agree (htree : disk.IsTree) (tool : Text) (started : Moment) (calls : List Call) :
    (∀ echo, ((console echo).makeAll calls).stderr =
      calls.flatMap fun call => shown echo call.entries) ∧
    (∀ file, (createLogFile disk tool started).2 = .ok file → ∀ echo,
      let opened := openFile disk tool started echo
      let journal := opened.1.makeAll calls
      let entries := told (some file.path) calls
      (journal.save opened.2).read file.path = .ok (Utf8.encode (linesOf entries)) ∧
        journal.stderr = linesOf (entries.filter (·.isShown echo)) ∧
        journal.stderr = calls.flatMap fun call =>
          shown echo call.entries ++ shown echo (call.saved (some file.path))) ∧
    ∀ e, (createLogFile disk tool started).2 = .error e → ∀ echo,
      let opened := openFile disk tool started echo
      let journal := opened.1.makeAll calls
      journal.stderr =
          Text.line ("Warning: Could not create log file: ".toList ++ e.message) ++
            Text.line "Continuing without logging...".toList ++
            ((console echo).makeAll calls).stderr ∧
        journal.save opened.2 = (createLogFile disk tool started).1 ∧
        ∀ clock summary, (journal.finish clock summary).stderr = journal.stderr := by
  have hconsole : ∀ echo, ((console echo).makeAll calls).stderr = shown echo (told none calls) :=
    fun echo => stderr_makeAll (console echo) calls
  refine ⟨fun echo => ?_, fun file hfile echo => ?_, fun e he echo => ?_⟩
  · rw [hconsole, shown_told_none]
  · obtain ⟨hmade, hempty, hresolve⟩ := resolve_of_createLogFile htree hfile
    rw [openFile_of_ok hfile]
    have hstderr : ((Journal.mk echo (some file) []).makeAll calls).stderr =
        shown echo (told (some file.path) calls) := stderr_makeAll _ calls
    refine ⟨?_, hstderr, hstderr.trans (shown_told echo (some file.path) calls)⟩
    rw [makeAll_eq_grown]
    change ((createLogFile disk tool started).1.setContent file.place
      (Utf8.encode (file.text ++ linesOf (told (some file.path) calls)))).read file.path = _
    rw [hempty, List.nil_append, Disk.read_setContent hmade hresolve]
  · rw [openFile_of_error he]
    refine ⟨?_, ?_, fun clock summary => stderr_finish_of_path?_eq_none ?_ clock summary⟩
    · rw [hconsole]
      exact stderr_makeAll _ calls
    · rw [makeAll_eq_grown]
      rfl
    · rw [makeAll_eq_grown]
      rfl

namespace Outlets

/-- Progress, the close of the journal, and a warning that comes later. -/
def calls : List Call :=
  [.tell (.log "Found 1 HTML files".toList), .finish Program.morning "done".toList,
    .tell (.warn "late".toList)]

/-- A log file that can be made. -/
def file : LogFile :=
  ⟨Path.ofText "logs/t/2024-01-02/run-03-04-05.log".toList,
    ["logs", "t", "2024-01-02", "run-03-04-05.log"].map fun name => Utf8.encode name.toList, []⟩

/-- A disk on which the directory of logs is a link that leads to itself. -/
def looping : Disk :=
  ⟨.directory [(Utf8.encode "logs".toList, .link (Path.ofText "logs".toList))], []⟩

/-- Lines one below the other. -/
def lines (texts : List String) : Text :=
  texts.flatMap fun text => Text.line text.toList

/-- What the log file holds in the end. -/
def logged : Text :=
  lines ["Found 1 HTML files", "", "=== Run Summary ===", "done", "Started: 2024-01-02 03:04:05",
    "Ended: 2024-01-02 03:04:06", "Duration: 8ms",
    "Log saved to: logs/t/2024-01-02/run-03-04-05.log", "Warning: late"]

/-- What is shown when there is no log file. -/
def refused : Text :=
  lines ["Warning: Could not create log file: Too many levels of symbolic links (os error 40)",
    "Continuing without logging...", "Found 1 HTML files", "Warning: late"]

/-- A log file that is made, and one that is not because a link leads to itself. -/
theorem outlets_agree_looping :
    Disk.Nested.tree.IsTree ∧
      (createLogFile Disk.Nested.tree "t".toList Program.morning.started).2 = .ok file ∧
      looping.IsTree ∧
      (createLogFile looping "t".toList Program.morning.started).2 = .error .tooManyLinks ∧
      (let opened := openFile Disk.Nested.tree "t".toList Program.morning.started false
      let journal := opened.1.makeAll calls
      (journal.save opened.2).read file.path = .ok (Utf8.encode logged) ∧
        journal.stderr = lines ["Warning: late"]) ∧
      let opened := openFile looping "t".toList Program.morning.started true
      (opened.1.makeAll calls).stderr = refused := by
  have htree : looping.IsTree :=
    ⟨.directory (by decide) (by decide) <| List.forall_mem_singleton.mpr <| .link (by decide), rfl⟩
  have hfile : (createLogFile Disk.Nested.tree "t".toList Program.morning.started).2 =
      .ok file := by
    cbv
  have herror : (createLogFile looping "t".toList Program.morning.started).2 =
      .error .tooManyLinks := by
    cbv
  refine ⟨Disk.Nested.isTree, hfile, htree, herror, ?_, ?_⟩
  · obtain ⟨hread, hstderr, -⟩ :=
      (outlets_agree Disk.Nested.isTree "t".toList Program.morning.started calls).2.1 file hfile
        false
    have hlogged : linesOf (told (some file.path) calls) = logged := by decide +kernel
    have hshown : shown false (told (some file.path) calls) = lines ["Warning: late"] := by
      decide +kernel
    exact ⟨hlogged ▸ hread, hstderr.trans hshown⟩
  · obtain ⟨hconsole, -, hopened⟩ :=
      outlets_agree htree "t".toList Program.morning.started calls
    have hstderr := (hopened _ herror true).1
    have hrefused : Text.line ("Warning: Could not create log file: ".toList ++
          DiskError.tooManyLinks.message) ++ Text.line "Continuing without logging...".toList ++
        calls.flatMap (fun call => shown true call.entries) = refused := by
      decide +kernel
    rw [hconsole, hrefused] at hstderr
    exact hstderr

end Outlets

end Journal

end JavadocNames
