import Mathlib
import JavadocNames.Proofs.Run.Logging

/-!
# Redirecting the output

A run with an output file leaves there what it prints otherwise, and tells the same in the same
way; only the time that it took may differ.  The file is made before the documents are looked
for, so it must not come into their way; one that was there before can hardly do so.
-/

namespace JavadocNames

/-! ## The time that a run took -/

/-- What tells how long a run took. -/
def completion (milliseconds : Nat) : Text :=
  "Completed in ".toList ++ Text.decimal milliseconds ++ "ms".toList

/-- Texts that are the same but for the time that one line tells. -/
inductive SameButTime : Text → Text → Prop
  | same (text : Text) : SameButTime text text
  | timed {front : Text} (hfront : front = [] ∨ front.getLast? = some '\n')
      (milliseconds milliseconds' : Nat) (back : Text) :
      SameButTime (front ++ Text.line (completion milliseconds) ++ back)
        (front ++ Text.line (completion milliseconds') ++ back)

namespace Journal

variable (journal : Journal)

/-- What is shown when the log file is closed. -/
def farewell : Text :=
  match journal.file with
  | none => []
  | some file =>
      if journal.echo then Text.line ("Log saved to: ".toList ++ file.path.display) else []

theorem stderr_log (message : Text) :
    (journal.log message).stderr =
      journal.stderr ++ if journal.echo then Text.line message else [] := by
  rw [log]
  cases hecho : journal.echo with
  | true => rfl
  | false => exact (List.append_nil _).symm

theorem echo_log (message : Text) : (journal.log message).echo = journal.echo := by
  change (if journal.echo then journal.announce message else journal).echo = journal.echo
  split <;> rfl

@[simp] theorem farewell_note (message : Text) :
    (journal.note message).farewell = journal.farewell := by
  rw [farewell, farewell, note]
  cases journal.file <;> rfl

theorem farewell_log (message : Text) : (journal.log message).farewell = journal.farewell := by
  rw [log, farewell_note]
  split <;> rfl

theorem foldl_note (messages : List Text) :
    (messages.foldl note journal).stderr = journal.stderr ∧
      (messages.foldl note journal).farewell = journal.farewell := by
  induction messages generalizing journal with
  | nil => exact ⟨rfl, rfl⟩
  | cons message rest ih =>
      obtain ⟨hstderr, hfarewell⟩ := ih (journal.note message)
      exact ⟨hstderr, hfarewell.trans (journal.farewell_note message)⟩

/-- Closing the log file shows where it is, and no time. -/
theorem stderr_finish (clock : Clock) (summary : Text) :
    (journal.finish clock summary).stderr = journal.stderr ++ journal.farewell := by
  obtain ⟨hstderr, hfarewell⟩ := journal.foldl_note (closing clock summary)
  rw [finish, ← hstderr, ← hfarewell]
  split
  case h_1 hfile => rw [farewell, hfile, List.append_nil]
  case h_2 file hfile => rw [stderr_log, farewell, hfile]

end Journal

/-- Runs that start alike show the same but for the time they took. -/
theorem Tool.stderr_close (tool : Tool) (clock clock' : Clock) (journal : Journal)
    (result : Except Failure Text) :
    SameButTime (tool.close clock journal result).stderr
      (tool.close clock' journal result).stderr := by
  cases result with
  | error failure => exact .same _
  | ok summary =>
      -- What comes behind the time is the same for both.
      have hclose : ∃ back, ∀ clock : Clock, (tool.close clock journal (.ok summary)).stderr =
          ((journal.log summary).log (completion clock.elapsed)).stderr ++ back := by
        refine ⟨if tool.logging then journal.farewell else [], fun clock => ?_⟩
        simp only [close]
        split
        · rw [Journal.stderr_finish, Journal.farewell_log, Journal.farewell_log]
          rfl
        · exact (List.append_nil _).symm
      obtain ⟨back, hback⟩ := hclose
      have htold : ∀ clock : Clock,
          ((journal.log summary).log (completion clock.elapsed)).stderr =
            (journal.log summary).stderr ++
              if journal.echo then Text.line (completion clock.elapsed) else [] := fun clock => by
        rw [Journal.stderr_log, Journal.echo_log]
      rw [hback, hback, htold, htold]
      cases hecho : journal.echo with
      | false => exact .same _
      | true =>
          refine .timed (.inr ?_) clock.elapsed clock'.elapsed back
          rw [Journal.stderr_log, hecho]
          simp [Text.line]

namespace Program

open CommandLine

section Redirects

variable {disk made : Disk} {clock clock' : Clock} {line line' : List Bytes}
variable {arguments : Arguments} {file : Path} {place : Place}

/-- An output file that has been made does not come into the way of the pages that are found
then.  None of them leads to it.  And when nothing was there before, none of them is the file
itself, and none passes through it. -/
structure OutputApart (disk made : Disk) (root : Path) (place : Place) : Prop where
  leads : ∀ pages, made.findPages root = .ok pages → ∀ page ∈ pages, ∀ node slashed,
    made.resolve true page ≠ .ok (.entry place node slashed)
  itself : disk.at? place = none → ∀ pages, made.findPages root = .ok pages →
    ∀ start below, made.LeadsTo root start → start ++ below = place →
      Disk.entryPath root below ∉ pages
  passes : disk.at? place = none → ∀ pages, made.findPages root = .ok pages →
    ∀ page ∈ pages, place ∉ made.visited page

theorem OutputApart.of_new {other : Disk} {root : Path} (h : OutputApart disk made root place)
    (hnew : other.at? place = none → disk.at? place = none) :
    OutputApart other made root place :=
  ⟨h.leads, fun hnone => h.itself (hnew hnone), fun hnone => h.passes (hnew hnone)⟩

section Noticing

variable {content : Bytes} {page : Path} {journal : Journal}
variable (htree : disk.IsTree) (hputs : disk.Puts place (.file content) made)
variable (hold : disk.passage? place = none)

include hputs hold

/-- A page is read as before the output file was made. -/
theorem read_eq_of_puts
    (hleads : ∀ node slashed, made.resolve true page ≠ .ok (.entry place node slashed))
    (hpasses : disk.at? place = none → place ∉ made.visited page) :
    made.read page = disk.read page := by
  cases hface : disk.faceAt? place with
  | none => exact hputs.read_eq (hpasses (Disk.faceAt?_eq_none_iff.mp hface))
  | some face =>
      obtain ⟨old, rfl⟩ := Disk.eq_file_of_passage?_eq_none hold hface
      exact hputs.read_eq_of_file (Disk.faceAt?_eq_some_file_iff.mp hface) hleads

include htree

/-- The documents find the same first messages in the log file, whether there is an output
file or not. -/
theorem read_seen_of_puts (pages : List Path)
    (hlog : ∀ log, journal.place? = some log →
      log ≠ place ∧ ∃ text, disk.at? log = some (.file text))
    (hleads : ∀ node slashed, made.resolve true page ≠ .ok (.entry place node slashed))
    (hpasses : disk.at? place = none → place ∉ made.visited page) :
    (Run.seen made journal pages).read page = (Run.seen disk journal pages).read page := by
  rw [Run.seen, Run.seen, Journal.save, Journal.save]
  cases hfile : (journal.log (Run.foundMessage pages)).file with
  | none => exact read_eq_of_puts hputs hold hleads hpasses
  | some file =>
      have hplace : (journal.log (Run.foundMessage pages)).place? = some file.place := by
        rw [Journal.place?, hfile, Option.map_some]
      rw [Journal.place?_log] at hplace
      obtain ⟨hne, text, hat⟩ := hlog file.place hplace
      have hatMade : made.at? file.place = some (.file text) := by
        rwa [← Disk.faceAt?_eq_some_file_iff, hputs.faceAt?_of_ne _ hne,
          Disk.faceAt?_eq_some_file_iff]
      -- The log file and the output file can be written in any order.
      have hsave := Disk.puts_setContent htree hat (Utf8.encode file.text)
      have hsaveMade := Disk.puts_setContent hputs.isTree hatMade (Utf8.encode file.text)
      refine read_eq_of_puts (hputs.comm hsave hsaveMade hne.symm) ?_ ?_ ?_
      · rwa [hsave.passage?_eq (by rw [Disk.passage?, hat])]
      · intro node slashed hresolve
        obtain ⟨found, hfound⟩ := Disk.exists_resolve_of_shapeAt?_eq hsaveMade.here_eq.symm
          (fun q => (hsaveMade.shapeAt?_eq_of_file hatMade q).symm) hresolve
        exact hleads found slashed hfound
      · rw [hsave.at?_eq_none_iff hne.symm,
          hsaveMade.visited_eq (by rw [Disk.passage?, hatMade])]
        exact hpasses

/-- A run does not notice an output file that does not come into the way of the pages. -/
theorem play_scriptOf_of_puts {root : Place} (hroot : disk.LeadsTo arguments.javadocPath root)
    (hlog : ∀ log, journal.place? = some log →
      log ≠ place ∧ ∃ text, disk.at? log = some (.file text))
    (hpages : OutputApart disk made arguments.javadocPath place) (output : Option Path) :
    (scriptOf arguments made).play (.empty none) journal =
      (scriptOf { arguments with output := output } disk).play (.empty none) journal := by
  have hrootMade := (hputs.leadsTo_iff hold).mpr hroot
  have hfind := hputs.findPages_eq hold htree hroot fun hnone pages hfound below =>
    hpages.itself hnone pages hfound root below hrootMade
  refine play_scriptOf_congr hfind (fun pages hfound page hpage => ?_) output
  have hfoundMade := hfind.trans hfound
  exact read_seen_of_puts htree hputs hold pages hlog (hpages.leads pages hfoundMade page hpage)
    fun hnone => hpages.passes hnone pages hfoundMade page hpage

end Noticing

/-- An output file is left with what a run prints without one.  The run prints nothing then, ends
in the same way, and shows the same but for the time that it took.  The file is not the log
file, and it does not come into the way of the pages.  Only a run that keeps a log must start
at the same moment. -/
theorem output_redirects (htree : disk.IsTree)
    (hstarted : arguments.log = true → clock'.started = clock.started)
    (hline : parse disk line = .ok arguments) (houtput : arguments.output = some file)
    (hline' : parse disk line' = .ok { arguments with output := none })
    (hfile : (opened disk clock.started arguments).2.createFile file = .ok (place, made))
    (hlog : ∀ log, (opened disk clock.started arguments).1.place? = some log → log ≠ place)
    (hpages : OutputApart disk made arguments.javadocPath place) :
    let redirected := run disk clock line
    let printed := run disk clock' line'
    redirected.failed = printed.failed ∧ redirected.stdout = [] ∧
      redirected.disk.read file = .ok printed.stdout ∧
      SameButTime redirected.stderr printed.stderr := by
  intro redirected printed
  obtain ⟨htreeOpened, hleads, hlogged⟩ := opened_spec clock.started arguments htree
  obtain ⟨hputs, hold, -, hresolve⟩ := Disk.createFile_spec htreeOpened hfile
  obtain ⟨root, hroot⟩ := Disk.isDirectory_iff.mp (isDirectory_of_parse hline)
  have hpagesOpened : OutputApart (opened disk clock.started arguments).2 made
      arguments.javadocPath place :=
    hpages.of_new fun hnone => at?_eq_none_of_opened htree hnone
  -- Both runs open the same journal; one plays its script behind the output file.
  have hopened : opened disk clock'.started { arguments with output := none } =
      opened disk clock.started arguments := opened_congr disk hstarted
  have htarget : openTarget (opened disk clock.started arguments).2 arguments.output =
      .ok (.file file place, made) := by
    rw [houtput, openTarget, hfile]
  have htarget' : openTarget (opened disk clock'.started { arguments with output := none }).2
      none = .ok (.stdout, (opened disk clock.started arguments).2) := by
    rw [hopened, openTarget]
  have hplay := play_scriptOf_of_puts htreeOpened hputs hold (hleads _ _ hroot)
    (fun log hplace => ⟨hlog log hplace, _, hlogged log hplace⟩) hpagesOpened none
  have hplace := place?_play_scriptOf made arguments (opened disk clock.started arguments).1
  have hredirected := run_of_openTarget hline htarget
  have hprinted := run_of_openTarget hline' htarget'
  rw [hopened, ← hplay] at hprinted
  generalize (scriptOf arguments made).play (.empty none) _ = played
    at hredirected hprinted hplace
  obtain ⟨sink, journal, result⟩ := played
  simp only [redirected, printed, hredirected, hprinted]
  refine ⟨rfl, rfl, ?_, ?_⟩
  · exact read_store_writtenFiles hputs.isTree hresolve
      (hasLogApart_of_puts htree hputs hlog ((Tool.place?_close _ _ _).trans hplace))
  · simp only [Session.conclude]
    cases result with
    | error failure => exact .same _
    | ok summary =>
        rw [List.append_nil, List.append_nil]
        exact Tool.stderr_close _ _ _ _ _

/-- A quiet run that stops at its first page fails, and shows why. -/
theorem run_of_unreadable {page : Path} {rest : List Path} {target : Target} {cause : DiskError}
    (hline : parse disk line = .ok arguments)
    (hquiet : arguments.log = false ∧ arguments.verbose = false ∧ arguments.keepGoing = false)
    (htarget : openTarget disk arguments.output = .ok (target, made))
    (hfind : made.findPages arguments.javadocPath = .ok (page :: rest))
    (hread : made.read page = .error cause) :
    (run disk clock line).failed = true ∧
      (run disk clock line).stderr = (Failure.load page cause).report := by
  obtain ⟨hlog, hverbose, hkeepGoing⟩ := hquiet
  have hopened : opened disk clock.started arguments = ((Journal.console false).log
      ("Scanning directory '".toList ++ arguments.javadocPath.display ++ "'".toList), disk) := by
    simp only [opened, Tool.openJournal, toolOf, hlog, hverbose]
    rfl
  have htarget' : openTarget (opened disk clock.started arguments).2 arguments.output =
      .ok (target, made) := by
    rw [hopened]
    exact htarget
  have hplay := play_scriptOf made arguments (opened disk clock.started arguments).1
  rw [hkeepGoing, hopened,
    Run.play_script_of_unreadable hfind (by rwa [Run.seen_of_file_eq_none rfl])] at hplay
  rw [run_of_openTarget hline htarget', hopened, hplay]
  refine ⟨rfl, ?_⟩
  simp only [Session.conclude, Tool.close, Journal.stderr_log, Journal.echo_log, Journal.console,
    Except.map, Bool.false_eq_true, if_false, List.nil_append, List.append_nil]

end Redirects

namespace Redirection

/-- A command without an output file. -/
def printing : List Bytes :=
  lineOf ["javadoc2metadata", "-j", "docs", "-p", "p"]

/-- The same command with one. -/
def redirecting : List Bytes :=
  lineOf ["javadoc2metadata", "-j", "docs", "-p", "p", "-o", "out.txt"]

/-- The path of the output file. -/
def output : Path :=
  Path.ofText "out.txt".toList

/-- The arguments with the output file. -/
def arguments : Arguments :=
  ⟨Path.ofText "docs".toList, "p".toList, some output, .attr, false, false, false⟩

/-- The disk with the page `docs/api/A.html` and an empty output file. -/
def made : Disk :=
  ⟨.directory [(Disk.Nested.docs, Disk.Nested.docsNode), (output.bytes, .file [])], []⟩

/-- The times of a run on another day. -/
def evening : Clock :=
  ⟨⟨2024, 5, 6, 21, 8, 9⟩, ⟨2024, 5, 6, 21, 8, 9⟩, 10, 11⟩

theorem outputApart_nested :
    OutputApart Disk.Nested.tree made arguments.javadocPath [output.bytes] := by
  have hfind : made.findPages arguments.javadocPath =
      .ok [Path.ofText "docs/api/A.html".toList] := by
    cbv
  have hpage : made.resolve true (Path.ofText "docs/api/A.html".toList) =
      .ok (.entry [Disk.Nested.docs, Disk.Nested.api, Disk.Nested.page] (.file []) false) := by
    cbv
  have hvisited : made.visited (Path.ofText "docs/api/A.html".toList) =
      [[Disk.Nested.docs], [Disk.Nested.docs, Disk.Nested.api],
        [Disk.Nested.docs, Disk.Nested.api, Disk.Nested.page]] := by
    cbv
  have hroot : made.resolve true arguments.javadocPath =
      .ok (.entry [Disk.Nested.docs] Disk.Nested.docsNode false) := by
    cbv
  refine ⟨fun pages hpages => ?_, fun _ pages hpages start below hleads hbelow => ?_,
    fun _ pages hpages => ?_⟩
  · obtain rfl := Except.ok.inj (hfind.symm.trans hpages)
    refine List.forall_mem_singleton.mpr fun node slashed hresolve => ?_
    obtain ⟨hplace, -, -⟩ :=
      Disk.Target.entry.inj (Except.ok.inj (hpage.symm.trans hresolve))
    revert hplace
    decide
  · obtain ⟨entries, slashed, hstart⟩ := hleads
    obtain ⟨rfl, -, -⟩ := Disk.Target.entry.inj (Except.ok.inj (hroot.symm.trans hstart))
    exact absurd (List.cons.inj hbelow).1 (by decide)
  · obtain rfl := Except.ok.inj (hfind.symm.trans hpages)
    rw [List.forall_mem_singleton, hvisited]
    decide

theorem output_redirects_nested :
    Disk.Nested.tree.IsTree ∧ parse Disk.Nested.tree redirecting = .ok arguments ∧
      parse Disk.Nested.tree printing = .ok { arguments with output := none } ∧
      Disk.Nested.tree.createFile output = .ok ([output.bytes], made) ∧
      (let redirected := run Disk.Nested.tree morning redirecting
      let printed := run Disk.Nested.tree evening printing
      redirected.failed = printed.failed ∧ redirected.stdout = [] ∧
        redirected.disk.read output = .ok printed.stdout ∧
        SameButTime redirected.stderr printed.stderr) := by
  have hline : parse Disk.Nested.tree redirecting = .ok arguments := by cbv
  have hline' : parse Disk.Nested.tree printing = .ok { arguments with output := none } := by cbv
  have hfile : Disk.Nested.tree.createFile output = .ok ([output.bytes], made) := by cbv
  exact ⟨Disk.Nested.isTree, hline, hline', hfile,
    output_redirects Disk.Nested.isTree (fun hlog => absurd hlog Bool.false_ne_true) hline rfl
      hline' hfile (fun log hlog => absurd hlog (Option.not_mem_none log)) outputApart_nested⟩

/-- A command with an output file and without a log, and the same command without the file.  The
file can be made, and no page that is found then leads to it. -/
structure Pair (disk made : Disk) (line line' : List Bytes) (arguments : Arguments) (file : Path)
    (place : Place) : Prop where
  isTree : disk.IsTree
  line : parse disk line = .ok arguments
  line' : parse disk line' = .ok { arguments with output := none }
  output : arguments.output = some file
  log : arguments.log = false
  file : disk.createFile file = .ok (place, made)
  leads : ∀ pages, made.findPages arguments.javadocPath = .ok pages → ∀ page ∈ pages,
    ∀ node slashed, made.resolve true page ≠ .ok (.entry place node slashed)

/-- The page of a directory is a link that would pass through the output file. -/
def detour : Disk :=
  ⟨.directory [(Disk.Nested.docs, .directory [(Utf8.encode "x.html".toList,
    .link (Path.ofText "../out.txt/foo".toList))])], []⟩

/-- The page. -/
def page : Path :=
  Path.ofText "docs/x.html".toList

/-- The disk with the link and an empty output file. -/
def detourMade : Disk :=
  ⟨.directory [(Disk.Nested.docs, .directory [(Utf8.encode "x.html".toList,
    .link (Path.ofText "../out.txt/foo".toList))]), (output.bytes, .file [])], []⟩

theorem findPages_detourMade : detourMade.findPages arguments.javadocPath = .ok [page] := by
  cbv

theorem pair_detour :
    Pair detour detourMade redirecting printing arguments output [output.bytes] where
  isTree := ⟨.directory (by decide) (by decide) <| List.forall_mem_singleton.mpr <|
    .directory (by decide) (by decide) <| List.forall_mem_singleton.mpr <| .link (by decide), rfl⟩
  line := by cbv
  line' := by cbv
  output := rfl
  log := rfl
  file := by cbv
  leads pages hpages := by
    have hresolve : detourMade.resolve true page = .error .notADirectory := by cbv
    obtain rfl := Except.ok.inj (findPages_detourMade.symm.trans hpages)
    refine List.forall_mem_singleton.mpr fun node slashed h => ?_
    rw [hresolve] at h
    contradiction

theorem eq_or_mem_of_sameButTime {text text' : Text} (h : SameButTime text text') :
    text = text' ∨ 'p' ∈ text := by
  cases h with
  | same => exact .inl rfl
  | timed _ milliseconds _ back =>
      have hcompletion : 'p' ∈ completion milliseconds :=
        List.mem_append_left _ (List.mem_append_left _ (by decide))
      exact .inr (List.mem_append_left _ (List.mem_append_right _
        (List.mem_append_left _ hcompletion)))

/-- Making the file changes why the page cannot be read. -/
theorem not_sameButTime_detour : ¬ SameButTime (run detour morning redirecting).stderr
    (run detour morning printing).stderr := by
  have hfind : detour.findPages arguments.javadocPath = .ok [page] := by cbv
  have hread : detour.read page = .error .notFound := by cbv
  have hreadMade : detourMade.read page = .error .notADirectory := by cbv
  have htarget : openTarget detour arguments.output =
      .ok (.file output [output.bytes], detourMade) := by
    rw [arguments, openTarget, pair_detour.file]
  intro hsame
  rw [(run_of_unreadable pair_detour.line ⟨rfl, rfl, rfl⟩ htarget findPages_detourMade hreadMade).2,
    (run_of_unreadable pair_detour.line' ⟨rfl, rfl, rfl⟩ rfl hfind hread).2] at hsame
  rcases eq_or_mem_of_sameButTime hsame with heq | hmem
  · revert heq
    decide
  · revert hmem
    decide

/-- The name of an output file that is spelled like a page. -/
def own : Path :=
  Path.ofText "parameters.html".toList

/-- The disk with that file alone. -/
def ownMade : Disk :=
  ⟨.directory [(own.bytes, .file [])], []⟩

/-- A command that makes the file in its root, behind so many steps that it cannot be opened. -/
def ownLine : List Bytes :=
  Logging.farLine ["-o", "parameters.html"]

theorem isName_own : Disk.IsName own.bytes := by
  decide

theorem far_ne_nil : Logging.far.bytes ≠ [] :=
  List.ne_nil_of_length_eq_add_one Logging.length_far

theorem findPages_ownMade : ownMade.findPages Logging.far = .ok [Logging.far.join own] := by
  have hroot : ownMade.status Logging.far = .ok (.directory [(own.bytes, .file [])]) :=
    Logging.status_far (by cbv)
  have hpage : Disk.isPagePath (Logging.far.join own) := by
    refine Disk.isPagePath_iff.mpr ⟨Utf8.encode "parameters".toList, by decide, ?_⟩
    rw [Path.fileName?_join far_ne_nil isName_own]
    decide
  rw [Disk.findPages_of_status hroot, Disk.pagesAt, Logging.length_far, if_neg (by decide)]
  simp only [Disk.pagesOf, Disk.pagesAt, Disk.sortByName, Disk.insertByName, hpage, if_true]
  rfl

/-- The path by which the file is found is too long for the disk. -/
theorem resolve_own_ne_ok (target : Disk.Target) :
    ownMade.resolve true (Logging.far.join own) ≠ .ok target := by
  intro hresolve
  have hlong := Path.length_le_length_join far_ne_nil isName_own
  rw [Logging.length_far] at hlong
  have hshort := (Disk.leads_of_resolve hresolve).2.2.1
  exact absurd (Nat.lt_of_le_of_lt hlong hshort) (by decide)

theorem pair_own : Pair Logging.bare ownMade ownLine (Logging.farLine [])
    { Logging.farArguments with output := some own } own [own.bytes] where
  isTree := ⟨.directory List.nodup_nil nofun nofun, rfl⟩
  line := Logging.parse_far fun _ => rfl
  line' := Logging.parse_far fun _ => rfl
  output := rfl
  log := rfl
  file := by cbv
  leads pages hpages := by
    obtain rfl := Except.ok.inj (findPages_ownMade.symm.trans hpages)
    exact List.forall_mem_singleton.mpr fun node slashed => resolve_own_ne_ok _

/-- The file is found as a page, which ends a run that finds nothing without it. -/
theorem failed_own : (run Logging.bare morning ownLine).failed = true ∧
    (run Logging.bare morning (Logging.farLine [])).failed = false := by
  constructor
  · have hread : ∃ cause, ownMade.read (Logging.far.join own) = .error cause := by
      cases hresolve : ownMade.resolve true (Logging.far.join own) with
      | ok target => exact absurd hresolve (resolve_own_ne_ok target)
      | error cause =>
          refine ⟨cause, ?_⟩
          rw [Disk.read, Disk.status, hresolve]
          rfl
    obtain ⟨cause, hread⟩ := hread
    have htarget : openTarget Logging.bare (some own) = .ok (.file own [own.bytes], ownMade) := by
      rw [openTarget, pair_own.file]
    exact (run_of_unreadable pair_own.line ⟨rfl, rfl, rfl⟩ htarget findPages_ownMade hread).1
  · have hline : parse Logging.bare (Logging.farLine []) = .ok Logging.farArguments :=
      pair_own.line'
    rw [failed_run hline rfl, (opened_of_not_log Logging.bare morning.started rfl).1,
      play_scriptOf, Run.play_script_of_ok (Sink.holds_none _) Logging.findPages_bare_far]
    rfl

/-- A file that no page leads to can come into the way of the pages when it is new.  A page that
leads nowhere may pass through it, and then the file changes why the page cannot be read.  Or
the file is itself found as a page, by a path that is too long to be opened. -/
theorem detour_shows :
    (Pair detour detourMade redirecting printing arguments output [output.bytes] ∧
      ¬ SameButTime (run detour morning redirecting).stderr
        (run detour morning printing).stderr) ∧
    Pair Logging.bare ownMade ownLine (Logging.farLine [])
        { Logging.farArguments with output := some own } own [own.bytes] ∧
      (run Logging.bare morning ownLine).failed = true ∧
      (run Logging.bare morning (Logging.farLine [])).failed = false :=
  ⟨⟨pair_detour, not_sameButTime_detour⟩, pair_own, failed_own⟩

end Redirection

end Program

end JavadocNames
