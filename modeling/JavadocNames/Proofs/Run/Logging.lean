import Mathlib
import JavadocNames.Proofs.Run.Sessions

/-!
# Logging and the product of a run

The product of a run is how it ends and what it writes, on standard output or in its output
file.  A log is made before the run looks at anything, and echoed progress goes elsewhere; so
the product is that of a run without a log, as long as what the log adds to the disk is apart
from what the run looks at.
-/

namespace JavadocNames

namespace Program

open CommandLine

section Products

variable {disk made : Disk} {clock : Clock} {started : Moment} {line : List Bytes}
variable {arguments : Arguments}

/-- How a run ends, what it prints, and what can be read in its output file. -/
structure Product where
  failed : Bool
  stdout : Bytes
  output : Option (Except DiskError Bytes)

/-- The product of an outcome with a given output file. -/
def Outcome.product (outcome : Outcome) (output : Option Path) : Product :=
  ⟨outcome.failed, outcome.stdout, output.map outcome.disk.read⟩

/-- What is made for a log is apart from what a run looks at.  The log file is new.  Resolving
the output file does not look at anything new, nor does resolving a link.  And the directories
that are new below the root can be listed. -/
structure LogApart (disk : Disk) (started : Moment) (arguments : Arguments) : Prop where
  log_new : ∀ place, (opened disk started arguments).1.place? = some place →
    disk.at? place = none
  output_apart : ∀ path, arguments.output = some path →
    ∀ q ∈ (opened disk started arguments).2.visited path,
      disk.at? q = none → (opened disk started arguments).2.at? q = none
  links_apart : ∀ place name target, disk.at? (place ++ [name]) = some (.link target) →
    ∀ q ∈ (opened disk started arguments).2.wayFrom true Disk.linkLimit place [name],
      disk.at? q = none → (opened disk started arguments).2.at? q = none
  short : ∀ start below, disk.LeadsTo arguments.javadocPath start →
    disk.at? (start ++ below) = none →
    (opened disk started arguments).2.HasDirectory (start ++ below) →
    (Disk.entryPath arguments.javadocPath below).bytes.length < Disk.pathLimit

/-- The product of a run without a log. -/
def productOf (disk : Disk) (arguments : Arguments) : Product :=
  match openTarget disk arguments.output with
  | .error _ => ⟨true, [], arguments.output.map disk.read⟩
  | .ok (target, made) =>
      let (bytes, result) := (scriptOf arguments made).outcome .disabled
      ⟨result matches .error _,
        match target with
        | .stdout => bytes
        | .file .. => [],
        arguments.output.map fun _ => .ok bytes⟩

theorem LogApart.apart (h : LogApart disk started arguments) (htree : disk.IsTree) {start : Place}
    (hroot : disk.LeadsTo arguments.javadocPath start) :
    disk.Apart arguments.javadocPath start (opened disk started arguments).2 :=
  ⟨(toolOf arguments).openJournal_grows started htree h.log_new h.links_apart, hroot,
    h.links_apart, fun below => h.short start below hroot⟩

/-- What the journal of a run adds to the disk does not show in what the run writes, nor in how
it ends, though the documents find the first messages in the log file. -/
theorem outcome_scriptOf_of_apart {start : Place} {journal : Journal} (htree : disk.IsTree)
    (h : disk.Apart arguments.javadocPath start made)
    (hlog : ∀ place, journal.place? = some place →
      disk.at? place = none ∧ ∃ content, made.at? place = some (.file content)) :
    (scriptOf arguments made).outcome journal =
      (scriptOf arguments disk).outcome .disabled := by
  have hseen : ∀ pages,
      disk.Apart arguments.javadocPath start (Run.seen made journal pages) := by
    intro pages
    rw [Run.seen, Journal.save]
    split
    case h_1 => exact h
    case h_2 file hfile =>
        have hplace : (journal.log (Run.foundMessage pages)).place? = some file.place := by
          rw [Journal.place?, hfile, Option.map_some]
        rw [Journal.place?_log] at hplace
        obtain ⟨hnew, content, hat⟩ := hlog file.place hplace
        exact h.rewritten hnew hat (Disk.puts_setContent h.grows.isTree hat _)
  rw [outcome_scriptOf, outcome_scriptOf]
  congr 1
  refine Run.outcome_script_congr (h.findPages_eq htree) fun pages hpages page hpage => ?_
  exact (hseen pages).read_eq htree hpages hpage

/-- A log file is not among the places that an output path looks at. -/
theorem LogApart.not_mem_visited (h : LogApart disk started arguments) (htree : disk.IsTree)
    {path : Path} (houtput : arguments.output = some path) {place : Place}
    (hplace : (opened disk started arguments).1.place? = some place) :
    place ∉ (opened disk started arguments).2.visited path := by
  intro hvisited
  have hat := (opened_spec started arguments htree).2.2 place hplace
  rw [h.output_apart path houtput place hvisited (h.log_new place hplace)] at hat
  contradiction

section Cases

variable (htree : disk.IsTree) (hline : parse disk line = .ok arguments)
variable (h : LogApart disk clock.started arguments)

include htree hline h

theorem product_eq_productOf_of_stdout (houtput : arguments.output = none) :
    (run disk clock line).product arguments.output = productOf disk arguments := by
  obtain ⟨start, hroot⟩ := Disk.isDirectory_iff.mp (isDirectory_of_parse hline)
  obtain ⟨-, -, hfile⟩ := opened_spec clock.started arguments htree
  have htarget : openTarget (opened disk clock.started arguments).2 arguments.output =
      .ok (.stdout, (opened disk clock.started arguments).2) := by
    rw [houtput, openTarget]
  have houtcome := outcome_scriptOf_of_apart htree (h.apart htree hroot) fun place hplace =>
    ⟨h.log_new place hplace, _, hfile place hplace⟩
  simp only [run_of_openTarget hline htarget, productOf, houtput, openTarget, ← houtcome]
  rfl

/-- An output file that cannot be made is left as it is, with and without a log. -/
theorem product_eq_productOf_of_error {path : Path} {e : DiskError}
    (houtput : arguments.output = some path) (hdisk : disk.createFile path = .error e)
    (hopened : (opened disk clock.started arguments).2.createFile path = .error e) :
    (run disk clock line).product arguments.output = productOf disk arguments := by
  obtain ⟨start, hroot⟩ := Disk.isDirectory_iff.mp (isDirectory_of_parse hline)
  have hgrows := (h.apart htree hroot).grows
  obtain ⟨hopenedTree, -, hfile⟩ := opened_spec clock.started arguments htree
  have htarget : openTarget (opened disk clock.started arguments).2 arguments.output =
      .error (.createOutput path e) := by
    rw [houtput, openTarget, hopened]
  have hread : (opened disk clock.started arguments).2.read path = disk.read path :=
    (Disk.read_of_faceAt?_eq hgrows.here_eq.symm fun q hq =>
      (hgrows.faceAt?_eq_of_not_new (h.output_apart path houtput q hq)).symm).symm
  have hlog : (store (opened disk clock.started arguments).2 (writtenFiles .stdout
      (Sink.empty none).accepted (opened disk clock.started arguments).1)).read path =
      (opened disk clock.started arguments).2.read path :=
    read_store_of_stdout hopenedTree fun place hplace =>
      ⟨h.not_mem_visited htree houtput hplace, _, hfile place hplace⟩
  simp only [run_of_openTarget_error hline htarget, productOf, houtput, openTarget, hdisk,
    Outcome.product, Session.conclude, Tool.close, Option.map_some, hlog, hread]
  rfl

/-- An output file that can be made has what the script writes, with and without a log. -/
theorem product_eq_productOf_of_file {path : Path} {place start : Place} {disk' made' : Disk}
    (houtput : arguments.output = some path) (hdisk : disk.createFile path = .ok (place, disk'))
    (hopened : (opened disk clock.started arguments).2.createFile path = .ok (place, made'))
    (hapart' : disk'.Apart arguments.javadocPath start made') :
    (run disk clock line).product arguments.output = productOf disk arguments := by
  obtain ⟨root, hroot⟩ := Disk.isDirectory_iff.mp (isDirectory_of_parse hline)
  have hgrows := (h.apart htree hroot).grows
  have htarget : openTarget (opened disk clock.started arguments).2 arguments.output =
      .ok (.file path place, made') := by
    rw [houtput, openTarget, hopened]
  obtain ⟨hputs, -, hway, hresolve⟩ := Disk.createFile_spec hgrows.isTree hopened
  obtain ⟨hputs', -, -, -⟩ := Disk.createFile_spec htree hdisk
  have hvisited : place ∈ (opened disk clock.started arguments).2.visited path := by
    rwa [Disk.visited_of_createFile_ok hgrows.isTree hopened]
  -- Resolving the output file looks at the file itself, so the log file is elsewhere.
  have hlog : ∀ log, (opened disk clock.started arguments).1.place? = some log →
      log ≠ place := by
    rintro log hplace rfl
    exact h.not_mem_visited htree houtput hplace hvisited
  have houtcome := outcome_scriptOf_of_apart hputs'.isTree hapart' fun log hplace =>
    ⟨(hputs'.at?_eq_none_iff (hlog log hplace)).mpr (h.log_new log hplace),
      (hasLogApart_of_puts htree hputs hlog rfl log hplace).2⟩
  have hread : ∀ accepted, (store made' (writtenFiles (.file path place) accepted
      ((toolOf arguments).close clock
        ((scriptOf arguments made').play (.empty none)
          (opened disk clock.started arguments).1).2.1
        ((scriptOf arguments made').play (.empty none)
          (opened disk clock.started arguments).1).2.2))).read path = .ok accepted :=
    fun accepted => read_store_writtenFiles hputs.isTree hresolve
      (hasLogApart_of_puts htree hputs hlog
        ((Tool.place?_close _ _ _).trans (place?_play_scriptOf _ _ _)))
  simp only [run_of_openTarget hline htarget, productOf, houtput, openTarget, hdisk,
    ← houtcome, Outcome.product, Session.conclude, Option.map_some, hread]
  rfl

/-- The product of a run is that of a run without a log.  The output file can be made on the
disk that the log has grown exactly when it can be made without the log. -/
theorem product_eq_productOf :
    (run disk clock line).product arguments.output = productOf disk arguments := by
  obtain ⟨start, hroot⟩ := Disk.isDirectory_iff.mp (isDirectory_of_parse hline)
  cases houtput : arguments.output with
  | none =>
      rw [← houtput]
      exact product_eq_productOf_of_stdout htree hline h houtput
  | some path =>
      rw [← houtput]
      rcases (h.apart htree hroot).createFile_eq htree (h.output_apart path houtput) with
        ⟨e, hdisk, hopened⟩ | ⟨place, disk', made', hdisk, hopened, hapart'⟩
      · exact product_eq_productOf_of_error htree hline h houtput hdisk hopened
      · exact product_eq_productOf_of_file htree hline h houtput hdisk hopened hapart'

end Cases

/-- Echoing progress and writing a log file, in whatever combination, leave how a run ends, what
it prints and its output file as they are.  The log file is new; resolving the output file or a
link does not look at what is made for the log; and the new directories below the root can be
listed.  A log file that cannot be made is not missed. -/
theorem logging_keeps_product {clock' : Clock} {line' : List Bytes} {verbose log : Bool}
    (htree : disk.IsTree) (hline : parse disk line = .ok arguments)
    (hline' : parse disk line' = .ok { arguments with verbose := verbose, log := log })
    (h : LogApart disk clock.started arguments)
    (h' : LogApart disk clock'.started { arguments with verbose := verbose, log := log }) :
    let outcome := run disk clock line
    let outcome' := run disk clock' line'
    outcome'.failed = outcome.failed ∧ outcome'.stdout = outcome.stdout ∧
      ∀ path, arguments.output = some path →
        outcome'.disk.read path = outcome.disk.read path := by
  intro outcome outcome'
  have hproduct : outcome'.product arguments.output = outcome.product arguments.output := by
    have hproduct' := product_eq_productOf htree hline' h'
    rw [product_eq_productOf htree hline h]
    exact hproduct'
  obtain ⟨hfailed, hstdout, houtput⟩ := Product.mk.inj hproduct
  refine ⟨hfailed, hstdout, fun path hpath => ?_⟩
  rw [hpath] at houtput
  exact Option.some.inj houtput

/-- Without a log there is nothing that could come into the way. -/
theorem logApart_of_not_log (disk : Disk) (started : Moment) (hlog : arguments.log = false) :
    LogApart disk started arguments := by
  obtain ⟨hdisk, hplace⟩ := opened_of_not_log disk started hlog
  constructor
  · intro place h
    rw [hplace] at h
    contradiction
  · intro path _ q _ hq
    rwa [hdisk]
  · intro place name target _ q _ hq
    rwa [hdisk]
  · intro start below _ hnone hdirectory
    rw [hdisk, Disk.hasDirectory_iff, hnone] at hdirectory
    obtain ⟨entries, hentries⟩ := hdirectory
    contradiction

end Products

namespace Logging

/-- A command with an output file, over the working directory. -/
def quiet : List Bytes :=
  lineOf ["javadoc2metadata", "-j", ".", "-p", "p", "-o", "out.txt"]

/-- The same command with a log. -/
def logged : List Bytes :=
  lineOf ["javadoc2metadata", "-l", "-j", ".", "-v", "-p", "p", "-o", "out.txt"]

/-- The working directory as a root. -/
def here : Path :=
  Path.ofText ".".toList

/-- The arguments without a log. -/
def arguments : Arguments :=
  ⟨here, "p".toList, some (Path.ofText "out.txt".toList), .attr, false, false, false⟩

/-- The arguments with a log. -/
def loggedArguments : Arguments :=
  { arguments with verbose := true, log := true }

/-- The directory of logs. -/
def logs : Bytes :=
  Utf8.encode "logs".toList

/-- The directory of the logs of one tool. -/
def tool : Bytes :=
  Utf8.encode toolName

/-- The directory of the logs of one day. -/
def date : Bytes :=
  Utf8.encode "2024-01-02".toList

/-- The name of a log file. -/
def runName : Bytes :=
  Utf8.encode "run-03-04-05.log".toList

/-- What is made for a log file. -/
def logsNode : DiskNode :=
  (DiskNode.file []).chain [tool, date, runName]

/-- The disk with a page and a log file. -/
def logsMade : Disk :=
  ⟨.directory [(Disk.Nested.docs, Disk.Nested.docsNode), (logs, logsNode)], []⟩

theorem opened_logged :
    (opened Disk.Nested.tree morning.started loggedArguments).2 = logsMade := by
  cbv

theorem place?_logged :
    (opened Disk.Nested.tree morning.started loggedArguments).1.place? =
      some [logs, tool, date, runName] := by
  cbv

theorem at?_tree_ne_link (place : Place) (target : Path) :
    Disk.Nested.tree.at? place ≠ some (.link target) := by
  intro h
  have hchain : Disk.Nested.tree.top =
      (DiskNode.file []).chain [Disk.Nested.docs, Disk.Nested.api, Disk.Nested.page] := rfl
  rw [Disk.at?, hchain] at h
  obtain ⟨below, -, hbelow⟩ := DiskNode.exists_append_of_at?_chain h
  cases below <;> contradiction

/-- The directories that are new. -/
theorem mem_of_hasDirectory_logsMade {place : Place} (hdirectory : logsMade.HasDirectory place)
    (hnone : Disk.Nested.tree.at? place = none) :
    place ∈ [logs, tool, date, runName].inits := by
  obtain ⟨entries, hat⟩ := Disk.hasDirectory_iff.mp hdirectory
  cases place with
  | nil => contradiction
  | cons name rest =>
      obtain ⟨child, hchild, hrest⟩ := DiskNode.exists_mem_of_at?_cons hat
      rcases List.mem_cons.mp hchild with hdocs | hlogs
      · obtain ⟨rfl, rfl⟩ := Prod.mk.inj hdocs
        exact absurd (hnone.symm.trans hrest) nofun
      · obtain ⟨rfl, rfl⟩ := Prod.mk.inj (List.mem_singleton.mp hlogs)
        obtain ⟨below, hbelow, -⟩ := DiskNode.exists_append_of_at?_chain hrest
        exact (List.mem_inits _ _).mpr ⟨below, congrArg (logs :: ·) hbelow⟩

theorem logApart_logged :
    LogApart Disk.Nested.tree morning.started loggedArguments where
  log_new place hplace := by
    rw [place?_logged] at hplace
    obtain rfl := Option.some.inj hplace
    rfl
  output_apart path hpath q hq _ := by
    have hvisited : logsMade.visited (Path.ofText "out.txt".toList) =
        [[Utf8.encode "out.txt".toList]] := by
      cbv
    obtain rfl := Option.some.inj hpath
    rw [opened_logged, hvisited] at hq
    rw [opened_logged, List.mem_singleton.mp hq]
    rfl
  links_apart place name target hlink := absurd hlink (at?_tree_ne_link _ _)
  short start below hroot hnone hdirectory := by
    have hhere : Disk.Nested.tree.resolve true here =
        .ok (.entry [] Disk.Nested.tree.top false) := by
      cbv
    have hshort : ∀ place ∈ [logs, tool, date, runName].inits,
        (Disk.entryPath here place).bytes.length < Disk.pathLimit := by
      decide
    obtain ⟨entries, slashed, hstart⟩ := hroot
    obtain ⟨rfl, -, -⟩ := Disk.Target.entry.inj (Except.ok.inj (hhere.symm.trans hstart))
    rw [opened_logged] at hdirectory
    exact hshort below (mem_of_hasDirectory_logsMade hdirectory hnone)

theorem logging_keeps_product_logged :
    Disk.Nested.tree.IsTree ∧ parse Disk.Nested.tree quiet = .ok arguments ∧
      parse Disk.Nested.tree logged = .ok loggedArguments ∧
      (opened Disk.Nested.tree morning.started loggedArguments).2 = logsMade ∧
      (let outcome := run Disk.Nested.tree morning quiet
      let outcome' := run Disk.Nested.tree morning logged
      outcome'.failed = outcome.failed ∧ outcome'.stdout = outcome.stdout ∧
        ∀ path, arguments.output = some path →
          outcome'.disk.read path = outcome.disk.read path) := by
  have hquiet : parse Disk.Nested.tree quiet = .ok arguments := by cbv
  have hlogged : parse Disk.Nested.tree logged = .ok loggedArguments := by cbv
  exact ⟨Disk.Nested.isTree, hquiet, hlogged, opened_logged,
    logging_keeps_product Disk.Nested.isTree hquiet hlogged
      (logApart_of_not_log _ _ rfl) logApart_logged⟩

/-- The working directory behind so many steps that it can be listed and what is made in it for
a log cannot. -/
@[irreducible]
def far : Path :=
  here.dotted 2040

/-- The arguments with that root, without a log. -/
def farArguments : Arguments :=
  ⟨far, "p".toList, none, .attr, false, false, false⟩

/-- A command over that root. -/
def farLine (options : List String) : List Bytes :=
  lineOf ["javadoc2metadata", "-j"] ++ far.bytes :: lineOf (["-p", "p"] ++ options)

/-- A disk without anything. -/
def bare : Disk :=
  ⟨.directory [], []⟩

/-- The disk with the log file. -/
def bareMade : Disk :=
  ⟨.directory [(logs, logsNode)], []⟩

theorem length_far : far.bytes.length = 4081 := by
  rw [far, Path.length_dotted]
  decide

/-- The root leads to the working directory. -/
theorem resolve_far {disk : Disk} {target : Disk.Target}
    (h : disk.resolve true here = .ok target) : disk.resolve true far = .ok target := by
  have hshort : far.bytes.length < Disk.pathLimit := by
    rw [length_far]
    decide
  rw [far] at hshort ⊢
  rw [Disk.resolve_dotted true 2040 rfl (by decide) hshort, h]

theorem status_far {disk : Disk} {node : DiskNode}
    (h : disk.resolve true here = .ok (.entry [] node false)) : disk.status far = .ok node :=
  Disk.status_eq_ok_iff.mpr ⟨_, _, resolve_far h, fun h => absurd h Bool.false_ne_true⟩

theorem parse_far {options : List String} {output : Option Path} {log : Bool}
    (hoptions : ∀ rest, optionsOf
      (lineOf ["-j"] ++ (Path.dot :: rest) :: lineOf (["-p", "p"] ++ options)) =
        .ok ⟨some ⟨Path.dot :: rest⟩, some "p".toList, output, none, false, false, log⟩) :
    parse bare (farLine options) = .ok { farArguments with output := output, log := log } := by
  have hdot : ∃ rest, far.bytes = Path.dot :: rest := by
    rw [far]
    exact ⟨_, rfl⟩
  obtain ⟨rest, hrest⟩ := hdot
  have hbare : bare.resolve true here = .ok (.entry [] bare.top false) := by cbv
  have hdirectory : bare.isDirectory far = true :=
    Disk.isDirectory_iff.mpr ⟨[], _, _, resolve_far hbare⟩
  have hread : CommandLine.read bare (farLine options).tail =
      Given.complete ⟨some far, some "p".toList, output, none, false, false, log⟩ bare := by
    have hfar : far = ⟨Path.dot :: rest⟩ := by rw [← hrest]
    change optionsOf (lineOf ["-j"] ++ far.bytes :: lineOf (["-p", "p"] ++ options)) >>=
      (·.complete bare) = _
    rw [hrest, hoptions, ← hfar]
    rfl
  rw [parse, hread, complete_eq_ok rfl rfl hdirectory]
  rfl

theorem opened_far :
    (opened bare morning.started { farArguments with log := true }).2 = bareMade ∧
      (opened bare morning.started { farArguments with log := true }).1.place? =
        some [logs, tool, date, runName] := by
  have hfile : Journal.createLogFile bare toolName morning.started =
      (bareMade, .ok ⟨Journal.path toolName morning.started, [logs, tool, date, runName], []⟩) := by
    cbv
  simp only [opened, Tool.openJournal, toolOf, if_true, Journal.openFile, hfile, Journal.place?_log]
  exact ⟨trivial, rfl⟩

theorem findPages_bare_far : bare.findPages far = .ok [] := by
  have hroot : bare.status far = .ok (.directory []) := status_far (by cbv)
  rw [Disk.findPages_of_status hroot, Disk.pagesAt, length_far, if_neg (by decide)]
  rfl

/-- The directory of the logs of the tool is too deep below the root. -/
theorem exists_findPages_bareMade_far : ∃ failure, bareMade.findPages far = .error failure := by
  have htree : bareMade.IsTree :=
    ⟨DiskNode.isTree_chain (.file [])
      (by decide : ∀ name ∈ [logs, tool, date, runName], Disk.IsName name), rfl⟩
  have hroot : bareMade.status far = .ok bareMade.top := status_far (by cbv)
  have hlong : Disk.pathLimit ≤ (Disk.entryPath far [logs, tool]).bytes.length := by
    have hfar : far.bytes ≠ [] := List.ne_nil_of_length_eq_add_one length_far
    have hname : Disk.IsName logs ∧ Disk.IsName tool := by decide
    have hlogs := Path.length_le_length_join hfar hname.1
    have htool := Path.length_le_length_join (Path.join_ne_nil hfar hname.1) hname.2
    refine Nat.le_trans ?_ (Nat.le_trans (Nat.add_le_add_right hlogs tool.length) htool)
    rw [length_far]
    decide
  obtain ⟨first, -, -, hfirst⟩ := Disk.exists_findPages_eq_error htree hroot
    (Disk.sees_isTooDeep_iff.mpr ⟨_, rfl, hlong⟩)
  exact ⟨_, hfirst⟩

/-- A log that is kept in a directory whose path is too long for the search to list changes how a
run ends, though its file is new and no link leads to it. -/
theorem far_log_shows :
    bare.IsTree ∧ parse bare (farLine []) = .ok farArguments ∧
      parse bare (farLine ["-l"]) = .ok { farArguments with log := true } ∧
      (opened bare morning.started { farArguments with log := true }).1.place? =
        some [logs, tool, date, runName] ∧
      bare.at? [logs, tool, date, runName] = none ∧
      (∀ place target, bare.at? place ≠ some (.link target)) ∧
      (run bare morning (farLine [])).failed = false ∧
      (run bare morning (farLine ["-l"])).failed = true := by
  have hquiet : parse bare (farLine []) = .ok farArguments := parse_far fun _ => rfl
  have hlogged : parse bare (farLine ["-l"]) = .ok { farArguments with log := true } :=
    parse_far fun _ => rfl
  refine ⟨⟨.directory List.nodup_nil nofun nofun, rfl⟩, hquiet, hlogged, opened_far.2, rfl,
    ?_, ?_, ?_⟩
  · intro place target h
    cases place with
    | nil => exact nomatch Option.some.inj h
    | cons name rest => contradiction
  · rw [failed_run hquiet rfl, (opened_of_not_log bare morning.started rfl).1, play_scriptOf,
      Run.play_script_of_ok (Sink.holds_none _) findPages_bare_far]
    rfl
  · obtain ⟨failure, hfailure⟩ := exists_findPages_bareMade_far
    rw [failed_run hlogged rfl, opened_far.1, play_scriptOf,
      Run.play_script_of_error (Sink.holds_none _) hfailure]
    rfl

end Logging

end Program

end JavadocNames
