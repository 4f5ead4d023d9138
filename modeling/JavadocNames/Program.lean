import JavadocNames.CommandLine.Reading
import JavadocNames.Run
import JavadocNames.Tool

/-!
# The program

The whole program as a function of the disk, the clock and the command line: what
it prints, how it ends, and what it leaves on the disk.
-/

namespace JavadocNames

namespace Program

open CommandLine

/-- A file that the program wrote: the path by which it was opened, its place, and
its content. -/
structure Written where
  path : Path
  place : Place
  content : Bytes

/-- How the program ends. -/
structure Outcome where
  /-- The program ends with a failure. -/
  failed : Bool
  stdout : Bytes
  stderr : Text
  /-- The files that were written, each whole. -/
  written : List Written
  disk : Disk

/-- Where the records go. -/
inductive Target where
  | stdout
  | file (path : Path) (place : Place)

/-- Make the output file, if there is to be one. -/
def openTarget (disk : Disk) : Option Path → Except Failure (Target × Disk)
  | none => .ok (.stdout, disk)
  | some path =>
      match disk.createFile path with
      | .ok (place, disk) => .ok (.file path place, disk)
      | .error cause => .error (.createOutput path cause)

/-- Store files on a disk. -/
def store (disk : Disk) (written : List Written) : Disk :=
  written.foldl (fun disk file => disk.setContent file.place file.content) disk

/-- The output file and the log file as they are left. -/
def writtenFiles (target : Target) (accepted : Bytes) (journal : Journal) : List Written :=
  (match target with
    | .stdout => []
    | .file path place => [⟨path, place, accepted⟩]) ++
    journal.file.toList.map fun log => ⟨log.path, log.place, Utf8.encode log.text⟩

/-- How the tool is run for some arguments. -/
def toolOf (arguments : Arguments) : Tool :=
  ⟨toolName, arguments.javadocPath, arguments.log, arguments.verbose⟩

/-- The number of bytes for which there is room in the buffer in front of standard output
or of the output file. -/
def bufferSize : Nat :=
  8192

/-- The run over a disk that some arguments ask for; it ends in its summary.  An output file
is flushed once more. -/
def scriptOf (arguments : Arguments) (disk : Disk) : Script Text := do
  let summary ← Run.script disk ⟨arguments.packageName, .standard⟩
    ⟨arguments.javadocPath, arguments.format, arguments.keepGoing⟩
  if arguments.output.isSome then Script.flush
  return summary.line

/-- A run whose script has been played, and whose buffer has been given up. -/
structure Session where
  tool : Tool
  target : Target
  sink : Sink
  journal : Journal
  result : Except Failure Text
  disk : Disk

/-- Start a run.  The log file is made first, then the output file; the documents
are looked for after that.  What is written goes through a buffer, which is given up in
the end, however the run ends. -/
def start (disk : Disk) (started : Moment) (arguments : Arguments) : Session :=
  let tool := toolOf arguments
  let (journal, disk) := tool.openJournal disk started
  match openTarget disk arguments.output with
  | .error failure => ⟨tool, .stdout, .empty none, journal, .error failure, disk⟩
  | .ok (target, disk) =>
      let (sink, journal, result) :=
        (scriptOf arguments disk).play (.buffered bufferSize [] ⟨none, []⟩) journal
      ⟨tool, target, sink.close, journal, result, disk⟩

/-- End a run. -/
def Session.conclude (session : Session) (clock : Clock) : Outcome :=
  let journal := session.tool.close clock session.journal session.result
  let written := writtenFiles session.target session.sink.accepted journal
  { failed := session.result matches .error _
    stdout := match session.target with
      | .stdout => session.sink.accepted
      | .file .. => []
    stderr := journal.stderr ++
      match session.result with
      | .ok _ => []
      | .error failure => failure.report
    written := written
    disk := store session.disk written }

/-- Show a text on standard output. -/
def print (disk : Disk) (text : Text) : Outcome :=
  ⟨false, Utf8.encode (Text.line text), [], [], disk⟩

/-- Run with a command line.  The help is shown in place of a run, and that is no
failure. -/
def run (disk : Disk) (clock : Clock) (line : List Bytes) : Outcome :=
  match CommandLine.parse disk line with
  | .ok arguments => (start disk clock.started arguments).conclude clock
  | .error text => print disk text

end Program

end JavadocNames
