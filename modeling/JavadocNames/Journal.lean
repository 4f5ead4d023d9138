import JavadocNames.Clock
import JavadocNames.Disk.Change

/-!
# The journal of a run

A journal takes messages of three kinds.  Progress is echoed on standard error
when echo is on, warnings always are, and notes never.  When the journal has a
log file, it takes every message.  A log file that cannot be made costs two lines
on standard error and nothing else.
-/

namespace JavadocNames

/-- A message for the journal. -/
inductive Entry where
  /-- Progress: echoed when echo is on. -/
  | log (message : Text)
  /-- A warning: always shown. -/
  | warn (message : Text)
  /-- A note for the log file only. -/
  | note (message : Text)

/-- An open log file: how its path was spelled, where it is, and its text. -/
structure LogFile where
  path : Path
  place : Place
  text : Text

/-- The state of the two outlets of messages. -/
structure Journal where
  echo : Bool
  file : Option LogFile
  /-- What was written on standard error. -/
  stderr : Text

namespace Journal

/-- A journal without a log file. -/
def console (echo : Bool) : Journal :=
  ⟨echo, none, []⟩

/-- A journal that shows warnings only. -/
def disabled : Journal :=
  console false

/-- The directory of the log files that a tool writes on one day. -/
def directory (tool : Text) (started : Moment) : Path :=
  ((Path.ofText "logs".toList).join (Path.ofText tool)).join (Path.ofText started.date)

/-- The name of the log file of a run. -/
def fileName (started : Moment) : Text :=
  "run-".toList ++ started.time '-' ++ ".log".toList

/-- Make the log file of a run, and the directories above it that are missing. -/
def createLogFile (disk : Disk) (tool : Text) (started : Moment) :
    Disk × Except DiskError LogFile :=
  match disk.createDirectories (directory tool started) with
  | (disk, .error e) => (disk, .error e)
  | (disk, .ok ()) =>
      let path := (directory tool started).join (Path.ofText (fileName started))
      match disk.createFile path with
      | .ok (place, disk) => (disk, .ok ⟨path, place, []⟩)
      | .error e => (disk, .error e)

/-- Open a journal with a log file.  Without one the journal goes on as a console
journal, after two lines on standard error. -/
def openFile (disk : Disk) (tool : Text) (started : Moment) (echo : Bool) :
    Journal × Disk :=
  match createLogFile disk tool started with
  | (disk, .ok file) => (⟨echo, some file, []⟩, disk)
  | (disk, .error e) =>
      (⟨echo, none,
        Text.line ("Warning: Could not create log file: ".toList ++ e.message) ++
          Text.line "Continuing without logging...".toList⟩, disk)

/-- Write a line on standard error. -/
def announce (journal : Journal) (message : Text) : Journal :=
  { journal with stderr := journal.stderr ++ Text.line message }

/-- Write a line to the log file, if there is one.  No buffer is in front of the file, so
that the line is on the disk at once. -/
def note (journal : Journal) (message : Text) : Journal :=
  { journal with
    file := journal.file.map fun f => { f with text := f.text ++ Text.line message } }

/-- Report progress. -/
def log (journal : Journal) (message : Text) : Journal :=
  (if journal.echo then journal.announce message else journal).note message

/-- What a warning looks like. -/
def warning (message : Text) : Text :=
  "Warning: ".toList ++ message

/-- Warn, whether echo is on or not. -/
def warn (journal : Journal) (message : Text) : Journal :=
  (journal.announce (warning message)).note (warning message)

/-- Take a message of any kind. -/
def take (journal : Journal) : Entry → Journal
  | .log message => journal.log message
  | .warn message => journal.warn message
  | .note message => journal.note message

/-- The lines that close a log file. -/
def closing (clock : Clock) (summary : Text) : List Text :=
  [[], "=== Run Summary ===".toList, summary,
    "Started: ".toList ++ clock.started.display,
    "Ended: ".toList ++ clock.ended.display,
    "Duration: ".toList ++ Text.signed clock.duration ++ "ms".toList]

/-- Close the log of a run with its summary and times, and say where it is. -/
def finish (journal : Journal) (clock : Clock) (summary : Text) : Journal :=
  let closed := (closing clock summary).foldl note journal
  match closed.file with
  | none => closed
  | some file => closed.log ("Log saved to: ".toList ++ file.path.display)

/-- The disk with the log file as the journal has written it so far. -/
def save (journal : Journal) (disk : Disk) : Disk :=
  match journal.file with
  | none => disk
  | some file => disk.setContent file.place (Utf8.encode file.text)

end Journal

end JavadocNames
