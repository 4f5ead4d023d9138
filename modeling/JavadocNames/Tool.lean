import JavadocNames.Script

/-!
# Tools

A tool plays a script between two messages: where it looks, and how long it took.
The summary that the script ends in goes to the journal as well.
-/

namespace JavadocNames

/-- How a tool is run. -/
structure Tool where
  /-- The name under which logs are kept. -/
  name : Text
  /-- The directory that the tool looks at. -/
  base : Path
  /-- A log file is written. -/
  logging : Bool
  /-- Progress is echoed. -/
  verbose : Bool

namespace Tool

/-- Open the journal and tell where the tool looks. -/
def openJournal (tool : Tool) (disk : Disk) (started : Moment) : Journal × Disk :=
  let (journal, disk) :=
    if tool.logging then Journal.openFile disk tool.name started tool.verbose
    else (Journal.console tool.verbose, disk)
  (journal.log ("Scanning directory '".toList ++ tool.base.display ++ "'".toList), disk)

/-- Tell how a script ended.  After a success the summary and the time are told, and
the log file is closed if there is one; after a failure nothing is told. -/
def close (tool : Tool) (clock : Clock) (journal : Journal) :
    Except Failure Text → Journal
  | .ok summary =>
      let told := (journal.log summary).log
        ("Completed in ".toList ++ Text.decimal clock.elapsed ++ "ms".toList)
      if tool.logging then told.finish clock summary else told
  | .error _ => journal

/-- Play the script of a tool and tell how it ended. -/
def run (tool : Tool) (clock : Clock) (script : Script Text) (sink : Sink)
    (journal : Journal) : Sink × Journal × Except Failure Text :=
  let (sink, journal, result) := script.play sink journal
  (sink, tool.close clock journal result, result)

end Tool

end JavadocNames
