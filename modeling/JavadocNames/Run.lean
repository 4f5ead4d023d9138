import JavadocNames.Disk.Listing
import JavadocNames.Document

/-!
# Runs

A run names the parameters of all documents below a directory, in the order of
their listing.  Each document stands for itself: it has a counter of its own, and
one that cannot be read either ends the run or is passed over with a warning.
-/

namespace JavadocNames

/-- What a run works on and how it writes. -/
structure RunSettings where
  root : Path
  format : OutputFormat
  /-- A document that cannot be read is passed over. -/
  keepGoing : Bool

/-- The counts of a run. -/
structure RunSummary where
  documents : Nat
  failed : Nat
  tally : Tally
  deriving DecidableEq

namespace RunSummary

/-- The counts before any document. -/
def zero : RunSummary :=
  ⟨0, 0, .zero⟩

/-- The counts of two parts together. -/
protected def add (a b : RunSummary) : RunSummary :=
  ⟨a.documents + b.documents, a.failed + b.failed, a.tally + b.tally⟩

instance : Add RunSummary :=
  ⟨RunSummary.add⟩

/-- The counts on one line. -/
def line (s : RunSummary) : Text :=
  "Summary: ".toList ++ Text.decimal s.documents ++ " documents, ".toList ++
    Text.decimal s.tally.rows ++ " rows, ".toList ++
    Text.decimal s.tally.skipped ++ " rows skipped, ".toList ++
    Text.decimal s.tally.records ++ " records, ".toList ++
    Text.decimal s.failed ++ " documents failed".toList

end RunSummary

namespace Run

/-- Tell how many documents there are. -/
def foundMessage (pages : List Path) : Text :=
  "Found ".toList ++ Text.decimal pages.length ++ " HTML files".toList

/-- Tell what a document gave. -/
def handledMessage (document : Document) : Text :=
  document.path.display ++ ": ".toList ++
    Text.decimal document.tally.rows ++ " rows, ".toList ++
    Text.decimal document.tally.skipped ++ " skipped, ".toList ++
    Text.decimal document.tally.records ++ " records".toList

/-- Tell that a document is passed over. -/
def skippedMessage (path : Path) (failure : Failure) : Text :=
  "Skipping ".toList ++ path.display ++ ": ".toList ++ failure.message

/-- The part of a run that belongs to one document. -/
def documentScript (settings : RunSettings) (path : Path) :
    Except Failure Document → Script RunSummary
  | .ok document => do
      settings.format.writeRecords document.records
      Script.tell (.note (handledMessage document))
      return ⟨1, 0, document.tally⟩
  | .error failure =>
      if settings.keepGoing then do
        Script.tell (.warn (skippedMessage path failure))
        return ⟨1, 1, .zero⟩
      else Script.ofExcept (.error failure)

/-- Go on with documents that have been read, each given by its path and what
reading it gave, from the counts so far. -/
def handle (settings : RunSettings) :
    RunSummary → List (Path × Except Failure Document) → Script RunSummary
  | counts, [] => pure counts
  | counts, (path, outcome) :: rest => do
      let own ← documentScript settings path outcome
      handle settings (counts + own) rest

/-- A whole run over a disk: the header, then all documents below the root, and at the
end a flush.  All documents are read before the first one is written, but behind the first
message, which a document that leads to the log file shows. -/
def script (disk : Disk) (naming : Naming) (settings : RunSettings) :
    Script RunSummary := do
  settings.format.writeHeader
  let pages ← Script.ofExcept (disk.findPages settings.root)
  Script.tell (.log (foundMessage pages))
  let disk ← Script.now disk
  let outcomes := pages.map (Document.load disk naming)
  let summary ← handle settings .zero (pages.zip outcomes)
  Script.flush
  return summary

end Run

end JavadocNames
