import JavadocNames.Journal
import JavadocNames.Sink

/-!
# Scripts

The parts of a run that write and tell are scripts: they work on a sink and a journal, and
end with a result or with a failure.  The sink answers each write.  Whether a refusal ends
a script is up to the script: in a `do` block each step passes the failure of that step on.
What was done before a failure stays done.
-/

namespace JavadocNames

/-- What scripts work on. -/
structure Outlets where
  sink : Sink
  journal : Journal

/-- A part of a run. -/
def Script (α : Type) : Type :=
  ExceptT Failure (StateM Outlets) α

namespace Script

variable {α : Type}

instance : Monad Script :=
  inferInstanceAs (Monad (ExceptT Failure (StateM Outlets)))

instance : MonadExcept Failure Script :=
  inferInstanceAs (MonadExcept Failure (ExceptT Failure (StateM Outlets)))

/-- Play a script on a sink and a journal. -/
def play (s : Script α) (sink : Sink) (journal : Journal) : Sink × Journal × Except Failure α :=
  let (result, outlets) := ExceptT.run s ⟨sink, journal⟩
  (outlets.sink, outlets.journal, result)

/-- A result that is already known. -/
def ofExcept (result : Except Failure α) : Script α :=
  ExceptT.mk (pure result)

/-- Work on the sink and give its answer. -/
def onSink (work : Sink → Sink × Except Failure Unit) : Script Unit :=
  ExceptT.mk fun outlets =>
    let (sink, answer) := work outlets.sink
    (answer, { outlets with sink := sink })

/-- Write bytes to the sink. -/
def write (bytes : Bytes) : Script Unit :=
  onSink (·.write bytes)

/-- Write a line to the sink. -/
def writeLine (text : Text) : Script Unit :=
  write (Utf8.encode (Text.line text))

/-- Flush the sink. -/
def flush : Script Unit :=
  onSink (·.flush)

/-- Tell the journal. -/
def tell (entry : Entry) : Script Unit :=
  ExceptT.mk fun outlets => (.ok (), { outlets with journal := outlets.journal.take entry })

/-- A disk as it is now: its log file, if there is one, has what the journal has been told
so far. -/
def now (disk : Disk) : Script Disk :=
  ExceptT.mk fun outlets => (.ok (outlets.journal.save disk), outlets)

end Script

end JavadocNames
