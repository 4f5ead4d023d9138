import JavadocNames.Disk.Resolve
import JavadocNames.Overload
import JavadocNames.Page.Reading
import JavadocNames.Page.Summary
import JavadocNames.Record.Format
import JavadocNames.Signature.Extraction
import JavadocNames.Signature.RowText

/-!
# Documents

A document is the page of one class.  Its constructors come first, then its
methods; each row with a parameter gives one record per parameter, and rows of the
same name and number of parameters are told apart by their overload index.
-/

namespace JavadocNames

/-- What all documents of a run are named by: their package and the way
parameters are found. -/
structure Naming where
  package : Text
  extractor : Extractor

/-- Counts of a document or a run.  The tool keeps them, as all its counts and positions,
in 64-bit words.  Each of them counts things that the tool has held in memory or written one
by one, so that none reaches the end of a word, and natural numbers stand for them. -/
structure Tally where
  /-- Rows whose text was looked at. -/
  rows : Nat
  /-- Rows without a parameter. -/
  skipped : Nat
  records : Nat
  deriving DecidableEq

namespace Tally

/-- The counts before any row. -/
def zero : Tally :=
  ⟨0, 0, 0⟩

/-- The counts of two parts together. -/
protected def add (a b : Tally) : Tally :=
  ⟨a.rows + b.rows, a.skipped + b.skipped, a.records + b.records⟩

instance : Add Tally :=
  ⟨Tally.add⟩

/-- The counts of one row, by the number of its records if it has a signature. -/
def ofRow : Option Nat → Tally
  | some records => ⟨1, 0, records⟩
  | none => ⟨1, 1, 0⟩

end Tally

namespace Naming

/-- The records of a signature, one per parameter. -/
def records (naming : Naming) (className : Text) (signature : Signature)
    (overload : Nat) : List NamingRecord :=
  signature.parameters.mapIdx fun i p =>
    { package := naming.package, className := className, method := signature.name,
      parameter := p.name, position := i + 1, total := signature.arity,
      overload := overload }

/-- The records of one row and the counter after it; `none` when the row has no
parameter, which leaves the counter as it is. -/
def row? (naming : Naming) (className : Text) (counter : OverloadCounter)
    (text : Text) : Option (List NamingRecord × OverloadCounter) :=
  (naming.extractor.extract text).map fun signature =>
    let (overload, counter) := counter.next ⟨signature.name, signature.arity⟩
    (naming.records className signature overload, counter)

/-- How far rows have been read: the counter and the records so far. -/
structure Progress where
  counter : OverloadCounter
  records : List NamingRecord

/-- Read one row.  The answer tells whether it has a signature. -/
def takeRow (naming : Naming) (className : Text) (progress : Progress) (text : Text) :
    Bool × Progress :=
  match naming.row? className progress.counter text with
  | none => (false, progress)
  | some (records, counter) => (true, ⟨counter, progress.records ++ records⟩)

/-- Read rows in order. -/
def takeRows (naming : Naming) (className : Text) (progress : Progress)
    (texts : List Text) : Progress :=
  texts.foldl (fun progress text => (naming.takeRow className progress text).2) progress

/-- The records of rows in order, their counts, and the counter after them. -/
def rows (naming : Naming) (className : Text) :
    OverloadCounter → List Text → List NamingRecord × Tally × OverloadCounter
  | counter, [] => ([], .zero, counter)
  | counter, text :: rest =>
      match naming.row? className counter text with
      | none =>
          let (records, tally, counter) := naming.rows className counter rest
          (records, .ofRow none + tally, counter)
      | some (first, counter) =>
          let (records, tally, counter) := naming.rows className counter rest
          (first ++ records, .ofRow (some first.length) + tally, counter)

/-- The rows of a page, constructors before methods, as one line each. -/
def pageRows (page : Page) : List Text :=
  (Summary.constructors.cells page ++ Summary.methods.cells page).map
    fun cell => RowText.normalize cell.innerText

/-- The records of a page, their counts, and the counter after it. -/
def page (naming : Naming) (className : Text) (counter : OverloadCounter)
    (page : Page) : List NamingRecord × Tally × OverloadCounter :=
  naming.rows className counter (pageRows page)

/-- The records and counts of pages, each with its class, that are read one after the other
with one counter, and the counter after them. -/
def pages (naming : Naming) :
    OverloadCounter → List (Text × Page) → List (List NamingRecord × Tally) × OverloadCounter
  | counter, [] => ([], counter)
  | counter, (className, page) :: rest =>
      let (records, tally, counter) := naming.page className counter page
      let (others, counter) := naming.pages counter rest
      ((records, tally) :: others, counter)

end Naming

/-- The class that a path names: its file name without the extension. -/
def className (path : Path) : Except Failure Text :=
  match path.stem? with
  | some stem => .ok (Utf8.decodeLossy stem)
  | none => .error (.noFileName path)

/-- A document that has been read. -/
structure Document where
  path : Path
  className : Text
  records : List NamingRecord
  tally : Tally

namespace Document

/-- The document with a given content. -/
def ofContent (naming : Naming) (path : Path) (className : Text) (content : Bytes) :
    Document :=
  let (records, tally, _) :=
    naming.page className .new (Page.ofText (Utf8.decodeLossy content))
  ⟨path, className, records, tally⟩

/-- Read a document. -/
def load (disk : Disk) (naming : Naming) (path : Path) : Except Failure Document :=
  match disk.read path with
  | .error cause => .error (.load path cause)
  | .ok content =>
      (JavadocNames.className path).map fun name => ofContent naming path name content

/-- Read a document and write its records. -/
def walk (disk : Disk) (naming : Naming) (format : OutputFormat) (path : Path) :
    Script Tally := do
  let document ← Script.ofExcept (load disk naming path)
  format.writeRecords document.records
  return document.tally

end Document

end JavadocNames
