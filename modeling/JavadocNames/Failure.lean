import JavadocNames.Disk.Basic

/-!
# Failures

Everything that can stop a run, and its wording.  A failure is told as a chain:
what could not be done, and below it why.
-/

namespace JavadocNames

/-- Why an operation or a run stops. -/
inductive Failure where
  /-- No output format has this name. -/
  | unknownFormat (name : Text)
  /-- The parameter pattern is not a regular expression. -/
  | badPattern (pattern : Text)
  /-- The sink takes no more bytes. -/
  | sinkFull
  /-- A document cannot be read. -/
  | load (path : Path) (cause : DiskError)
  /-- A path without a file name has no class. -/
  | noFileName (path : Path)
  /-- The directory `root` cannot be listed, because of `path`. -/
  | walk (root path : Path) (cause : DiskError)
  /-- The output file cannot be made. -/
  | createOutput (path : Path) (cause : DiskError)
  /-- A failure that comes with its own words. -/
  | reported (message : Text)
  deriving DecidableEq

namespace Failure

/-- What could not be done, then the causes from the nearest to the last. -/
def chain : Failure → Text × List Text
  | unknownFormat name =>
      ("Unknown output format '".toList ++ name ++ "' (expected attr or json)".toList, [])
  | badPattern pattern => ("Invalid parameter pattern: ".toList ++ pattern, [])
  | sinkFull => ("sink full".toList, [])
  | load path cause =>
      ("Failed to load document: ".toList ++ path.display, [cause.message])
  | noFileName path => ("No file name in path: ".toList ++ path.display, [])
  | walk root path cause =>
      ("Failed to walk directory: ".toList ++ root.display,
        ["IO error for operation on ".toList ++ path.display ++ ": ".toList ++ cause.message,
          cause.message])
  | createOutput path cause =>
      ("Failed to create output file: ".toList ++ path.display, [cause.message])
  | reported message => (message, [])

/-- The failure on one line. -/
def message (failure : Failure) : Text :=
  Text.join ": ".toList (failure.chain.1 :: failure.chain.2)

/-- Causes numbered from `index`, each on a line of its own. -/
def numbered (index : Nat) : List Text → Text
  | [] => []
  | cause :: rest =>
      Text.line ("    ".toList ++ Text.decimal index ++ ": ".toList ++ cause) ++
        numbered (index + 1) rest

/-- The failure as a program reports it when it ends: a single cause stands
alone, several are numbered from zero. -/
def report (failure : Failure) : Text :=
  Text.line ("Error: ".toList ++ failure.chain.1) ++
    match failure.chain.2 with
    | [] => []
    | [cause] => "\nCaused by:\n".toList ++ Text.line ("    ".toList ++ cause)
    | causes => "\nCaused by:\n".toList ++ numbered 0 causes

end Failure

end JavadocNames
