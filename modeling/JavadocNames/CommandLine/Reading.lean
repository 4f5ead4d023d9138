import JavadocNames.CommandLine.Basic
import JavadocNames.Disk.Resolve

/-!
# Reading the command line

Words are read from the left.  A value that stands in a word of its own is looked
at only when the next option is met or the words end, so a word that cannot be
understood is told before anything wrong with that value.
-/

namespace JavadocNames

namespace CommandLine

/-- What a run is asked to do. -/
structure Arguments where
  javadocPath : Path
  packageName : Text
  output : Option Path
  format : OutputFormat
  keepGoing : Bool
  verbose : Bool
  log : Bool
  deriving DecidableEq

/-- Why nothing is run. -/
inductive Stop where
  /-- The help is asked for. -/
  | help
  | misuse (m : Misuse)
  deriving DecidableEq

/-- The options met so far. -/
structure Given where
  javadocPath : Option Path
  packageName : Option Text
  output : Option Path
  format : Option OutputFormat
  keepGoing : Bool
  verbose : Bool
  log : Bool
  deriving DecidableEq

namespace Given

/-- No option at all. -/
def nothing : Given :=
  ⟨none, none, none, none, false, false, false⟩

/-- The option has a value already. -/
def has (given : Given) : ValueOption → Bool
  | .javadocPath => given.javadocPath.isSome
  | .packageName => given.packageName.isSome
  | .output => given.output.isSome
  | .format => given.format.isSome

/-- A path has at least one byte. -/
def pathOf (option : ValueOption) (value : Bytes) : Except Stop Path :=
  if value = [] then .error (.misuse (.valueMissing option)) else .ok ⟨value⟩

/-- A text has to be UTF-8. -/
def textOf (value : Bytes) : Except Stop Text :=
  match Utf8.decode? value with
  | some text => .ok text
  | none => .error (.misuse .notUtf8)

/-- A format has to be known by its name. -/
def formatOf (value : Bytes) : Except Stop OutputFormat := do
  let name ← textOf value
  match OutputFormat.ofName name with
  | .ok format => .ok format
  | .error _ => .error (.misuse (.unknownFormat name))

/-- Give an option its value. -/
def store (given : Given) (option : ValueOption) (value : Bytes) : Except Stop Given :=
  if given.has option then .error (.misuse (.optionRepeated option))
  else
    match option with
    | .javadocPath =>
        (pathOf option value).map fun path => { given with javadocPath := some path }
    | .packageName =>
        (textOf value).map fun text => { given with packageName := some text }
    | .output => (pathOf option value).map fun path => { given with output := some path }
    | .format =>
        (formatOf value).map fun format => { given with format := some format }

/-- Raise a flag. -/
def raise (given : Given) (flag : Flag) : Except Stop Given :=
  match flag with
  | .help => .error .help
  | .keepGoing => once given.keepGoing { given with keepGoing := true }
  | .verbose => once given.verbose { given with verbose := true }
  | .log => once given.log { given with log := true }
where
  once (raised : Bool) (new : Given) : Except Stop Given :=
    if raised then .error (.misuse (.flagRepeated flag)) else .ok new

end Given

/-- An option whose value has not been looked at. -/
inductive Pending where
  | nothing
  /-- The next word may be its value. -/
  | awaits (option : ValueOption)
  | holds (option : ValueOption) (value : Bytes)

/-- The state between two words. -/
structure Reading where
  given : Given
  pending : Pending

namespace Reading

/-- Look at the value that is pending. -/
def settle (state : Reading) : Except Stop Given :=
  match state.pending with
  | .nothing => .ok state.given
  | .awaits option => .error (.misuse (.valueMissing option))
  | .holds option value => state.given.store option value

/-- An option with its value in the same word. -/
def attached (state : Reading) (option : ValueOption) (value : Bytes) :
    Except Stop Reading := do
  return ⟨← (← state.settle).store option value, .nothing⟩

/-- An option whose value is to follow. -/
def detached (state : Reading) (option : ValueOption) : Except Stop Reading := do
  return ⟨← state.settle, .awaits option⟩

/-- A flag. -/
def raised (state : Reading) (flag : Flag) : Except Stop Reading := do
  return ⟨← (← state.settle).raise flag, .nothing⟩

/-- The hyphen that starts an option. -/
def hyphen : UInt8 := 0x2D

/-- The sign between an option and its value. -/
def equals : UInt8 := 0x3D

/-- The bytes of a name. -/
def isSpelled (name : Text) (bytes : Bytes) : Bool :=
  Utf8.encode name = bytes

/-- A word that starts with two hyphens, from there on. -/
def long (state : Reading) (body : Bytes) : Except Stop Reading :=
  let name := body.takeWhile (· ≠ equals)
  let value := (body.dropWhile (· ≠ equals)).tail
  let hasValue := equals ∈ body
  match Flag.all.find? fun flag => isSpelled flag.long name with
  | some flag =>
      if hasValue then
        .error (.misuse (.unexpectedValue (Utf8.decodeLossy value) flag))
      else state.raised flag
  | none =>
      match ValueOption.all.find? fun option => isSpelled option.long name with
      | some option => if hasValue then state.attached option value else state.detached option
      | none => .error (.misuse (.unexpected ("--".toList ++ Utf8.decodeLossy name)))

/-- The first character of some bytes, or all of them when it cannot be read. -/
def firstCharacter (first : UInt8) (rest : Bytes) : Text :=
  match (Utf8.decodeOne first rest).1 with
  | some c => [c]
  | none => Utf8.decodeLossy (first :: rest)

/-- A word that starts with one hyphen, from there on: flags, and perhaps an option
with its value. -/
def letters (state : Reading) : Bytes → Except Stop Reading
  | [] => .ok state
  | b :: rest =>
      match Flag.all.find? fun flag => isSpelled [flag.short] [b] with
      | some flag => do letters (← state.raised flag) rest
      | none =>
          match ValueOption.all.find? fun option => isSpelled [option.short] [b] with
          | some option =>
              match rest with
              | [] => state.detached option
              | next :: value =>
                  state.attached option (if next = equals then value else next :: value)
          | none => .error (.misuse (.unexpected ('-' :: firstCharacter b rest)))

/-- A word that is no option. -/
def plain (state : Reading) (word : Bytes) : Except Stop Reading :=
  match state.pending with
  | .awaits option => .ok ⟨state.given, .holds option word⟩
  | _ => .error (.misuse (.unexpected (Utf8.decodeLossy word)))

/-- One word. -/
def word (state : Reading) (bytes : Bytes) : Except Stop Reading :=
  match bytes with
  | [] => state.plain []
  | first :: rest =>
      if first ≠ hyphen || rest = [] then state.plain bytes
      else if rest.head? = some hyphen then state.long rest.tail
      else state.letters rest

/-- All words.  After `--` there are no options, and no other word is
expected. -/
def words (state : Reading) : List Bytes → Except Stop Given
  | [] => state.settle
  | first :: rest =>
      if first = [hyphen, hyphen] then
        match rest with
        | [] => state.settle
        | next :: _ => .error (.misuse (.unexpected (Utf8.decodeLossy next)))
      else do words (← state.word first) rest

end Reading

/-- The arguments that the options make up.  Without any option the help is
shown. -/
def Given.complete (given : Given) (disk : Disk) : Except Stop Arguments :=
  if given = nothing then .error .help
  else
    match given.javadocPath, given.packageName with
    | some path, some name =>
        if disk.isDirectory path then
          .ok ⟨path, name, given.output, given.format.getD .attr, given.keepGoing,
            given.verbose, given.log⟩
        else .error (.misuse (.notADirectory path))
    | path, name =>
        .error (.misuse (.optionsMissing
          ((if path.isNone then [.javadocPath] else []) ++
            if name.isNone then [.packageName] else [])))

/-- The options in the words after the name of the program. -/
def optionsOf (words : List Bytes) : Except Stop Given :=
  Reading.words ⟨.nothing, .nothing⟩ words

/-- The arguments in the words after the name of the program. -/
def read (disk : Disk) (words : List Bytes) : Except Stop Arguments := do
  (← optionsOf words).complete disk

/-- The name that a program goes by: the file name of its path. -/
def programName (path : Bytes) : Text :=
  ((Path.mk path).fileName?.bind Utf8.decode?).getD toolName

/-- What is shown instead of a run. -/
def Stop.text (program : Text) : Stop → Text
  | help => CommandLine.help program
  | misuse m => CommandLine.help toolName ++ "\nError: ".toList ++ m.reason

/-- The arguments in a whole command line, or what is shown instead of a run. -/
def parse (disk : Disk) (line : List Bytes) : Except Text Arguments :=
  let program := (line.head?.map programName).getD toolName
  match read disk line.tail with
  | .ok arguments => .ok arguments
  | .error stop => .error (stop.text program)

end CommandLine

end JavadocNames
