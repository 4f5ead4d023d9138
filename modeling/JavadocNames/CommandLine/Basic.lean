import JavadocNames.Failure
import JavadocNames.Record.Format
import JavadocNames.Text.Blank
import JavadocNames.Text.Printable

/-!
# Options and their help

The options of the program, the help that describes them, and the ways to misuse
them.  A misuse does not stop the program with a failure: it is told below the
help.
-/

namespace JavadocNames

namespace CommandLine

/-- An option that takes a value. -/
inductive ValueOption where
  | javadocPath
  | packageName
  | output
  | format
  deriving DecidableEq

/-- An option without a value. -/
inductive Flag where
  | keepGoing
  | verbose
  | log
  | help
  deriving DecidableEq

/-- The name under which the program knows itself. -/
def toolName : Text :=
  "javadoc2metadata".toList

namespace ValueOption

/-- Every option that takes a value, in the order of the help. -/
def all : List ValueOption :=
  [javadocPath, packageName, output, format]

/-- The long name, without the hyphens in front. -/
def long : ValueOption → Text
  | javadocPath => "javadoc-path".toList
  | packageName => "package-name".toList
  | output => "output".toList
  | format => "format".toList

/-- The short name, without the hyphen in front. -/
def short : ValueOption → Char
  | javadocPath => 'j'
  | packageName => 'p'
  | output => 'o'
  | format => 'f'

/-- What the help calls the value. -/
def valueName : ValueOption → Text
  | javadocPath => "JAVADOC_PATH".toList
  | packageName => "PACKAGE_NAME".toList
  | output => "OUTPUT".toList
  | format => "FORMAT".toList

/-- The option as messages show it. -/
def display (option : ValueOption) : Text :=
  "--".toList ++ option.long ++ " <".toList ++ option.valueName ++ ">".toList

/-- What the help says of the option. -/
def summary : ValueOption → Text
  | javadocPath =>
      "Path to the javadoc HTML containing parameter names (searched recursively)".toList
  | packageName => "The java package name".toList
  | output => "Write records to this file instead of stdout".toList
  | format => "Output format (attr, json) [default: ".toList ++ OutputFormat.attr.name ++
      "]".toList

end ValueOption

namespace Flag

/-- Every flag, in the order of the help. -/
def all : List Flag :=
  [keepGoing, verbose, log, help]

/-- The long name, without the hyphens in front. -/
def long : Flag → Text
  | keepGoing => "keep-going".toList
  | verbose => "verbose".toList
  | log => "log".toList
  | help => "help".toList

/-- The short name, without the hyphen in front. -/
def short : Flag → Char
  | keepGoing => 'k'
  | verbose => 'v'
  | log => 'l'
  | help => 'h'

/-- The flag as messages show it. -/
def display (flag : Flag) : Text :=
  "--".toList ++ flag.long

/-- What the help says of the flag. -/
def summary : Flag → Text
  | keepGoing => "Warn and continue when a document cannot be loaded".toList
  | verbose => "Echo progress and the run summary on stderr".toList
  | log => "Also log progress to logs/".toList ++ toolName ++ "/<date>/".toList
  | help => "Print help".toList

end Flag

/-! ## Help -/

/-- The options as the help lists them: how each is spelled, and what it does. -/
def helpEntries : List (Text × Text) :=
  let entry (short : Char) (display summary : Text) : Text × Text :=
    ('-' :: short :: ", ".toList ++ display, summary)
  ValueOption.all.map (fun o => entry o.short o.display o.summary) ++
    Flag.all.map fun f => entry f.short f.display f.summary

/-- The width of the column of spellings. -/
def helpWidth : Nat :=
  (helpEntries.map (·.1.length)).foldl max 0

/-- One option in the help. -/
def helpLine (entry : Text × Text) : Text :=
  "  ".toList ++ entry.1 ++
    List.replicate (helpWidth - entry.1.length) ' ' ++ "  ".toList ++ entry.2

/-- The help of the program under a name. -/
def help (program : Text) : Text :=
  ([toolTitle, [], usage, [], "Options:".toList] ++ helpEntries.map helpLine).flatMap
    Text.line
where
  toolTitle : Text :=
    "JavaDoc2Metadata - parses Javadoc HTML and exports metadata attr nodes with the Java parameter names".toList
  usage : Text :=
    "Usage: ".toList ++ Text.printable program ++ " [OPTIONS] ".toList ++
      ValueOption.javadocPath.display ++ " ".toList ++ ValueOption.packageName.display

/-! ## Misuse -/

/-- A way to misuse the program. -/
inductive Misuse where
  /-- An option that does not exist, or a word that belongs to no option. -/
  | unexpected (word : Text)
  /-- A value for a flag. -/
  | unexpectedValue (value : Text) (flag : Flag)
  | valueMissing (option : ValueOption)
  | unknownFormat (name : Text)
  | optionRepeated (option : ValueOption)
  | flagRepeated (flag : Flag)
  /-- Options that have to be given and are not. -/
  | optionsMissing (options : List ValueOption)
  /-- A text that is not UTF-8. -/
  | notUtf8
  | notADirectory (path : Path)
  deriving DecidableEq

/-- A quoted piece of a message, as far as it can be shown. -/
def quoted (text : Text) : Text :=
  '\'' :: Text.printable text ++ ['\'']

namespace Misuse

/-- What follows a message in which the last words are those of a failure: a blank
line, and where to find help.  A control sequence that those words leave open goes on
up to the name of the option, which is set off by a style. -/
def withHint (failure : Failure) : Text :=
  Text.printable (failure.message ++ "\n\nFor more information, try '".toList) ++
    Flag.help.display ++ "'.\n".toList

/-- The wording of a misuse. -/
def message : Misuse → Text
  | unexpected word => "unexpected argument ".toList ++ quoted word ++ " found".toList
  | unexpectedValue value flag =>
      "unexpected value ".toList ++ quoted value ++ " for ".toList ++ quoted flag.display ++
        " found; no more were expected".toList
  | valueMissing option =>
      "a value is required for ".toList ++ quoted option.display ++
        " but none was supplied".toList
  | unknownFormat name =>
      "invalid value ".toList ++ quoted name ++ " for ".toList ++
        quoted ValueOption.format.display ++ ": ".toList ++
        withHint (.unknownFormat name)
  | optionRepeated option => repeated option.display
  | flagRepeated flag => repeated flag.display
  | optionsMissing options =>
      Text.join ['\n'] ("the following required arguments were not provided:".toList ::
        options.map fun option => "  ".toList ++ option.display)
  | notUtf8 => "invalid UTF-8 was detected in one or more arguments".toList
  | notADirectory path => "Javadoc path is not a directory: ".toList ++ path.display
where
  repeated (display : Text) : Text :=
    "the argument ".toList ++ quoted display ++ " cannot be used multiple times".toList

/-- The lines of a text, without the characters that end them. -/
def linesOf : Text → List Text
  | [] => [[]]
  | '\r' :: '\n' :: rest => [] :: linesOf rest
  | '\n' :: rest => [] :: linesOf rest
  | c :: rest =>
      match linesOf rest with
      | [] => [[c]]
      | line :: lines => (c :: line) :: lines

/-- A text up to its first blank line. -/
def upToBlankLine (text : Text) : Text :=
  Text.join ['\n'] ((linesOf text).takeWhile fun line => !line.all Text.isBlank)

/-- What is told of a misuse.  A message that repeats what was given is told up to
its first blank line only, except for the path of a directory. -/
def reason (misuse : Misuse) : Text :=
  match misuse with
  | notADirectory _ => misuse.message
  | _ => upToBlankLine misuse.message

end Misuse

end CommandLine

end JavadocNames
