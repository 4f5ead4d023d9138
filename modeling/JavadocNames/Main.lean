import JavadocNames.Program
import Std.Time.Zoned.Database

/-!
# The command

The outer layer of the program.  It pictures the part of the file system that a run
can reach as a disk, lets the program work on it, and carries out what the program
leaves.  File names are taken to be UTF-8.
-/

namespace JavadocNames

namespace Command

/-- A name in a directory. -/
def entryAt (directory name : String) : IO.FS.DirEntry :=
  ⟨directory, name⟩

/-- The path that a text spells. -/
def pathOf (path : String) : Path :=
  Path.ofText path.toList

/-- Where a path leads when all links are followed. -/
def realPlace (path : String) : IO Place := do
  return (pathOf (← IO.FS.realPath path).toString).pieces

/-- The disk with a directory at a place, and with those above it. -/
def withDirectory (disk : Disk) (place : Place) : Disk :=
  (List.range (place.length + 1)).foldl
    (fun disk n =>
      if (disk.at? (place.take n)).isSome then disk
      else disk.put (place.take n) (.directory []))
    disk

/-- The file at a path.  The content of a file that is no page is not needed. -/
def fileAt (path : String) : IO DiskNode := do
  if Disk.isPagePath (pathOf path) then
    return .file (← IO.FS.readBinFile path).toList
  else return .file []

/-- The disk with the link at a place, and with what it leads to.  A link that leads
nowhere has an empty target, and one that leads in a circle has itself. -/
def withLink (disk : Disk) (place : Place) (entry : IO.FS.DirEntry) : IO Disk := do
  try
    let kind := (← entry.path.metadata).type
    let real ← IO.FS.realPath entry.path
    let target := pathOf real.toString
    let disk := disk.put place (.link target)
    match kind with
    | .dir => return withDirectory disk target.pieces
    | _ =>
        let content ← IO.FS.readBinFile real
        return (withDirectory disk target.pieces.dropLast).put target.pieces
          (.file content.toList)
  catch
    | .noFileOrDirectory .. => return disk.put place (.link ⟨[]⟩)
    | _ => return disk.put place (.link (pathOf entry.fileName))

/-- The disk with everything below a directory, whose place is known. -/
partial def withTree (disk : Disk) (place : Place) (directory : String) : IO Disk := do
  let mut disk := withDirectory disk place
  for entry in ← (← IO.FS.realPath directory).readDir do
    let inner := place ++ [Utf8.encode entry.fileName.toList]
    match (← entry.path.symlinkMetadata).type with
    | .dir => disk ← withTree disk inner entry.path.toString
    | .symlink => disk ← withLink disk inner entry
    | _ => disk := disk.put inner (← fileAt entry.path.toString)
  return disk

/-- The disk with the entries that are passed on the way along a path, as far as
they exist. -/
def withWay (disk : Disk) (path : Path) : IO Disk := do
  let mut disk := disk
  let mut directory := if path.isAbsolute then "/" else "."
  for piece in path.pieces do
    let entry := entryAt directory (String.ofList (Utf8.decodeLossy piece))
    try
      let inner := (← realPlace directory) ++ [piece]
      match (← entry.path.symlinkMetadata).type with
      | .dir => disk := withDirectory disk (← realPlace entry.path.toString)
      | .symlink => disk ← withLink disk inner entry
      | _ => disk := disk.put inner (.file [])
    catch _ => return disk
    directory := entry.path.toString
  return disk

/-- The part of the file system that a run with some options can reach. -/
def picture (given : CommandLine.Given) : IO Disk := do
  let here ← realPlace "."
  let logs := pathOf "logs" :: (pathOf "logs").join (Path.ofText CommandLine.toolName) :: []
  let paths := logs ++ given.output.toList ++ given.javadocPath.toList
  let mut disk := withDirectory ⟨.directory [], here⟩ here
  for path in paths do
    disk ← withWay disk path
  match given.javadocPath with
  | none => return disk
  | some path =>
      if disk.isDirectory path then
        let root := String.ofList path.display
        withTree disk (← realPlace root) root
      else return disk

/-- The moment of local time at a time.  Where the system knows no time zone, it is universal
time. -/
def momentAt (time : Std.Time.Timestamp) : IO Moment := do
  let rules ← try Std.Time.Database.defaultGetLocalZoneRules catch _ => pure .UTC
  let zone := (rules.findLocalTimeTypeForTimestamp time).getTimeZone
  let wall := Std.Time.PlainDateTime.ofWallTime (.ofTimestamp time zone.offset)
  return {
    year := wall.date.year.toInt.toNat
    month := wall.date.month.toNat
    day := wall.date.day.toNat
    hour := wall.time.hour.toNat
    minute := wall.time.minute.toNat
    second := wall.time.second.toNat }

/-- Print what the program prints, and write the files that it wrote. -/
def deliver (outcome : Program.Outcome) : IO UInt32 := do
  for file in outcome.written do
    let above := Path.ofComponents file.path.components.dropLast
    if above.bytes ≠ [] then
      IO.FS.createDirAll (String.ofList above.display)
    IO.FS.writeBinFile (String.ofList file.path.display) ⟨file.content.toArray⟩
  (← IO.getStdout).write ⟨outcome.stdout.toArray⟩
  (← IO.getStderr).putStr (String.ofList outcome.stderr)
  return if outcome.failed then 1 else 0

/-- The words that stand before a zero byte each. -/
def wordsOf (bytes : Bytes) : List Bytes :=
  (bytes.splitBy fun b _ => b ≠ 0).map fun word => word.filter (· ≠ 0)

/-- The command line byte by byte where the system shows it, and otherwise as the
given words. -/
def commandLine (words : List String) : IO (List Bytes) := do
  try
    return wordsOf (← IO.FS.readBinFile "/proc/self/cmdline").toList
  catch _ =>
    let program := (← IO.appPath).toString
    return (program :: words).map fun word => Utf8.encode word.toList

/-- Run with a command line. -/
def run (line : List Bytes) : IO UInt32 := do
  let startedMs ← IO.monoMsNow
  let started ← Std.Time.Timestamp.now
  let given := match CommandLine.optionsOf line.tail with
    | .ok given => given
    | .error _ => .nothing
  let disk ← picture given
  match CommandLine.parse disk line with
  | .error text => deliver (Program.print disk text)
  | .ok arguments =>
      let session := Program.start disk (← momentAt started) arguments
      let elapsed := (← IO.monoMsNow) - startedMs
      let ended ← Std.Time.Timestamp.now
      let duration := ended.toMillisecondsSinceUnixEpoch.toInt -
        started.toMillisecondsSinceUnixEpoch.toInt
      deliver (session.conclude ⟨← momentAt started, ← momentAt ended, elapsed, duration⟩)

end Command

end JavadocNames

/-- The command itself. -/
def main (words : List String) : IO UInt32 := do
  JavadocNames.Command.run (← JavadocNames.Command.commandLine words)
