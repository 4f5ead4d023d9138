import JavadocNames.Path

/-!
# Disks

A disk is a finite tree of files, directories and symbolic links, together with
the place that relative paths start from.  A place in the tree is the list of
names leading to it from the top.
-/

namespace JavadocNames

/-- Why the disk refuses an operation. -/
inductive DiskError where
  | notFound
  | alreadyExists
  | notADirectory
  | isADirectory
  | nameTooLong
  | tooManyLinks
  | nulByte
  deriving DecidableEq

/-- The wording of a refusal. -/
def DiskError.message : DiskError → Text
  | notFound => "No such file or directory (os error 2)".toList
  | alreadyExists => "File exists (os error 17)".toList
  | notADirectory => "Not a directory (os error 20)".toList
  | isADirectory => "Is a directory (os error 21)".toList
  | nameTooLong => "File name too long (os error 36)".toList
  | tooManyLinks => "Too many levels of symbolic links (os error 40)".toList
  | nulByte => "file name contained an unexpected NUL byte".toList

/-- What a name on the disk stands for. -/
inductive DiskNode where
  | file (content : Bytes)
  | link (target : Path)
  | directory (entries : List (Bytes × DiskNode))

/-- The names that lead from the top of the disk to a place on it. -/
abbrev Place := List Bytes

namespace DiskNode

/-- The node of a name among the entries of a directory. -/
def child? (name : Bytes) : List (Bytes × DiskNode) → Option DiskNode
  | [] => none
  | (n, node) :: rest => if n = name then some node else child? name rest

/-- The node at a place below this one.  Links are not followed. -/
def at? : DiskNode → Place → Option DiskNode
  | node, [] => some node
  | .directory entries, name :: rest => (child? name entries).bind (at? · rest)
  | .file _, _ :: _ => none
  | .link _, _ :: _ => none

/-- Replace the entry of a name, or add one at the end. -/
def putEntry (name : Bytes) (new : DiskNode) : List (Bytes × DiskNode) → List (Bytes × DiskNode)
  | [] => [(name, new)]
  | (n, node) :: rest =>
      if n = name then (n, new) :: rest else (n, node) :: putEntry name new rest

/-- Put a node at a place whose parent is a directory; anywhere else nothing
changes. -/
def put : DiskNode → Place → DiskNode → DiskNode
  | _, [], new => new
  | .directory entries, [name], new => .directory (putEntry name new entries)
  | .directory entries, name :: next :: rest, new =>
      match child? name entries with
      | some child => .directory (putEntry name (put child (next :: rest) new) entries)
      | none => .directory entries
  | .file content, _ :: _, _ => .file content
  | .link target, _ :: _, _ => .link target

/-- The node is a directory itself, not a link to one. -/
def isDirectory : DiskNode → Bool
  | .directory _ => true
  | _ => false

end DiskNode

/-- A file tree and the working directory. -/
structure Disk where
  top : DiskNode
  here : Place

namespace Disk

/-- The node at a place. -/
def at? (disk : Disk) (place : Place) : Option DiskNode :=
  disk.top.at? place

/-- The disk with another node at a place. -/
def put (disk : Disk) (place : Place) (node : DiskNode) : Disk :=
  { disk with top := disk.top.put place node }

end Disk

end JavadocNames
