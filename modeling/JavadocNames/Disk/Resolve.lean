import JavadocNames.Disk.Basic

/-!
# Resolving paths

A path is resolved piece by piece from the working directory, or from the top
when it is absolute.  A link met on the way is replaced by the pieces of its
target; at most forty links are followed.
-/

namespace JavadocNames

namespace Disk

/-- The longest name of one entry, in bytes. -/
def nameLimit : Nat := 255

/-- A path of this many bytes is too long. -/
def pathLimit : Nat := 4096

/-- The number of links that one path may pass through. -/
def linkLimit : Nat := 40

/-- Where a path leads. -/
inductive Target where
  /-- An entry that exists.  `slashed` tells that its name was spelled with a
  slash after it. -/
  | entry (place : Place) (node : DiskNode) (slashed : Bool)
  /-- A free name in a directory that exists. -/
  | free (directory : Place) (name : Bytes) (slashed : Bool)

/-- Resolve pieces from the directory at `place`.  `links` more links may be
followed; `last` tells whether a link in the last place is followed, and
`slashed` whether the path ends in a slash. -/
def follow (disk : Disk) (last : Bool) (links : Nat) (place : Place)
    (slashed : Bool) : List Bytes → Except DiskError Target
  | [] =>
      match disk.at? place with
      | some node => .ok (.entry place node slashed)
      | none => .error .notFound
  | piece :: rest =>
      if piece = [Path.dot] then follow disk last links place slashed rest
      else if piece = [Path.dot, Path.dot] then
        follow disk last links place.dropLast slashed rest
      else if nameLimit < piece.length then .error .nameTooLong
      else
        match disk.at? (place ++ [piece]) with
        | none =>
            if rest = [] then .ok (.free place piece slashed) else .error .notFound
        | some (.directory _) =>
            follow disk last links (place ++ [piece]) slashed rest
        | some (.file content) =>
            if rest = [] then
              .ok (.entry (place ++ [piece]) (.file content) slashed)
            else .error .notADirectory
        | some (.link target) =>
            if rest = [] && !last then
              .ok (.entry (place ++ [piece]) (.link target) slashed)
            else
              match links with
              | 0 => .error .tooManyLinks
              | links + 1 =>
                  if target.bytes = [] then .error .notFound
                  else
                    follow disk last links
                      (if target.isAbsolute then [] else place)
                      (slashed || rest = [] && target.endsWithSlash)
                      (target.pieces ++ rest)
termination_by pieces => (links, pieces.length)

/-- Resolve a path.  `last` tells whether a link in the last place is
followed. -/
def resolve (disk : Disk) (last : Bool) (path : Path) : Except DiskError Target :=
  if 0 ∈ path.bytes then .error .nulByte
  else if path.bytes = [] then .error .notFound
  else if pathLimit ≤ path.bytes.length then .error .nameTooLong
  else
    disk.follow last linkLimit (if path.isAbsolute then [] else disk.here)
      path.endsWithSlash path.pieces

/-- The node found at a target.  Only a directory may be spelled with a slash
after its name. -/
def Target.node : Target → Except DiskError DiskNode
  | .entry _ node slashed =>
      if slashed && !node.isDirectory then .error .notADirectory else .ok node
  | .free .. => .error .notFound

/-- The node that a path leads to through all links. -/
def status (disk : Disk) (path : Path) : Except DiskError DiskNode :=
  (disk.resolve true path).bind Target.node

/-- The node that a path leads to, where a link in the last place stands for
itself unless a slash follows it. -/
def linkStatus (disk : Disk) (path : Path) : Except DiskError DiskNode :=
  (disk.resolve path.endsWithSlash path).bind Target.node

/-- A path that leads to a directory. -/
def isDirectory (disk : Disk) (path : Path) : Bool :=
  match disk.status path with
  | .ok node => node.isDirectory
  | .error _ => false

/-- The content of a file. -/
def read (disk : Disk) (path : Path) : Except DiskError Bytes :=
  match disk.status path with
  | .ok (.file content) => .ok content
  | .ok (.directory _) => .error .isADirectory
  | .ok (.link _) => .error .tooManyLinks
  | .error e => .error e

end Disk

end JavadocNames
