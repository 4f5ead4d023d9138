import JavadocNames.Text.Utf8

/-!
# Paths

A path is a byte string.  Slashes separate its components; empty pieces do not
count, nor does `.` except as the first piece of a relative path.  The class of a
documentation page is read off the last component.
-/

namespace JavadocNames

/-- A path as it was spelled. -/
structure Path where
  bytes : Bytes
  deriving DecidableEq

namespace Path

/-- The byte between the pieces of a path. -/
def slash : UInt8 := 0x2F

/-- The byte in front of an extension. -/
def dot : UInt8 := 0x2E

/-- The path spelled by a text. -/
def ofText (text : Text) : Path :=
  ⟨Utf8.encode text⟩

/-- A path as shown to a reader. -/
def display (p : Path) : Text :=
  Utf8.decodeLossy p.bytes

/-- Cut a byte string at every slash; one piece more than there are slashes. -/
def cut : Bytes → List Bytes
  | [] => [[]]
  | b :: rest =>
      if b = slash then [] :: cut rest
      else
        match cut rest with
        | [] => [[b]]
        | piece :: pieces => (b :: piece) :: pieces

/-- The non-empty pieces between slashes. -/
def pieces (p : Path) : List Bytes :=
  (cut p.bytes).filter (· ≠ [])

/-- A path that starts at the top of the disk. -/
def isAbsolute (p : Path) : Bool :=
  p.bytes.head? = some slash

/-- A path spelled with a final slash names a directory or nothing. -/
def endsWithSlash (p : Path) : Bool :=
  p.bytes.getLast? = some slash

/-- What one step of a path names. -/
inductive Component where
  | root
  | current
  | parent
  | name (bytes : Bytes)
  deriving DecidableEq

namespace Component

/-- The component that a non-empty piece stands for. -/
def ofPiece (piece : Bytes) : Component :=
  if piece = [dot] then current
  else if piece = [dot, dot] then parent
  else name piece

/-- The bytes of a component. -/
def bytes : Component → Bytes
  | root => []
  | current => [dot]
  | parent => [dot, dot]
  | name b => b

end Component

/-- The components of a path. -/
def components (p : Path) : List Component :=
  let steps := (p.pieces.map Component.ofPiece).filter (· ≠ .current)
  if p.isAbsolute then .root :: steps
  else if (cut p.bytes).head? = some [dot] then .current :: steps
  else steps

/-- The path with the given components. -/
def ofComponents (cs : List Component) : Path :=
  match cs with
  | [.root] => ⟨[slash]⟩
  | _ => ⟨[slash].intercalate (cs.map Component.bytes)⟩

/-- The last component, when it is a name. -/
def fileName? (p : Path) : Option Bytes :=
  match p.components.getLast? with
  | some (.name b) => some b
  | _ => none

/-- Split a byte string at its last dot, which belongs to neither part. -/
def cutLastDot? : Bytes → Option (Bytes × Bytes)
  | [] => none
  | b :: rest =>
      match cutLastDot? rest with
      | some (stem, extension) => some (b :: stem, extension)
      | none => if b = dot then some ([], rest) else none

/-- Stem and extension of a file name.  The extension follows the last dot; a
name whose only dot comes first has none. -/
def splitName (name : Bytes) : Bytes × Option Bytes :=
  match cutLastDot? name with
  | none => (name, none)
  | some ([], _) => (name, none)
  | some (stem, extension) => (stem, some extension)

/-- The file name without its extension. -/
def stem? (p : Path) : Option Bytes :=
  p.fileName?.map fun name => (splitName name).1

/-- The extension of the file name. -/
def extension? (p : Path) : Option Bytes :=
  p.fileName?.bind fun name => (splitName name).2

/-- The path of `inner` as seen from `p`; an absolute `inner` stands alone. -/
def join (p inner : Path) : Path :=
  if inner.isAbsolute then inner
  else if p.bytes = [] || p.endsWithSlash then ⟨p.bytes ++ inner.bytes⟩
  else ⟨p.bytes ++ slash :: inner.bytes⟩

end Path

end JavadocNames
