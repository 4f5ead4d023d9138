import JavadocNames.Disk.Resolve

/-!
# Changing a disk

Making directories, links and files.  Making a file empties one that exists and
passes through links, also to a name that is still free; making a directory
never passes through a link in the last place.
-/

namespace JavadocNames

namespace Disk

/-- Make an empty file, or empty the file that is there.  The answer tells where
it is.  A name spelled with a slash after it is refused, whatever it names. -/
def createFile (disk : Disk) (path : Path) : Except DiskError (Place × Disk) :=
  match disk.resolve (!path.endsWithSlash) path with
  | .error e => .error e
  | .ok (.entry place node slashed) =>
      if node.isDirectory || slashed then .error .isADirectory
      else .ok (place, disk.put place (.file []))
  | .ok (.free place name slashed) =>
      if slashed then .error .isADirectory
      else .ok (place ++ [name], disk.put (place ++ [name]) (.file []))

/-- Make one directory where nothing is. -/
def createDirectory (disk : Disk) (path : Path) : Except DiskError Disk :=
  match disk.resolve false path with
  | .error e => .error e
  | .ok (.entry ..) => .error .alreadyExists
  | .ok (.free place name _) => .ok (disk.put (place ++ [name]) (.directory []))

/-- Make the directory with the given components, listed from the last to the
first, and the directories above it that are missing.  What was made before a
refusal stays. -/
def createDirectoriesUp (disk : Disk) :
    List Path.Component → Disk × Except DiskError Unit
  | [] => (disk, .ok ())
  | c :: above =>
      let path := Path.ofComponents (c :: above).reverse
      match disk.createDirectory path with
      | .ok made => (made, .ok ())
      | .error .notFound =>
          match createDirectoriesUp disk above with
          | (made, .error e) => (made, .error e)
          | (made, .ok ()) =>
              match made.createDirectory path with
              | .ok all => (all, .ok ())
              | .error e => (made, if made.isDirectory path then .ok () else .error e)
      | .error e => (disk, if disk.isDirectory path then .ok () else .error e)

/-- Make a directory and those above it that are missing.  A directory that
exists is left as it is. -/
def createDirectories (disk : Disk) (path : Path) : Disk × Except DiskError Unit :=
  if 0 ∈ path.bytes then (disk, .error .nulByte)
  else disk.createDirectoriesUp path.components.reverse

/-- Make a symbolic link where nothing is. -/
def createLink (disk : Disk) (path target : Path) : Except DiskError Disk :=
  match disk.resolve false path with
  | .error e => .error e
  | .ok (.entry ..) => .error .alreadyExists
  | .ok (.free place name slashed) =>
      if slashed then .error .notFound
      else .ok (disk.put (place ++ [name]) (.link target))

/-- Set the content of the file at a place. -/
def setContent (disk : Disk) (place : Place) (content : Bytes) : Disk :=
  disk.put place (.file content)

end Disk

end JavadocNames
