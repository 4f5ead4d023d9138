import JavadocNames.Disk.Resolve
import JavadocNames.Failure

/-!
# Pages below a directory

The documentation pages of a directory are the `.html` entries below it that are
not directories.  Links below the directory are not followed, though one that
leads nowhere still counts as an entry.  Entries are visited by name in byte
order, and the pages of a directory in place of the directory.
-/

namespace JavadocNames

namespace Disk

/-- The extension of a page. -/
def pageExtension : Bytes :=
  Utf8.encode "html".toList

/-- The path is spelled like that of a page. -/
def isPagePath (path : Path) : Bool :=
  path.extension? = some pageExtension

/-- Insert a named value before the first one with a greater name. -/
def insertByName {α : Type} (entry : Bytes × α) : List (Bytes × α) → List (Bytes × α)
  | [] => [entry]
  | other :: rest =>
      if entry.1 < other.1 then entry :: other :: rest
      else other :: insertByName entry rest

/-- Sort named values by name. -/
def sortByName {α : Type} : List (Bytes × α) → List (Bytes × α)
  | [] => []
  | entry :: rest => insertByName entry (sortByName rest)

/-- The pages found in one place, or the path that could not be listed. -/
abbrev Pages := Except (Path × DiskError) (List Path)

/-- Pages of several places, one after the other; the first refusal counts. -/
def Pages.concat : List Pages → Pages
  | [] => .ok []
  | .error e :: _ => .error e
  | .ok pages :: rest =>
      match concat rest with
      | .ok more => .ok (pages ++ more)
      | .error e => .error e

mutual

/-- The pages at a path with a given node. -/
def pagesAt (disk : Disk) (path : Path) : DiskNode → Pages
  | .file _ => .ok (if isPagePath path then [path] else [])
  | .link _ => .ok (if !disk.isDirectory path && isPagePath path then [path] else [])
  | .directory entries =>
      if pathLimit ≤ path.bytes.length then .error (path, .nameTooLong)
      else .concat ((sortByName (pagesOf disk path entries)).map (·.2))

/-- The pages of each entry of the directory at a path. -/
def pagesOf (disk : Disk) (path : Path) : List (Bytes × DiskNode) → List (Bytes × Pages)
  | [] => []
  | (name, node) :: rest =>
      (name, pagesAt disk (path.join ⟨name⟩) node) :: pagesOf disk path rest

end

/-- The pages below `root`, or `root` itself when it is a page.  A link is
followed when it is the root. -/
def findPages (disk : Disk) (root : Path) : Except Failure (List Path) :=
  let found : Pages :=
    match disk.linkStatus root with
    | .error e => .error (root, e)
    | .ok (.link _) =>
        match disk.status root with
        | .error e => .error (root, e)
        | .ok node => disk.pagesAt root node
    | .ok node => disk.pagesAt root node
  match found with
  | .ok pages => .ok pages
  | .error (path, e) => .error (.walk root path e)

end Disk

end JavadocNames
