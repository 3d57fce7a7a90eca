import SourceAtlas.FileSystem

/-!
# Changing file systems

Files, directories and links are put at paths and taken away again. Directories on the way to a
path are created. Links on the way are not followed.
-/

namespace SourceAtlas

namespace Node

def emptyDirectory : Node := directory []

/-- The entries of a directory; other nodes have none. -/
def entries : Node → List (Text × Node)
  | directory entries _ => entries
  | _ => []

/-- The faults in listing a directory; other nodes have none. -/
def faults : Node → List ListingFault
  | directory _ faults => faults
  | _ => []

/-- Sets the entry with a name; it stays where it is if there is one already. -/
def setEntry (name : Text) (node : Node) : List (Text × Node) → List (Text × Node)
  | [] => [(name, node)]
  | (n, old) :: entries =>
    if n = name then (name, node) :: entries else (n, old) :: setEntry name node entries

/-- Replaces what stands below a node at the end of some names. -/
def update (change : Option Node → Node) : List Text → Option Node → Node
  | [], node => change node
  | name :: names, node =>
    let entries := (node.map entries).getD []
    directory (setEntry name (update change names (entries.lookup name)) entries)
      ((node.map faults).getD [])

end Node

namespace FileSystem

/-- The names that lead from the root to a path. -/
def names (fs : FileSystem) (p : Path) : List Text :=
  (Path.components (Path.join fs.workingDirectory p)).filterMap fun
    | .name n => some n
    | _ => none

/-- Puts a node at a path, in the place of what was there. -/
def put (fs : FileSystem) (p : Path) (node : Node) : FileSystem :=
  { fs with root := Node.update (fun _ => node) (fs.names p) (some fs.root) }

/-- Creates a directory at a path, unless there is one. -/
def makeDirectory (fs : FileSystem) (p : Path) : FileSystem :=
  { fs with
    root := Node.update
      (fun
        | some (.directory entries faults) => .directory entries faults
        | _ => .emptyDirectory)
      (fs.names p) (some fs.root) }

/-- Takes away the file or link at a path; directories stay. -/
def remove? (fs : FileSystem) (p : Path) : Option FileSystem := do
  let parent ← Path.parent? p
  let name ← Path.fileName? p
  let .ok (.directory entries faults) := fs.node parent | none
  match ← entries.lookup name with
  | .directory .. => none
  | _ => return fs.put parent (.directory (entries.filter fun (n, _) => n != name) faults)

end FileSystem

end SourceAtlas
