import SourceAtlas.Path
import SourceAtlas.Text.Utf8

/-!
# File systems

A file system as a value: a tree of directories, files and symbolic links, and the working
directory that relative paths start from. Looking up a path follows links, up to a limit.

Reading may fail. A file may be impossible to open, or the reading may end in a fault after some of
its bytes. Listing a directory may meet faults, and then misses names that still lead somewhere.
-/

namespace SourceAtlas

/-- Why a path or a file cannot be read. -/
inductive FileFault where
  | notFound
  | notADirectory
  | isADirectory
  | tooManyLinks
  | permissionDenied
  /-- A file that should be text is no UTF-8. -/
  | invalidText
  deriving DecidableEq, Repr

def FileFault.message : FileFault → Text
  | notFound => "No such file or directory (os error 2)".toList
  | notADirectory => "Not a directory (os error 20)".toList
  | isADirectory => "Is a directory (os error 21)".toList
  | tooManyLinks => "Too many levels of symbolic links (os error 40)".toList
  | permissionDenied => "Permission denied (os error 13)".toList
  | invalidText => "stream did not contain valid UTF-8".toList

/-! ## Files -/

/-- What comes of reading a file that was opened: the bytes that are read, and the fault that ends
the reading, unless it ends with the file. -/
structure Stream where
  bytes : Text.Bytes
  fault : Option FileFault
  deriving DecidableEq, Repr

namespace Stream

/-- A stream that no fault ends. -/
def whole (bytes : Text.Bytes) : Stream := ⟨bytes, none⟩

/-- All bytes of a stream that no fault ends. -/
def all (stream : Stream) : Except FileFault Text.Bytes :=
  match stream.fault with
  | none => .ok stream.bytes
  | some fault => .error fault

/-- The raw lines of a stream. The line in which a fault ends it is lost. -/
def rawLines (stream : Stream) : List Text.Bytes :=
  match stream.fault with
  | none => Text.rawLines stream.bytes
  | some _ => Text.endedLines stream.bytes

end Stream

/-- A file: the size that is told of it, and what comes of opening and reading it. -/
structure FileData where
  size : UInt64
  content : Except FileFault Stream

namespace FileData

/-- A file that can be read. -/
def ofBytes (bytes : Text.Bytes) : FileData := ⟨bytes.length.toUInt64, .ok (.whole bytes)⟩

/-- The bytes of a file. -/
def read (file : FileData) : Except FileFault Text.Bytes := file.content.bind Stream.all

end FileData

/-! ## Nodes -/

/-- A fault that listing a directory meets, and the names that are not listed because of it. -/
structure ListingFault where
  fault : FileFault
  hidden : List Text
  deriving DecidableEq, Repr

/-- What stands at a place of a file system. -/
inductive Node where
  /-- A file, or whatever else is no directory. -/
  | regular (file : FileData)
  /-- A directory: what its names lead to, and the faults that listing it meets. -/
  | directory (entries : List (Text × Node)) (faults : List ListingFault := [])
  /-- A symbolic link with the path that it holds. -/
  | link (target : Path)
  /-- An entry that has a name, but of which nothing can be read. -/
  | unreadable

namespace Node

/-- A file that can be read. -/
def file (content : Text.Bytes) : Node := regular (.ofBytes content)

/-- The entry of a directory with a name, listed or not. -/
def child? (node : Node) (name : Text) : Option Node :=
  match node with
  | directory entries _ => entries.lookup name
  | _ => none

def isDirectory : Node → Bool
  | directory .. => true
  | _ => false

/-- Whether a name is listed in spite of some faults. -/
def isListed (faults : List ListingFault) (name : Text) : Bool :=
  faults.all fun fault => !fault.hidden.contains name

end Node

/-- A place in a file system: the directories from the root to it, the innermost first, with the
names that lead to each. -/
abbrev Trail := List (Text × Node)

structure FileSystem where
  root : Node
  workingDirectory : Path

namespace FileSystem

/-- The node at the end of a trail. -/
def nodeAt (root : Node) : Trail → Node
  | [] => root
  | (_, node) :: _ => node

/-- The path of a trail. -/
def pathOf (trail : Trail) : Path :=
  if trail.isEmpty then ['/'] else trail.reverse.flatMap fun (name, _) => '/' :: name

/-- The components that lead to a path. A path that ends in a slash has to be a directory, which
one more component `.` asks for. -/
def steps (p : Path) : List Path.Component :=
  Path.components p ++ (if Path.endsInside p then [.current] else [])

/-- Follows components from a place. Every link that is met puts its own components in front of
the remaining ones, and at most `links` links are followed. -/
def follow (root : Node) (links : Nat) (trail : Trail) :
    List Path.Component → Except FileFault Trail
  | [] => .ok trail
  | .root :: rest => follow root links [] rest
  | .current :: rest =>
    if (nodeAt root trail).isDirectory then follow root links trail rest
    else .error .notADirectory
  | .parent :: rest =>
    if (nodeAt root trail).isDirectory then follow root links trail.tail rest
    else .error .notADirectory
  | .name n :: rest =>
    if !(nodeAt root trail).isDirectory then .error .notADirectory
    else
      match (nodeAt root trail).child? n with
      | none => .error .notFound
      | some (.link target) =>
        match links with
        | 0 => .error .tooManyLinks
        | links + 1 => follow root links trail (steps target ++ rest)
      | some node => follow root links ((n, node) :: trail) rest
termination_by components => (links, components.length)

/-- How many links are followed in one look-up. -/
def linkLimit : Nat := 40

/-- The place of a path, with all links followed. -/
def locate (fs : FileSystem) (p : Path) : Except FileFault Trail :=
  if p.isEmpty then .error .notFound
  else follow fs.root linkLimit [] (steps (Path.join fs.workingDirectory p))

/-- The path without links, `.` and `..` that leads to the same place. -/
def canonical (fs : FileSystem) (p : Path) : Except FileFault Path := (fs.locate p).map pathOf

/-- The node at a path, with links followed. -/
def node (fs : FileSystem) (p : Path) : Except FileFault Node :=
  (fs.locate p).map (nodeAt fs.root)

def isFile (fs : FileSystem) (p : Path) : Bool :=
  match fs.node p with
  | .ok (.regular _) => true
  | _ => false

/-- Opens a path. A directory can be opened, but reading it fails. -/
def openFile (fs : FileSystem) (p : Path) : Except FileFault Stream :=
  match fs.node p with
  | .ok (.regular file) => file.content
  | .ok (.directory ..) => .ok ⟨[], some .isADirectory⟩
  | .ok _ => .error .permissionDenied
  | .error fault => .error fault

/-- The bytes of a file. -/
def read (fs : FileSystem) (p : Path) : Except FileFault Text.Bytes :=
  match fs.openFile p with
  | .ok stream => stream.all
  | .error fault => .error fault

/-- The text of a file, which has to be UTF-8. -/
def readText (fs : FileSystem) (p : Path) : Except FileFault Text :=
  match fs.read p with
  | .error fault => .error fault
  | .ok content =>
    match Text.decode? content with
    | some t => .ok t
    | none => .error .invalidText

end FileSystem

end SourceAtlas
