import SourceAtlas.FileSystem

/-!
# Listings

What a survey meets at and below a path: the files and directories that are listed and that its
options admit, in the order of their names. A link to a file is met as the file. A link to a
directory is met, but never followed. A directory is met also if it cannot be listed.
-/

namespace SourceAtlas

/-- What a survey leaves out. -/
structure SurveyOptions where
  excludes : Path → Bool
  /-- Whether names that start with a dot are left out. -/
  skipHidden : Bool

namespace SurveyOptions

def isHidden (path : Path) : Bool := (Path.fileName? path).any (·.head? == some '.')

def includes (options : SurveyOptions) (path : Path) : Bool :=
  !(options.skipHidden && isHidden path) && !options.excludes path

end SurveyOptions

inductive Listing where
  | file (path : Path) (file : FileData)
  /-- A directory with what is met in it, and the faults that listing it meets. -/
  | directory (path : Path) (entries : List Listing) (faults : List FileFault)
  | directoryLink (path : Path)
  | unreadable (path : Path)

namespace Listing

def path : Listing → Path
  | file path _ | directory path _ _ | directoryLink path | unreadable path => path

def isDirectoryLink : Listing → Bool
  | directoryLink _ => true
  | _ => false

/-- What a link at a path is met as. -/
def ofLink (fs : FileSystem) (path : Path) : Listing :=
  match fs.node path with
  | .ok (.regular data) => file path data
  | .ok (.directory ..) => directoryLink path
  | _ => unreadable path

/-- Listings in the order of the names that stand before them. -/
def arrange (listings : List (Text × Listing)) : List Listing :=
  (listings.mergeSort fun a b => !decide (b.1 < a.1)).map Prod.snd

mutual

/-- What is met at a path where a node stands. -/
def ofNode (fs : FileSystem) (options : SurveyOptions) (path : Path) : Node → Listing
  | .regular data => file path data
  | .directory entries faults =>
    directory path (arrange (ofEntries fs options path faults entries))
      (faults.map ListingFault.fault)
  | .link _ => ofLink fs path
  | .unreadable => unreadable path

/-- What is met in a directory, with its names, if listing it meets some faults. Options do not
apply to links to directories. -/
def ofEntries (fs : FileSystem) (options : SurveyOptions) (path : Path)
    (faults : List ListingFault) : List (Text × Node) → List (Text × Listing)
  | [] => []
  | (name, node) :: entries =>
    let place := Path.join path name
    let listing := ofNode fs options place node
    let others := ofEntries fs options path faults entries
    if Node.isListed faults name && (listing.isDirectoryLink || options.includes place) then
      (name, listing) :: others
    else others

end

/-- The links to directories among some listings. -/
def directoryLinks (listings : List Listing) : List Path :=
  listings.filterMap fun
    | directoryLink path => some path
    | _ => none

end Listing

end SourceAtlas
