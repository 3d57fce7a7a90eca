import SourceAtlas.Color
import SourceAtlas.FileSystem
import SourceAtlas.Notice
import SourceAtlas.Text.Quoted

/-!
# File types

A table says which file extensions belong to which file type, in which color files of the type
are shown, and whether they hold code. Types are listed by their labels in increasing order. If
two types list one extension, it belongs to the first of them.
-/

namespace SourceAtlas

structure FileType where
  name : Text
  extensions : List Text
  color : Text
  code : Bool
  deriving DecidableEq, Repr

structure FileTypes where
  /-- The types with their labels, in increasing order of the labels. -/
  types : List (Text × FileType)
  /-- The extensions with the labels that they belong to. -/
  claims : List (Text × Text)
  deriving DecidableEq, Repr

namespace FileTypes

/-- Why there is no table. -/
inductive Error where
  | unreadable (path : Path) (fault : FileFault)
  | malformed
  | invalidColor (label color : Text)
  deriving DecidableEq, Repr

def Error.message : Error → Text
  | unreadable path fault =>
    "cannot read file-type table ".toList ++ path.quote ++ ": ".toList ++ fault.message
  | malformed => "invalid file-type table: ".toList
  | invalidColor label color =>
    "file type ".toList ++ label.quote ++ " has invalid color ".toList ++ color.quote

/-! ## Building -/

/-- Puts a type into a list in increasing order of the labels; an earlier one with the label is
replaced. -/
def insert (label : Text) (type : FileType) : List (Text × FileType) → List (Text × FileType)
  | [] => [(label, type)]
  | (l, t) :: types =>
    if label < l then (label, type) :: (l, t) :: types
    else if label = l then (label, type) :: types
    else (l, t) :: insert label type types

/-- The types of a list of entries in increasing order of their labels; of entries with one label
the last counts. -/
def arrange (entries : List (Text × FileType)) : List (Text × FileType) :=
  entries.foldl (fun types (label, type) => insert label type types) []

/-- Claims an extension for a label, unless it is claimed already. -/
def claim (label : Text) (found : List (Text × Text) × List Notice) (extension : Text) :
    List (Text × Text) × List Notice :=
  if (found.1.lookup extension).isSome then
    (found.1, found.2 ++ [.extensionClaimed extension label])
  else (found.1 ++ [(extension, label)], found.2)

/-- Claims the extensions of all types in turn. A type whose color is none ends it. -/
def claimAll : List (Text × FileType) → List (Text × Text) × List Notice →
    Except Error (List (Text × Text)) × List Notice
  | [], (claims, notices) => (.ok claims, notices)
  | (label, type) :: types, found =>
    if (Color.parse? type.color).isNone then (.error (.invalidColor label type.color), found.2)
    else claimAll types (type.extensions.foldl (claim label) found)

/-- The table of types that are listed in increasing order of their labels. -/
def ofTypes (types : List (Text × FileType)) : Except Error FileTypes × List Notice :=
  let (claims, notices) := claimAll types ([], [])
  (claims.map fun claims => ⟨types, claims⟩, notices)

/-! ## Looking up -/

/-- What a table says of an extension. -/
structure Info where
  label : Text
  color : Text
  isCode : Bool
  deriving DecidableEq, Repr

def get? (table : FileTypes) (label : Text) : Option FileType := table.types.lookup label

/-- The type of an extension; letter case counts. -/
def lookup? (table : FileTypes) (extension : Text) : Option Info := do
  let label ← table.claims.lookup extension
  let type ← table.get? label
  return ⟨label, type.color, type.code⟩

/-- The labels of the types that hold code. -/
def codeLabels (table : FileTypes) : List Text :=
  (table.types.filter fun (_, type) => type.code).map Prod.fst

def size (table : FileTypes) : Nat := table.types.length

def isEmpty (table : FileTypes) : Bool := table.types.isEmpty

end FileTypes

end SourceAtlas
