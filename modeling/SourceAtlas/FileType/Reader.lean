import SourceAtlas.Field
import SourceAtlas.FileType.Basic
import SourceAtlas.Json.Parser

/-!
# Tables of file types as JSON

A table is written as an object whose keys are the labels. A type is an object with the members
`name`, `extensions`, `color` and `code`, of which only `color` has to be there, or an array of
these four in this order, of which only `code` may be missing.
-/

namespace SourceAtlas

/-- The members of an object with their keys as texts. -/
def Json.keyed? (members : List (Text × Json)) : Option (List (Text × Json)) :=
  members.mapM fun (key, value) => (Json.unescape? key).map (·, value)

namespace FileType

def ofMembers? (members : List (Text × Json)) : Option FileType := do
  let name ← Field.read? members "name".toList Json.text?
  let extensions ← Field.read? members "extensions".toList Json.texts?
  let color ← Field.read? members "color".toList Json.text?
  let code ← Field.read? members "code".toList Json.bool?
  return ⟨name.getD [], extensions.getD [], ← color, code.getD false⟩

def ofJson? : Json → Option FileType
  | .object members => do ofMembers? (← Json.keyed? members)
  | .array [name, extensions, color] => do
    return ⟨← name.text?, ← extensions.texts?, ← color.text?, false⟩
  | .array [name, extensions, color, code] => do
    return ⟨← name.text?, ← extensions.texts?, ← color.text?, ← code.bool?⟩
  | _ => none

end FileType

namespace FileTypes

/-- The entries of a table in the order in which they are written. -/
def entries? : Json → Option (List (Text × FileType))
  | .object members => do
    (← Json.keyed? members).mapM fun (label, value) => (FileType.ofJson? value).map (label, ·)
  | _ => none

/-- The table that a text holds. -/
def parse (t : Text) : Except Error FileTypes × List Notice :=
  match (Json.parse? t).bind entries? with
  | some entries => ofTypes (arrange entries)
  | none => (.error .malformed, [])

/-- The table that a file holds. -/
def load (fs : FileSystem) (path : Path) : Except Error FileTypes × List Notice :=
  match fs.readText path with
  | .ok t => parse t
  | .error fault => (.error (.unreadable path fault), [])

end FileTypes

end SourceAtlas
