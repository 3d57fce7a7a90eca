import SourceAtlas.Json.Basic

/-!
# Writing JSON

Every item and every member stands on a line of its own, two blanks further in than the brackets
around it. Empty arrays and objects stand on one line.
-/

namespace SourceAtlas.Json

def indentation (level : Nat) : Text := List.replicate (2 * level) ' '

def quoted (written : Text) : Text := '"' :: written ++ ['"']

/-- Lines between brackets, separated by commas. -/
def block (opening closing : Char) (level : Nat) (lines : List Text) : Text :=
  if lines.isEmpty then [opening, closing]
  else
    opening :: '\n' ::
      Text.join [',', '\n'] (lines.map fun line => indentation (level + 1) ++ line) ++
      '\n' :: indentation level ++ [closing]

mutual

/-- A value whose first line is indented by `level` steps. -/
def printAt (level : Nat) : Json → Text
  | null => "null".toList
  | bool true => "true".toList
  | bool false => "false".toList
  | number written => written
  | string written => quoted written
  | array items => block '[' ']' level (printItems (level + 1) items)
  | object members => block '{' '}' level (printMembers (level + 1) members)

def printItems (level : Nat) : List Json → List Text
  | [] => []
  | item :: items => printAt level item :: printItems level items

def printMembers (level : Nat) : List (Text × Json) → List Text
  | [] => []
  | (key, value) :: members =>
    (quoted key ++ ':' :: ' ' :: printAt level value) :: printMembers level members

end

def print (value : Json) : Text := printAt 0 value

end SourceAtlas.Json
