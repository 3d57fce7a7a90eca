import SourceAtlas.Text.Basic

/-!
# Named fields

Values with names, in the order in which they are written. A field that is read may be missing,
but it must not be there twice; fields that are not read do not matter.
-/

namespace SourceAtlas.Field

variable {α β : Type}

/-- Reads the field with a name. The outer value is missing if the field is there twice or cannot
be read. -/
def read? (fields : List (Text × β)) (name : Text) (read : β → Option α) : Option (Option α) :=
  match fields.filter (·.1 == name) with
  | [] => some none
  | [(_, value)] => (read value).map some
  | _ => none

end SourceAtlas.Field
