import SourceAtlas.Entity.Basic

/-!
# Templates

Texts in which marked names stand for values. A name between double bars is resolved for the file
that is read, one between double exclamation marks for the file that it may depend on.
-/

namespace SourceAtlas

/-- Whose values a marked name stands for. -/
inductive Marker where
  | source
  | target
  deriving DecidableEq, Repr

namespace Marker

def delimiter : Marker → Text
  | source => ['|', '|']
  | target => ['!', '!']

theorem delimiter_length (m : Marker) : m.delimiter.length = 2 := by cases m <;> rfl

/-- The name in a text that consists of one marked name. -/
def unwrap? (m : Marker) (t : Text) : Option Text := do
  let rest ← Text.after? m.delimiter t
  if m.delimiter.isSuffixOf rest then
    let name := rest.take (rest.length - 2)
    if name.isEmpty || Text.contains name m.delimiter then none else some name
  else none

end Marker

namespace Template

/-- Replaces every marked name by what `resolve` makes of it, in one pass from left to right. A
mark without a partner stays. -/
def expand (m : Marker) (resolve : Text → Text) (t : Text) : Text :=
  match ho : Text.find? m.delimiter t with
  | none => t
  | some i =>
    have hlt : 2 ≤ t.length := by
      have := Text.find?_le ho
      rw [m.delimiter_length] at this
      omega
    let inside := t.drop (i + 2)
    match Text.find? m.delimiter inside with
    | none => t
    | some n => t.take i ++ resolve (inside.take n) ++ expand m resolve (inside.drop (n + 2))
termination_by t.length
decreasing_by simp only [List.length_drop]; omega

/-- The value of a name that stands for the place of a file. -/
def builtin? (e : Entity) (name : Text) : Option Text :=
  match String.ofList name with
  | "NAMEOFFILE" => some e.name
  | "NAMEOFFILEONLY" => some e.nameOnly
  | "PATHOFFILE" => some e.path
  | "PATHOFFILEONLY" =>
    let suffix := '.' :: e.extension
    if !e.extension.isEmpty && suffix.isSuffixOf e.path then
      some (e.path.take (e.path.length - suffix.length))
    else some e.path
  | "NAMEOFDIRECTORY" => some (((Path.parent? e.path).bind Path.fileName?).getD [])
  | "PATHOFDIRECTORY" => some ((Path.parent? e.path).getD [])
  | _ => none

/-- The value of a name for an entity; a name that nothing is known of is empty. -/
def resolve (e : Entity) (name : Text) : Text :=
  ((builtin? e name).or (e.valueOf? name)).getD []

/-- Replaces the names with one mark by their values for an entity. -/
def substitute (m : Marker) (e : Entity) (t : Text) : Text := expand m (resolve e) t

end Template

end SourceAtlas
