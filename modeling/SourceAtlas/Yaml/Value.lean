import SourceAtlas.Yaml.Node

/-!
# Values of YAML nodes

What a node stands for where a certain kind of value is expected. Every scalar may stand for a
text. Only a plain one may stand for a number or a truth value, or for nothing at all.
-/

namespace SourceAtlas.Yaml

/-! ## Numbers -/

def radixes : List (Text × Nat) := [("0x".toList, 16), ("0o".toList, 8), ("0b".toList, 2)]

/-- The number of some digits in a radix; there has to be one, and the number must be below
`2 ^ 64`. -/
def digits? (radix : Nat) (t : Text) : Option Nat :=
  if t.isEmpty then none
  else
    t.foldlM
      (fun n c => do
        let d ← Unicode.hexDigit? c
        let next := radix * n + d
        if d < radix && next < Nat.pow 2 64 then some next else none)
      0

/-- Whether a text consists of several digits of which the first is a zero; that is no number. -/
def hasLeadingZero (t : Text) : Bool :=
  1 < t.length && t.head? == some '0' && t.all Char.isDigit

/-- The number that a text stands for: digits, or hexadecimal, octal or binary digits behind their
mark, with a plus sign in front or without. -/
def unsigned? (t : Text) : Option Nat :=
  let body := (Text.after? ['+'] t).getD t
  let marked := radixes.findSome? fun (mark, radix) =>
    (Text.after? mark body).bind (digits? radix)
  match marked with
  | some n => some n
  | none => if hasLeadingZero body then none else digits? 10 body

namespace Node

/-- Whether a node stands for nothing because it is left out. -/
def isLeftOut : Node → Bool
  | scalar true [] => true
  | _ => false

def nullWords : List Text := ["null".toList, "Null".toList, "NULL".toList, ['~']]

/-- Whether a node stands for nothing. -/
def isNull : Node → Bool
  | scalar true t => t.isEmpty || nullWords.contains t
  | _ => false

def text? : Node → Option Text
  | scalar _ t => some t
  | _ => none

def natural? : Node → Option Nat
  | scalar true t => unsigned? t
  | _ => none

def bool? : Node → Option Bool
  | scalar true t =>
    if ["true".toList, "True".toList, "TRUE".toList].contains t then some true
    else if ["false".toList, "False".toList, "FALSE".toList].contains t then some false
    else none
  | _ => none

/-- The texts of a sequence; one that is left out is empty. -/
def texts? (n : Node) : Option (List Text) :=
  match n with
  | sequence items => items.mapM text?
  | n => if n.isLeftOut then some [] else none

/-- A value that may be missing. -/
def optional? {α : Type} (read : Node → Option α) (n : Node) : Option (Option α) :=
  if n.isNull then some none else (read n).map some

/-- The entries of a mapping whose keys are texts; one that is left out has none. -/
def fields? (n : Node) : Option (List (Text × Node)) :=
  match n with
  | mapping entries => entries.mapM fun (key, value) => key.text?.map (·, value)
  | n => if n.isLeftOut then some [] else none

end Node

end SourceAtlas.Yaml
