import SourceAtlas.Pattern.Regex

/-!
# Matching programs

A regular expression as a list of instructions. A run of the program prefers the first way at
each branch, so the order of the ways is the order of preference among matches.
-/

namespace SourceAtlas.Pattern

inductive Instr where
  /-- Take a character of the set and go on. -/
  | char (set : CharSet)
  | assert (condition : Assertion)
  /-- Note the place in a slot and go on. -/
  | save (slot : Nat)
  /-- Go on at the first address; failing that, at the second. -/
  | split (first second : Nat)
  | jump (target : Nat)
  | accept

abbrev Program := Array Instr

/-- A branch into a repetition at `inside` or past it at `outside`. -/
def Instr.choice (greedy : Bool) (inside outside : Nat) : Instr :=
  if greedy then .split inside outside else .split outside inside

namespace Regex

/-- The number of instructions of an expression. -/
def codeLength : Regex → Nat
  | empty => 0
  | char _ | assert _ => 1
  | group _ r => r.codeLength + 2
  | seq r s => r.codeLength + s.codeLength
  | alt r s => r.codeLength + s.codeLength + 2
  | rep min max _ r =>
    match max with
    | none => if min = 0 then r.codeLength + 2 else min * r.codeLength + 1
    | some max => min * r.codeLength + (max - min) * (r.codeLength + 1)

/-- Appends the instructions of an expression. A loop whose body may match the empty text is
entered before its branch, so that the body is tried once at each place. -/
def emit : Regex → Program → Program
  | empty, code => code
  | char set, code => code.push (.char set)
  | assert condition, code => code.push (.assert condition)
  | group index r, code =>
    (r.emit (code.push (.save (2 * index)))).push (.save (2 * index + 1))
  | seq r s, code => s.emit (r.emit code)
  | alt r s, code =>
    let second := code.size + r.codeLength + 2
    let code := r.emit (code.push (.split (code.size + 1) second))
    s.emit (code.push (.jump (second + s.codeLength)))
  | rep min max greedy r, code =>
    match max with
    | none =>
      if min = 0 then
        let head := code.size
        let behind := head + r.codeLength + 2
        let code := r.emit (code.push (.choice greedy (head + 1) behind))
        code.push (if r.consumes then .jump head else .choice greedy (head + 1) behind)
      else
        let code := Nat.repeat r.emit (min - 1) code
        let head := code.size
        let code := r.emit code
        code.push (.choice greedy head (code.size + 1))
    | some max =>
      let code := Nat.repeat r.emit min code
      let behind := code.size + (max - min) * (r.codeLength + 1)
      Nat.repeat (fun code => r.emit (code.push (.choice greedy (code.size + 1) behind)))
        (max - min) code

/-- The program that finds an expression and notes where the match starts and ends. -/
def program (r : Regex) : Program :=
  ((r.emit #[.save 0]).push (.save 1)).push .accept

end Regex

end SourceAtlas.Pattern
