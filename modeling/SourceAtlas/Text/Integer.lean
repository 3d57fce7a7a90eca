import SourceAtlas.Text.Basic

/-!
# Integers in decimal

Reading integers of 64 bits with a sign. The first fault from the left is reported, so a number
that is too large is told even if it goes on with something that is no digit.
-/

namespace SourceAtlas.Text

inductive IntegerFault where
  | empty
  | invalidDigit
  | tooLarge
  | tooSmall
  deriving DecidableEq, Repr

def IntegerFault.message : IntegerFault → Text
  | .empty => "cannot parse integer from empty string".toList
  | .invalidDigit => "invalid digit found in string".toList
  | .tooLarge => "number too large to fit in target type".toList
  | .tooSmall => "number too small to fit in target type".toList

/-- Reads digits on from `value`, which must stay at most `limit`. -/
def magnitude (limit : Nat) (overflow : IntegerFault) (value : Nat) :
    Text → Except IntegerFault Nat
  | [] => .ok value
  | c :: t =>
    if c.isDigit then
      let next := 10 * value + (c.toNat - '0'.toNat)
      if next ≤ limit then magnitude limit overflow next t else .error overflow
    else .error .invalidDigit

/-- Reads an integer of 64 bits; a sign of either kind may precede the digits. -/
def parseInt64 : Text → Except IntegerFault Int
  | [] => .error .empty
  | ['+'] | ['-'] => .error .invalidDigit
  | '+' :: t => (magnitude (Nat.pow 2 63 - 1) .tooLarge 0 t).map Int.ofNat
  | '-' :: t => (magnitude (Nat.pow 2 63) .tooSmall 0 t).map fun n => -Int.ofNat n
  | t => (magnitude (Nat.pow 2 63 - 1) .tooLarge 0 t).map Int.ofNat

end SourceAtlas.Text
