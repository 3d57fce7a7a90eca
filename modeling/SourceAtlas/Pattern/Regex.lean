import SourceAtlas.Pattern.CharSet

/-!
# Regular expressions

The expressions that patterns stand for, with flags already resolved, and their size.
-/

namespace SourceAtlas.Pattern

/-- Which characters make up words for a word boundary. -/
inductive WordClass where
  | unicode
  | ascii
  deriving DecidableEq, Repr

/-- A condition on the place between two characters. -/
inductive Assertion where
  | textStart
  | textEnd
  | lineStart
  | lineEnd
  /-- Lines that a carriage return, a newline or both of them end. -/
  | crlfLineStart
  | crlfLineEnd
  | wordBoundary (words : WordClass)
  | noWordBoundary (words : WordClass)
  | wordStart (words : WordClass)
  | wordEnd (words : WordClass)
  | wordStartHalf (words : WordClass)
  | wordEndHalf (words : WordClass)
  deriving DecidableEq, Repr

inductive Regex where
  | empty
  | char (set : CharSet)
  | assert (condition : Assertion)
  | group (index : Nat) (body : Regex)
  | seq (first second : Regex)
  | alt (first second : Regex)
  /-- At least `min` and at most `max` times, as often as possible if `greedy`. -/
  | rep (min : Nat) (max : Option Nat) (greedy : Bool) (body : Regex)

namespace Regex

/-- Whether every match has at least one character. -/
def consumes : Regex → Bool
  | empty | assert _ => false
  | char _ => true
  | group _ r => r.consumes
  | seq r s => r.consumes || s.consumes
  | alt r s => r.consumes && s.consumes
  | rep min _ _ r => 0 < min && r.consumes

/-- Whether every match is empty. -/
def isZeroWidth : Regex → Bool
  | empty | assert _ => true
  | char _ => false
  | group _ r => r.isZeroWidth
  | seq r s => r.isZeroWidth && s.isZeroWidth
  | alt r s => r.isZeroWidth && s.isZeroWidth
  | rep _ max _ r => max == some 0 || r.isZeroWidth

/-- A repetition in its plainest form: an expression that matches only the empty text repeats at
most once, and one that repeats exactly once stands for itself. -/
def repeated (min : Nat) (max : Option Nat) (greedy : Bool) (r : Regex) : Regex :=
  let (min, max) :=
    if r.isZeroWidth then (Nat.min min 1, some (Nat.min (max.getD 1) 1)) else (min, max)
  if min == 0 && max == some 0 then empty
  else if min == 1 && max == some 1 then r
  else rep min max greedy r

/-- The memory that a matcher for the expression takes, in bytes: 32 for a state, and 60 for each
range of characters beyond ASCII. -/
def size : Regex → Nat
  | empty | assert _ => 32
  | char set => 32 + 60 * set.ranges
  | group _ r => 64 + r.size
  | seq r s => r.size + s.size
  | alt r s => 32 + r.size + s.size
  | rep min max _ r =>
    32 + Nat.max 1 (max.getD min) * (r.size + (if max == some min then 0 else 32))

/-- What a matcher may take at most. -/
def sizeLimit : Nat := 10 * Nat.pow 2 20

end Regex

end SourceAtlas.Pattern
