import SourceAtlas.Unicode.Ranges

/-!
# Colors

A color is written as `#` and two hexadecimal digits for each of its channels. A directory takes
the average color of what it holds.
-/

namespace SourceAtlas

structure Color where
  red : UInt8
  green : UInt8
  blue : UInt8
  deriving DecidableEq, Repr

namespace Color

/-- The channel that two hexadecimal digits of either case stand for. -/
def channel? (high low : Char) : Option UInt8 := do
  let h ← Unicode.hexDigit? high
  let l ← Unicode.hexDigit? low
  return (16 * h + l).toUInt8

def parse? : Text → Option Color
  | ['#', r₁, r₀, g₁, g₀, b₁, b₀] => do
    return ⟨← channel? r₁ r₀, ← channel? g₁ g₀, ← channel? b₁ b₀⟩
  | _ => none

/-- The upper-case digit of a number below sixteen. -/
def digit (n : Nat) : Char := (Nat.digitChar n).toUpper

def printChannel (c : UInt8) : Text := [digit (c.toNat / 16), digit (c.toNat % 16)]

def print (c : Color) : Text :=
  '#' :: printChannel c.red ++ printChannel c.green ++ printChannel c.blue

/-- The average of some channels, rounded down. -/
def average (channels : List UInt8) : UInt8 :=
  ((channels.map UInt8.toNat).foldr (· + ·) 0 / channels.length).toUInt8

/-- The color whose channels are the averages of those of the given ones. Texts that are no color
do not count, and there is no average of nothing. -/
def blend (colors : List Text) : Option Text :=
  match colors.filterMap parse? with
  | [] => none
  | known =>
    some (print ⟨average (known.map red), average (known.map green), average (known.map blue)⟩)

end Color

end SourceAtlas
