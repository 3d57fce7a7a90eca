import SourceAtlas.Text.Basic

/-!
# Human-readable sizes

A number of bytes is shown in the largest unit that it reaches, with two decimals. The number is
first rounded to 53 significant bits, so that the steps below are exact on it.
-/

namespace SourceAtlas.ByteCount

/-- The integer nearest to `n / d`; of two that are equally near, the even one. -/
def nearestQuotient (n d : Nat) : Nat :=
  let q := n / d
  let r := n % d
  if 2 * r < d then q else if d < 2 * r then q + 1 else q + q % 2

/-- The nearest number with at most 53 significant bits. -/
def significant (n : Nat) : Nat :=
  let unit := Nat.pow 2 (n.log2 + 1 - 53)
  nearestQuotient n unit * unit

def unitNames : List Text :=
  ["B".toList, "KB".toList, "MB".toList, "GB".toList, "TB".toList]

/-- The position of the largest unit that a number of bytes reaches; a unit is 1024 of the one
before it. -/
def unitIndex (n : Nat) : Nat :=
  (List.range (unitNames.length - 1)).countP fun u => Nat.pow 1024 (u + 1) ≤ n

/-- How many hundredths of a unit a number of bytes is. -/
def hundredths (n unit : Nat) : Nat := nearestQuotient (100 * n) (Nat.pow 1024 unit)

/-- A number of hundredths with two decimals. -/
def twoDecimals (h : Nat) : Text :=
  Text.ofNat (h / 100) ++
    ['.', Nat.digitChar (h % 100 / 10), Nat.digitChar (h % 10)]

/-- A number of bytes as reports show it. -/
def print (bytes : UInt64) : Text :=
  let n := significant bytes.toNat
  let unit := unitIndex n
  twoDecimals (hundredths n unit) ++ ' ' :: unitNames.getD unit []

end SourceAtlas.ByteCount
