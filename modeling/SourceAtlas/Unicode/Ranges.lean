import SourceAtlas.Text.Basic

/-!
# Sets of code points

A set of code points as increasing, disjoint ranges, and the hexadecimal form in which the
tables of this folder are written.
-/

namespace SourceAtlas.Unicode

/-- Ranges of code points, both ends included, in increasing order. -/
abbrev Ranges := Array (Nat × Nat)

/-- The value of a hexadecimal digit. -/
def hexDigit? (c : Char) : Option Nat :=
  if '0' ≤ c ∧ c ≤ '9' then some (c.toNat - '0'.toNat)
  else if 'a' ≤ c ∧ c ≤ 'f' then some (c.toNat - 'a'.toNat + 10)
  else if 'A' ≤ c ∧ c ≤ 'F' then some (c.toNat - 'A'.toNat + 10)
  else none

/-- The number that a text of hexadecimal digits stands for; other characters count as zero. -/
def hexValue (t : Text) : Nat :=
  t.foldl (fun n c => 16 * n + (hexDigit? c).getD 0) 0

/-- The position of the last entry of an increasing `starts` between `lo` and `hi` that is at
most `n`, or `lo` if there is none. -/
def lastAtMost (starts : Nat → Nat) (n lo hi : Nat) : Nat :=
  if lo + 1 < hi then
    let mid := (lo + hi) / 2
    if starts mid ≤ n then lastAtMost starts n mid hi else lastAtMost starts n lo mid
  else lo
termination_by hi - lo

namespace Ranges

/-- One range of a table: `41-5A`, or `5F` for a single code point. -/
def entryOfHex (word : Text) : Nat × Nat :=
  match Text.cutAt (· == '-') word with
  | [lo, hi] => (hexValue lo, hexValue hi)
  | _ => (hexValue word, hexValue word)

/-- Reads the lines of a table, with blanks between the ranges. -/
def ofHex (rows : List String) : Ranges :=
  rows.foldl
    (fun acc row => (Text.words row.toList).foldl (fun a w => a.push (entryOfHex w)) acc) #[]

def contains (ranges : Ranges) (n : Nat) : Bool :=
  let entry := ranges.getD (lastAtMost (fun i => (ranges.getD i (0, 0)).1) n 0 ranges.size) (1, 0)
  entry.1 ≤ n && n ≤ entry.2

end Ranges

end SourceAtlas.Unicode
