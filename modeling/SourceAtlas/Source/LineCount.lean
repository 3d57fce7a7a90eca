import SourceAtlas.Text.Utf8

/-!
# Counting lines

The lines of a file are counted as its bytes come in, in portions of any size. A last line counts
also if no newline ends it.
-/

namespace SourceAtlas

/-- The newlines so far, and whether bytes have come after the last of them. -/
structure LineCount where
  newlines : Nat
  isPending : Bool
  deriving DecidableEq, Repr

namespace LineCount

open Text (Bytes)

def newline : UInt8 := 0x0A

def zero : LineCount := ⟨0, false⟩

/-- Counts a portion of bytes, whose last byte tells whether a line goes on behind it. -/
def feed (count : LineCount) (portion : Bytes) : LineCount :=
  ⟨count.newlines + portion.count newline, portion.getLast? != some newline⟩

/-- Counts portions in order. An empty portion is the end of the bytes. -/
def feedAll (count : LineCount) : List Bytes → LineCount
  | [] => count
  | portion :: portions =>
    if portion.isEmpty then count else (count.feed portion).feedAll portions

def total (count : LineCount) : Nat := count.newlines + if count.isPending then 1 else 0

/-- The number of lines of the bytes that come in as some portions. -/
def ofPortions (portions : List Bytes) : Nat := (zero.feedAll portions).total

/-- The number of lines of bytes that come in at once. -/
def ofBytes (bytes : Bytes) : Nat := ofPortions [bytes]

end LineCount

end SourceAtlas
