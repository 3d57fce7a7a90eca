import SourceAtlas.Text.Basic

/-!
# Texts as bytes

UTF-8, read in two ways: strictly, where an invalid byte refuses the whole, and lossily, where each
maximal prefix of a character that is broken off is replaced by one replacement character.
-/

namespace SourceAtlas.Text

abbrev Bytes := List UInt8

/-- The character shown in the place of bytes that are no UTF-8. -/
def replacement : Char := Char.ofNat 0xFFFD

/-- The bytes that may come second after a first byte, as an interval, and how many bytes follow
the first one. None if no character starts with the byte. -/
def leadByte? (b : Nat) : Option (Nat × Nat × Nat) :=
  if b < 0x80 then some (0x80, 0xBF, 0)
  else if 0xC2 ≤ b && b ≤ 0xDF then some (0x80, 0xBF, 1)
  else if b == 0xE0 then some (0xA0, 0xBF, 2)
  else if b == 0xED then some (0x80, 0x9F, 2)
  else if 0xE1 ≤ b && b ≤ 0xEF then some (0x80, 0xBF, 2)
  else if b == 0xF0 then some (0x90, 0xBF, 3)
  else if 0xF1 ≤ b && b ≤ 0xF3 then some (0x80, 0xBF, 3)
  else if b == 0xF4 then some (0x80, 0x8F, 3)
  else none

/-- The payload bits of a first byte that `following` bytes come after. -/
def leadBits (b following : Nat) : Nat :=
  match following with
  | 0 => b
  | 1 => b % 0x20
  | 2 => b % 0x10
  | _ => b % 0x08

/-- Takes `count` continuation bytes, the first between `lo` and `hi`: the code point that they
complete and the bytes after them, or none and the bytes from the first one that does not fit. -/
def continuation (lo hi : Nat) : Nat → Nat → Bytes → Option Nat × Bytes
  | code, 0, bytes => (some code, bytes)
  | _, _ + 1, [] => (none, [])
  | code, count + 1, b :: bytes =>
    if lo ≤ b.toNat && b.toNat ≤ hi then
      continuation 0x80 0xBF (64 * code + b.toNat % 64) count bytes
    else (none, b :: bytes)
termination_by _ count => count

theorem continuation_length_le (lo hi code count : Nat) (bytes : Bytes) :
    (continuation lo hi code count bytes).2.length ≤ bytes.length := by
  induction count generalizing lo hi code bytes with
  | zero => simp [continuation]
  | succ count ih =>
    cases bytes with
    | nil => simp [continuation]
    | cons b bytes =>
      rw [continuation]
      split
      · exact Nat.le_succ_of_le (ih ..)
      · exact Nat.le_refl _

/-- One character, or one broken prefix of a character, off the front of the bytes. -/
def decodeStep (b : UInt8) (bytes : Bytes) : Option Char × Bytes :=
  match leadByte? b.toNat with
  | none => (none, bytes)
  | some (lo, hi, following) =>
    match continuation lo hi (leadBits b.toNat following) following bytes with
    | (some code, rest) => (some (Char.ofNat code), rest)
    | (none, rest) => (none, rest)

theorem decodeStep_length_le (b : UInt8) (bytes : Bytes) :
    (decodeStep b bytes).2.length ≤ bytes.length := by
  unfold decodeStep
  split
  · exact Nat.le_refl _
  · rename_i lo hi following _
    have h := continuation_length_le lo hi (leadBits b.toNat following) following bytes
    split <;> simp_all

/-- The characters of the bytes in order, none for a broken one. -/
def decodeSteps : Bytes → List (Option Char)
  | [] => []
  | b :: bytes => (decodeStep b bytes).1 :: decodeSteps (decodeStep b bytes).2
termination_by bytes => bytes.length
decreasing_by
  have := decodeStep_length_le b bytes
  simp only [List.length_cons]
  omega

/-- Reads bytes as text, with a replacement character for each broken character. -/
def decodeLossy (bytes : Bytes) : Text := (decodeSteps bytes).map (·.getD replacement)

/-- Reads bytes as text if all of them are UTF-8. -/
def decode? (bytes : Bytes) : Option Text := (decodeSteps bytes).mapM id

def encodeChar (c : Char) : Bytes :=
  let n := c.toNat
  if n < 0x80 then [n.toUInt8]
  else if n < 0x800 then [(0xC0 + n / 64).toUInt8, (0x80 + n % 64).toUInt8]
  else if n < 0x10000 then
    [(0xE0 + n / 4096).toUInt8, (0x80 + n / 64 % 64).toUInt8, (0x80 + n % 64).toUInt8]
  else
    [(0xF0 + n / 262144).toUInt8, (0x80 + n / 4096 % 64).toUInt8, (0x80 + n / 64 % 64).toUInt8,
      (0x80 + n % 64).toUInt8]

/-- The UTF-8 bytes of a text. -/
def encode (t : Text) : Bytes := t.flatMap encodeChar

/-- The raw lines of a file: what stands between its newline bytes. A file that ends in a newline
has no empty line after it. -/
def rawLines : Bytes → List Bytes
  | [] => []
  | b :: bytes =>
    if b = 10 then [] :: rawLines bytes
    else
      match rawLines bytes with
      | [] => [[b]]
      | l :: ls => (b :: l) :: ls

/-- The raw lines that end in a newline. -/
def endedLines (bytes : Bytes) : List Bytes :=
  if bytes.getLast? = some 10 then rawLines bytes else (rawLines bytes).dropLast

end SourceAtlas.Text
