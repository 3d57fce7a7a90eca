/-!
# Text

A text is its list of characters. This file holds the operations that the rest of the library
reads lines with: white space, trimming, cutting into lines and words, and searching. Positions
count characters, and every search finds the leftmost place.
-/

namespace SourceAtlas

/-- A text, as its characters. -/
abbrev Text := List Char

namespace Text

/-- The characters with the Unicode property `White_Space`. -/
def isSpace (c : Char) : Bool :=
  (9 ≤ c.toNat && c.toNat ≤ 13) || c.toNat == 0x20 || c.toNat == 0x85 || c.toNat == 0xA0 ||
    c.toNat == 0x1680 || (0x2000 ≤ c.toNat && c.toNat ≤ 0x200A) || c.toNat == 0x2028 ||
    c.toNat == 0x2029 || c.toNat == 0x202F || c.toNat == 0x205F || c.toNat == 0x3000

/-! ## Trimming -/

def trimStart (t : Text) : Text := t.dropWhile isSpace

def trimEnd (t : Text) : Text := (t.reverse.dropWhile isSpace).reverse

def trim (t : Text) : Text := trimEnd (trimStart t)

theorem trimStart_length_le (t : Text) : (trimStart t).length ≤ t.length :=
  (List.dropWhile_sublist _).length_le

/-! ## Cutting -/

/-- The pieces between the characters that satisfy `p`; there is one more piece than there are
such characters. -/
def cutAt (p : Char → Bool) : Text → List Text
  | [] => [[]]
  | c :: t =>
    if p c then [] :: cutAt p t
    else
      match cutAt p t with
      | [] => [[c]]
      | w :: ws => (c :: w) :: ws

/-- The maximal runs of characters other than white space. -/
def words (t : Text) : List Text := (cutAt isSpace t).filter (!·.isEmpty)

/-- The lines of a text. A line ends at a newline, or at a carriage return and a newline; what
follows the last newline is a line only if it is not empty. -/
def lines : Text → List Text
  | [] => []
  | '\n' :: t => [] :: lines t
  | '\r' :: '\n' :: t => [] :: lines t
  | c :: t =>
    match lines t with
    | [] => [[c]]
    | l :: ls => (c :: l) :: ls

/-- The texts one after the other, with `sep` between neighbours. -/
def join (sep : Text) : List Text → Text
  | [] => []
  | [t] => t
  | t :: u :: ts => t ++ sep ++ join sep (u :: ts)

/-! ## Searching -/

/-- What follows `start` in a text that starts with it. -/
def after? : Text → Text → Option Text
  | [], t => some t
  | _ :: _, [] => none
  | a :: start, b :: t => if a = b then after? start t else none

theorem after?_eq_some {start t rest : Text} : after? start t = some rest ↔ t = start ++ rest := by
  induction start generalizing t with
  | nil => simp [after?]
  | cons a start ih =>
    cases t with
    | nil => simp [after?]
    | cons b t =>
      by_cases h : a = b
      · simp [after?, h, ih]
      · simp [after?, h, Ne.symm h]

/-- The leftmost position at which `needle` occurs. -/
def find? (needle : Text) : Text → Option Nat
  | [] => if needle.isEmpty then some 0 else none
  | c :: t => if needle.isPrefixOf (c :: t) then some 0 else (find? needle t).map (· + 1)

theorem find?_le {needle t : Text} {i : Nat} (h : find? needle t = some i) :
    i + needle.length ≤ t.length := by
  induction t generalizing i with
  | nil =>
    simp only [find?] at h
    split at h
    · cases h
      simp_all
    · cases h
  | cons c t ih =>
    simp only [find?] at h
    split at h
    · rename_i hp
      cases h
      simpa using (List.isPrefixOf_iff_prefix.1 hp).length_le
    · obtain ⟨j, hj, rfl⟩ := Option.map_eq_some_iff.1 h
      have := ih hj
      simp only [List.length_cons]
      omega

theorem find?_eq_none {needle t : Text} : find? needle t = none ↔ ¬ needle <:+: t := by
  induction t with
  | nil =>
    rw [find?, List.infix_nil, ite_eq_right_iff]
    simp
  | cons c t ih =>
    rw [find?, List.infix_cons_iff, not_or, ← ih]
    by_cases h : needle <+: c :: t
    · simp [List.isPrefixOf_iff_prefix.2 h, h]
    · simp [h]

def contains (t needle : Text) : Bool := (find? needle t).isSome

/-- The rightmost position of a character. -/
def findLast? (c : Char) (t : Text) : Option Nat :=
  (t.reverse.findIdx? (· == c)).map (t.length - 1 - ·)

/-- The text with the first occurrence of `needle` taken out. -/
def removeFirst (needle t : Text) : Text :=
  match find? needle t with
  | some i => t.take i ++ t.drop (i + needle.length)
  | none => t

/-- A text without its last character `c`, if it ends in it. -/
def dropSuffixChar (c : Char) (t : Text) : Text :=
  if t.getLast? = some c then t.dropLast else t

/-- The decimal digits of a natural number. -/
def ofNat (n : Nat) : Text := Nat.toDigits 10 n

/-- An integer in decimal, with a minus sign if it is negative. -/
def ofInt : Int → Text
  | .ofNat n => ofNat n
  | .negSucc n => '-' :: ofNat (n + 1)

/-- The number of bytes that a text takes in UTF-8. -/
def byteLength (t : Text) : Nat := t.foldl (fun n c => n + c.utf8Size) 0

end Text

end SourceAtlas
