import SourceAtlas.Text.Basic

/-!
# Places in a YAML text

Indentation carries meaning in YAML, so what remains of a text is kept together with the line and
the column where it starts. All line breaks but the two of Unicode are first turned into newlines.
-/

namespace SourceAtlas.Yaml

/-- The characters that may stand in a text at all. -/
def isAllowed (c : Char) : Bool :=
  let n := c.toNat
  n == 0x09 || n == 0x0A || n == 0x0D || (0x20 ≤ n && n ≤ 0x7E) || n == 0x85 ||
    (0xA0 ≤ n && n ≤ 0xFFFD) || 0x10000 ≤ n

def nextLine : Char := Char.ofNat 0x85

def lineSeparator : Char := Char.ofNat 0x2028

def paragraphSeparator : Char := Char.ofNat 0x2029

/-- Turns carriage returns, alone or with a newline, and next-line characters into newlines. -/
def unifyBreaks : Text → Text
  | [] => []
  | '\r' :: '\n' :: t => '\n' :: unifyBreaks t
  | c :: t => (if c == '\r' || c == nextLine then '\n' else c) :: unifyBreaks t

def isBreak (c : Char) : Bool := c == '\n' || c == lineSeparator || c == paragraphSeparator

def isBlank (c : Char) : Bool := c == ' ' || c == '\t'

/-- Whether a text starts with a blank or a break, or is at its end. -/
def isAtGap (t : Text) : Bool := t.head?.all fun c => isBlank c || isBreak c

/-- Whether a text starts with the mark of the start or the end of a document. -/
def isAtDocumentMark (t : Text) : Bool :=
  (t.take 3 == "---".toList || t.take 3 == "...".toList) && isAtGap (t.drop 3)

structure Cursor where
  rest : Text
  line : Nat
  column : Nat
  deriving DecidableEq, Repr

namespace Cursor

def start (t : Text) : Cursor := ⟨t, 0, 0⟩

/-- Moves over some characters of a line. -/
def skip (c : Cursor) (n : Nat) : Cursor := { c with rest := c.rest.drop n, column := c.column + n }

/-- Moves over a line break. -/
def skipBreak (c : Cursor) : Cursor := ⟨c.rest.drop 1, c.line + 1, 0⟩

/-- Moves over the characters of a line that satisfy `p`. -/
def skipWhile (c : Cursor) (p : Char → Bool) : Cursor := c.skip (c.rest.takeWhile p).length

def skipBlanks (c : Cursor) : Cursor := c.skipWhile isBlank

/-- Moves over a comment, if there is one. -/
def skipComment (c : Cursor) : Cursor :=
  if c.rest.head? == some '#' then c.skipWhile fun d => !isBreak d else c

/-- Moves over blanks, comments and breaks. Where a key may start, tabs do not count as blanks; a
key may start on every new line outside of brackets. Returned too is whether it may start at the
end. -/
def toNextToken (inFlow : Bool) : Nat → Cursor → Bool → Cursor × Bool
  | 0, c, keyAllowed => (c, keyAllowed)
  | fuel + 1, c, keyAllowed =>
    let c := (c.skipWhile fun d => d == ' ' || (d == '\t' && (inFlow || !keyAllowed))).skipComment
    if c.rest.head?.any isBreak then toNextToken inFlow fuel c.skipBreak (keyAllowed || !inFlow)
    else (c, keyAllowed)

end Cursor

end SourceAtlas.Yaml
