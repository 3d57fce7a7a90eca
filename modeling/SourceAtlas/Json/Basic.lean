import SourceAtlas.Text.Quoted

/-!
# JSON values

Numbers and strings are kept as they are written, so that every well-formed text has a value, also
one with a number out of all ranges or with a string that stands for no text. `Json.escape` and
`Json.unescape?` lead from texts to written strings and back.
-/

namespace SourceAtlas

inductive Json where
  | null
  | bool (b : Bool)
  /-- A number, as it is written. -/
  | number (written : Text)
  /-- A string, as it is written between its quotes. -/
  | string (written : Text)
  | array (items : List Json)
  /-- The members in order, with their keys as they are written. -/
  | object (members : List (Text × Json))
  deriving BEq, Repr, Inhabited

namespace Json

/-! ## Strings -/

/-- One character inside quotes: quotes, backslashes and control characters are escaped. -/
def escapeChar (c : Char) : Text :=
  match c with
  | '"' => ['\\', '"']
  | '\\' => ['\\', '\\']
  | '\n' => ['\\', 'n']
  | '\r' => ['\\', 'r']
  | '\t' => ['\\', 't']
  | '\x08' => ['\\', 'b']
  | '\x0c' => ['\\', 'f']
  | c =>
    if c.toNat < 0x20 then
      ['\\', 'u', '0', '0', Nat.digitChar (c.toNat / 16), Nat.digitChar (c.toNat % 16)]
    else [c]

def escape (t : Text) : Text := t.flatMap escapeChar

/-- The character that a letter after a backslash stands for. -/
def escaped? : Char → Option Char
  | '"' => some '"'
  | '\\' => some '\\'
  | '/' => some '/'
  | 'b' => some '\x08'
  | 'f' => some '\x0c'
  | 'n' => some '\n'
  | 'r' => some '\r'
  | 't' => some '\t'
  | _ => none

/-- The number of four hexadecimal digits. -/
def unit? (a b c d : Char) : Option Nat := do
  return 0x1000 * (← Unicode.hexDigit? a) + 0x100 * (← Unicode.hexDigit? b) +
    0x10 * (← Unicode.hexDigit? c) + (← Unicode.hexDigit? d)

def isHighSurrogate (u : Nat) : Bool := 0xD800 ≤ u && u < 0xDC00

def isLowSurrogate (u : Nat) : Bool := 0xDC00 ≤ u && u < 0xE000

/-- The character of two surrogates. -/
def pairChar (high low : Nat) : Char :=
  Char.ofNat (0x10000 + (high - 0xD800) * 0x400 + (low - 0xDC00))

/-- The text that a written string stands for. There is none if a surrogate is not part of a
pair. -/
def unescape? : Text → Option Text
  | [] => some []
  | '\\' :: 'u' :: a :: b :: c :: d :: '\\' :: 'u' :: e :: f :: g :: h :: t => do
    let first ← unit? a b c d
    if isHighSurrogate first then
      let second ← unit? e f g h
      if isLowSurrogate second then return pairChar first second :: (← unescape? t) else none
    else if isLowSurrogate first then none
    else return Char.ofNat first :: (← unescape? ('\\' :: 'u' :: e :: f :: g :: h :: t))
  | '\\' :: 'u' :: a :: b :: c :: d :: t => do
    let u ← unit? a b c d
    if isHighSurrogate u || isLowSurrogate u then none
    else return Char.ofNat u :: (← unescape? t)
  | '\\' :: c :: t => do return (← escaped? c) :: (← unescape? t)
  | c :: t => do return c :: (← unescape? t)

/-! ## Values of texts and numbers -/

def ofText (t : Text) : Json := string (escape t)

def ofNat (n : Nat) : Json := number (Text.ofNat n)

/-- The text of a string value. -/
def text? : Json → Option Text
  | string written => unescape? written
  | _ => none

def bool? : Json → Option Bool
  | bool b => some b
  | _ => none

/-- The texts of an array of strings. -/
def texts? : Json → Option (List Text)
  | array items => items.mapM text?
  | _ => none

end Json

end SourceAtlas
