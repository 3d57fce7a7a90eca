import SourceAtlas.Json.Basic

/-!
# Reading JSON

The whole text has to be one value, with blanks around it. Nothing but the standard grammar is
accepted: no comments, no comma after the last item, no leading zeros, no control characters in
strings.
-/

namespace SourceAtlas.Json

def isBlank (c : Char) : Bool := c == ' ' || c == '\n' || c == '\t' || c == '\r'

def skipBlanks (t : Text) : Text := t.dropWhile isBlank

/-! ## Tokens -/

/-- A written string up to its closing quote, and the text behind the quote. -/
def takeString? : Text → Option (Text × Text)
  | [] => none
  | '"' :: t => some ([], t)
  | '\\' :: 'u' :: a :: b :: c :: d :: t => do
    let _ ← unit? a b c d
    let (written, rest) ← takeString? t
    return ('\\' :: 'u' :: a :: b :: c :: d :: written, rest)
  | '\\' :: c :: t => do
    let _ ← escaped? c
    let (written, rest) ← takeString? t
    return ('\\' :: c :: written, rest)
  | c :: t =>
    if c.toNat < 0x20 || c == '\\' then none
    else do
      let (written, rest) ← takeString? t
      return (c :: written, rest)

/-- One or more digits, and the text behind them. -/
def takeDigits? (t : Text) : Option (Text × Text) :=
  let digits := t.takeWhile Char.isDigit
  if digits.isEmpty then none else some (digits, t.dropWhile Char.isDigit)

/-- The digits before the decimal point: a zero, or digits that do not start with one. -/
def takeWhole? : Text → Option (Text × Text)
  | '0' :: t => some (['0'], t)
  | t => takeDigits? t

def takeFraction? : Text → Option (Text × Text)
  | '.' :: t => (takeDigits? t).map fun (digits, rest) => ('.' :: digits, rest)
  | t => some ([], t)

def takeExponent? : Text → Option (Text × Text)
  | e :: t =>
    if e == 'e' || e == 'E' then
      match t with
      | s :: u =>
        if s == '+' || s == '-' then
          (takeDigits? u).map fun (digits, rest) => (e :: s :: digits, rest)
        else (takeDigits? t).map fun (digits, rest) => (e :: digits, rest)
      | [] => none
    else some ([], e :: t)
  | [] => some ([], [])

/-- A number without its sign, and the text behind it. -/
def takeUnsigned? (t : Text) : Option (Text × Text) := do
  let (whole, t) ← takeWhole? t
  let (fraction, t) ← takeFraction? t
  let (exponent, t) ← takeExponent? t
  return (whole ++ fraction ++ exponent, t)

def takeNumber? : Text → Option (Text × Text)
  | '-' :: t => (takeUnsigned? t).map fun (n, rest) => ('-' :: n, rest)
  | t => takeUnsigned? t

/-! ## Values -/

mutual

/-- One value at the start of a text. Values are nested at most `depth` deep. -/
def takeValue? (depth : Nat) (t : Text) : Option (Json × Text) :=
  match depth with
  | 0 => none
  | depth + 1 =>
    match skipBlanks t with
    | '"' :: t => (takeString? t).map fun (written, rest) => (.string written, rest)
    | '[' :: t =>
      match skipBlanks t with
      | ']' :: rest => some (.array [], rest)
      | t => (takeItems? depth t).map fun (items, rest) => (.array items, rest)
    | '{' :: t =>
      match skipBlanks t with
      | '}' :: rest => some (.object [], rest)
      | t => (takeMembers? depth t).map fun (members, rest) => (.object members, rest)
    | 'n' :: 'u' :: 'l' :: 'l' :: rest => some (.null, rest)
    | 't' :: 'r' :: 'u' :: 'e' :: rest => some (.bool true, rest)
    | 'f' :: 'a' :: 'l' :: 's' :: 'e' :: rest => some (.bool false, rest)
    | t => (takeNumber? t).map fun (written, rest) => (.number written, rest)

/-- One or more items of an array, and the bracket that closes it. -/
def takeItems? (depth : Nat) (t : Text) : Option (List Json × Text) :=
  match depth with
  | 0 => none
  | depth + 1 => do
    let (item, t) ← takeValue? depth t
    match skipBlanks t with
    | ',' :: t =>
      let (items, rest) ← takeItems? depth t
      return (item :: items, rest)
    | ']' :: rest => return ([item], rest)
    | _ => none

/-- One or more members of an object, and the brace that closes it. -/
def takeMembers? (depth : Nat) (t : Text) : Option (List (Text × Json) × Text) :=
  match depth with
  | 0 => none
  | depth + 1 =>
    match skipBlanks t with
    | '"' :: t => do
      let (key, t) ← takeString? t
      match skipBlanks t with
      | ':' :: t =>
        let (value, t) ← takeValue? depth t
        match skipBlanks t with
        | ',' :: t =>
          let (members, rest) ← takeMembers? depth t
          return ((key, value) :: members, rest)
        | '}' :: rest => return ([(key, value)], rest)
        | _ => none
      | _ => none
    | _ => none

end

/-- The value of a text. Every value and every item takes a character, so the length of the text
bounds the depth. -/
def parse? (t : Text) : Option Json := do
  let (value, rest) ← takeValue? (2 * t.length + 1) t
  if (skipBlanks rest).isEmpty then return value else none

end SourceAtlas.Json
