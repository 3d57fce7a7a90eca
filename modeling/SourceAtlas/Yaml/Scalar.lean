import SourceAtlas.Unicode.Ranges
import SourceAtlas.Yaml.Cursor

/-!
# YAML scalars

A scalar may go on over several lines. Where it does, a single line break between two parts is
read as a blank, and of several breaks the first one is dropped. A scalar between quotes or
behind a bar says where it ends; a plain one ends where a comment, an indicator or a line that is
indented less follows.
-/

namespace SourceAtlas.Yaml

/-! ## Gathering text over lines -/

/-- A scalar that is being read, with the place up to which it is read. Texts are gathered in
reverse. -/
structure Gathering where
  text : Text
  /-- Blanks that count only if the scalar goes on in the same line. -/
  blanks : Text
  /-- The first break since the last part of the scalar, and the further ones. An escaped break
  counts as none. -/
  breaks : Option (Text × Text)
  line : Nat
  column : Nat

namespace Gathering

def start (c : Cursor) : Gathering := ⟨[], [], none, c.line, c.column⟩

def isBetweenParts (g : Gathering) : Bool := g.breaks.isSome || !g.blanks.isEmpty

/-- What stands between two parts of the scalar, in reverse. -/
def between (g : Gathering) : Text :=
  match g.breaks with
  | none => g.blanks
  | some (['\n'], []) => [' ']
  | some (['\n'], further) => further
  | some (first, further) => further ++ first

/-- Goes on with the scalar behind blanks and breaks. -/
def settle (g : Gathering) : Gathering :=
  { g with text := g.between ++ g.text, blanks := [], breaks := none }

/-- Adds a character that takes up `width` characters of the line. -/
def put (g : Gathering) (c : Char) (width : Nat) : Gathering :=
  let g := g.settle
  { g with text := c :: g.text, column := g.column + width }

/-- Passes a blank. Blanks at the start of a line do not count. -/
def passBlank (g : Gathering) (c : Char) : Gathering :=
  { g with
    blanks := if g.breaks.isSome then g.blanks else c :: g.blanks
    column := g.column + 1 }

/-- Passes a break. Blanks before it do not count. -/
def passBreak (g : Gathering) (c : Char) : Gathering :=
  { g with
    blanks := []
    breaks :=
      match g.breaks with
      | none => some ([c], [])
      | some (first, further) => some (first, c :: further)
    line := g.line + 1
    column := 0 }

/-- Passes a backslash and the break behind it. -/
def passEscapedBreak (g : Gathering) : Gathering :=
  let g := g.settle
  { g with breaks := some ([], []), line := g.line + 1, column := 0 }

def result (g : Gathering) : Text := g.text.reverse

def cursor (g : Gathering) (rest : Text) : Cursor := ⟨rest, g.line, g.column⟩

end Gathering

/-! ## Plain scalars -/

def isFlowIndicator (c : Char) : Bool :=
  c == ',' || c == '[' || c == ']' || c == '{' || c == '}'

/-- Whether a plain scalar ends before a character, and the text behind it. -/
def endsPlain (inFlow : Bool) (c : Char) (t : Text) : Bool :=
  (c == ':' && isAtGap t) || (inFlow && isFlowIndicator c)

/-- Whether a colon stands where it may not be part of a plain scalar. -/
def isMisplacedColon (inFlow : Bool) (c : Char) (t : Text) : Bool :=
  inFlow && c == ':' && t.head?.any fun d => isFlowIndicator d || d == '?'

/-- Reads a plain scalar whose lines have to be indented by at least `indent`. -/
def takePlain (inFlow : Bool) (indent : Int) (g : Gathering) : Text → Option (Gathering × Text)
  | [] => some (g, [])
  | c :: t =>
    if isBlank c then
      if c == '\t' && g.breaks.isSome && g.column < indent then none
      else takePlain inFlow indent (g.passBlank c) t
    else if isBreak c then takePlain inFlow indent (g.passBreak c) t
    else if g.isBetweenParts &&
        ((!inFlow && g.column < indent) || (g.column == 0 && isAtDocumentMark (c :: t)) ||
          c == '#') then
      some (g, c :: t)
    else if isMisplacedColon inFlow c t then none
    else if endsPlain inFlow c t then some (g, c :: t)
    else takePlain inFlow indent (g.put c 1) t

/-! ## Quoted scalars -/

/-- The character that a letter after a backslash stands for. -/
def escaped? : Char → Option Char
  | '0' => some '\x00'
  | 'a' => some '\x07'
  | 'b' => some '\x08'
  | 't' => some '\t'
  | '\t' => some '\t'
  | 'n' => some '\n'
  | 'v' => some '\x0b'
  | 'f' => some '\x0c'
  | 'r' => some '\r'
  | 'e' => some '\x1b'
  | ' ' => some ' '
  | '"' => some '"'
  | '/' => some '/'
  | '\\' => some '\\'
  | 'N' => some nextLine
  | '_' => some (Char.ofNat 0xA0)
  | 'L' => some lineSeparator
  | 'P' => some paragraphSeparator
  | _ => none

/-- How many hexadecimal digits follow a letter after a backslash. -/
def digitCount? : Char → Option Nat
  | 'x' => some 2
  | 'u' => some 4
  | 'U' => some 8
  | _ => none

/-- The character with the code point that some hexadecimal digits stand for. -/
def codePoint? (digits : Text) : Option Char :=
  let n := Unicode.hexValue digits
  if digits.all (fun d => (Unicode.hexDigit? d).isSome) && (n < 0xD800 || 0xE000 ≤ n) &&
      n ≤ 0x10FFFF then
    some (Char.ofNat n)
  else none

/-- Reads up to the closing quote. A quote within single quotes is written twice; within double
quotes there are escapes. -/
def takeQuoted (double : Bool) (g : Gathering) : Text → Option (Gathering × Text)
  | [] => none
  | c :: t =>
    if isBlank c then takeQuoted double (g.passBlank c) t
    else if isBreak c then takeQuoted double (g.passBreak c) t
    else if g.column == 0 && isAtDocumentMark (c :: t) then none
    else if !double && c == '\'' then
      match t with
      | '\'' :: t => takeQuoted double (g.put '\'' 2) t
      | t => some ({ g.settle with column := g.column + 1 }, t)
    else if double && c == '"' then some ({ g.settle with column := g.column + 1 }, t)
    else if double && c == '\\' then
      match t with
      | [] => none
      | d :: t =>
        if isBreak d then takeQuoted double g.passEscapedBreak t
        else
          match digitCount? d with
          | none =>
            match escaped? d with
            | some e => takeQuoted double (g.put e 2) t
            | none => none
          | some n =>
            if t.length < n then none
            else
              match codePoint? (t.take n) with
              | some e => takeQuoted double (g.put e (n + 2)) (t.drop n)
              | none => none
    else takeQuoted double (g.put c 1) t
termination_by t => t.length
decreasing_by all_goals (simp only [List.length_cons, List.length_drop] at *; omega)

/-! ## Block scalars -/

inductive Chomping where
  | clip
  | strip
  | keep
  deriving DecidableEq, Repr

/-- What follows the bar or the angle of a block scalar: what happens with the breaks at its end,
and by how much it is indented, if that is said. -/
structure BlockHeader where
  chomping : Chomping
  indentation : Option Nat

def chomping? : Char → Option Chomping
  | '+' => some .keep
  | '-' => some .strip
  | _ => none

/-- Reads the digit of an indentation, if there is one. It must not be zero. -/
def takeIndentation (c : Cursor) : Option (Option Nat × Cursor) :=
  match c.rest.head? with
  | some d =>
    if d == '0' then none
    else if d.isDigit then some (some (d.toNat - '0'.toNat), c.skip 1)
    else some (none, c)
  | none => some (none, c)

def takeChomping (c : Cursor) : Chomping × Cursor :=
  match c.rest.head?.bind chomping? with
  | some chomping => (chomping, c.skip 1)
  | none => (.clip, c)

/-- Reads the two signs of a header in either order. -/
def takeBlockHeader (c : Cursor) : Option (BlockHeader × Cursor) :=
  if (c.rest.head?.bind chomping?).isSome then do
    let (chomping, c) := takeChomping c
    let (indentation, c) ← takeIndentation c
    return (⟨chomping, indentation⟩, c)
  else do
    let (indentation, c) ← takeIndentation c
    if indentation.isSome then
      let (chomping, c) := takeChomping c
      return (⟨chomping, indentation⟩, c)
    else return (⟨.clip, none⟩, c)

/-- The breaks of empty lines, in reverse, and the deepest indentation among them. -/
structure EmptyLines where
  breaks : Text
  deepest : Nat
  cursor : Cursor

/-- Passes indentation and empty lines. An indentation of zero stands for one that is not known
yet. A tab must not stand in the indentation. -/
def takeEmptyLines (indent : Nat) : Nat → EmptyLines → Option EmptyLines
  | 0, e => some e
  | fuel + 1, e =>
    let inIndent := indent == 0 || e.cursor.column < indent
    match e.cursor.rest.head? with
    | some c =>
      if c == ' ' && inIndent then takeEmptyLines indent fuel { e with cursor := e.cursor.skip 1 }
      else
        let e := { e with deepest := max e.deepest e.cursor.column }
        if c == '\t' && inIndent then none
        else if isBreak c then
          takeEmptyLines indent fuel
            { e with breaks := c :: e.breaks, cursor := e.cursor.skipBreak }
        else some e
    | none => some { e with deepest := max e.deepest e.cursor.column }

/-- The parts of a block scalar that was read up to some place. -/
structure BlockDraft where
  /-- The text so far, in reverse. -/
  text : Text
  /-- The break of the latest line. -/
  lineBreak : Text
  /-- The breaks of the empty lines behind it, in reverse. -/
  emptyLines : Text
  /-- Whether the latest line starts with a blank. -/
  startsBlank : Bool
  cursor : Cursor

/-- Reads the lines of a block scalar that are indented by `indent`. In a folded scalar a break
between two lines that do not start with blanks is read as a blank. -/
def takeBlockLines (folded : Bool) (indent : Nat) : Nat → BlockDraft → Option BlockDraft
  | 0, d => some d
  | fuel + 1, d =>
    match d.cursor.rest with
    | [] => some d
    | c :: _ =>
      if d.cursor.column != indent then some d
      else
        let folds := folded && d.lineBreak == ['\n'] && !d.startsBlank && !isBlank c
        let joint := if !folds then d.lineBreak else if d.emptyLines.isEmpty then [' '] else []
        let content := d.cursor.rest.takeWhile fun e => !isBreak e
        let atBreak := d.cursor.skip content.length
        let lineBreak := atBreak.rest.take 1
        let next := if lineBreak.isEmpty then atBreak else atBreak.skipBreak
        match takeEmptyLines indent (next.rest.length + 1) ⟨[], 0, next⟩ with
        | none => none
        | some e =>
          takeBlockLines folded indent fuel
            ⟨content.reverse ++ d.emptyLines ++ joint ++ d.text, lineBreak, e.breaks, isBlank c,
              e.cursor⟩

/-- Reads a block scalar behind its first sign, within a block that is indented by `outer`. -/
def takeBlockScalar (folded : Bool) (outer : Int) (c : Cursor) : Option (Text × Cursor) := do
  let (header, c) ← takeBlockHeader c
  let c := c.skipBlanks.skipComment
  let c ←
    match c.rest.head? with
    | none => some c
    | some d => if isBreak d then some c.skipBreak else none
  let given := (header.indentation.map fun n => (max outer 0 + n).toNat).getD 0
  let e ← takeEmptyLines given (c.rest.length + 1) ⟨[], 0, c⟩
  let indent := if given == 0 then max (max e.deepest (outer + 1).toNat) 1 else given
  let d ←
    takeBlockLines folded indent (e.cursor.rest.length + 1) ⟨[], [], e.breaks, false, e.cursor⟩
  let tail :=
    match header.chomping with
    | .strip => []
    | .clip => d.lineBreak
    | .keep => d.emptyLines ++ d.lineBreak
  return ((tail ++ d.text).reverse, d.cursor)

end SourceAtlas.Yaml
