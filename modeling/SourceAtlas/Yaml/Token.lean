import SourceAtlas.Yaml.Scalar

/-!
# YAML tokens

Cuts a text into tokens. Indentation is turned into tokens that open and close blocks, and a colon
turns what stands before it into a key, so the tokens of a key are put in front of tokens that
were found earlier.
-/

namespace SourceAtlas.Yaml

inductive Token where
  | version (major minor : Nat)
  | documentStart
  | documentEnd
  | blockSequenceStart
  | blockMappingStart
  | blockEnd
  | flowSequenceStart
  | flowSequenceEnd
  | flowMappingStart
  | flowMappingEnd
  | blockEntry
  | flowEntry
  | key
  | value
  | alias (name : Text)
  | anchor (name : Text)
  | tag (handle suffix : Text)
  | scalar (isPlain : Bool) (text : Text)
  deriving DecidableEq, Repr

/-- What may turn out to be a key: the number of its first token and the place where it starts. A
required one has to. -/
structure KeyCandidate where
  isRequired : Bool
  number : Nat
  line : Nat
  column : Nat
  deriving DecidableEq, Repr

structure Scanner where
  cursor : Cursor
  /-- The tokens so far, in reverse. -/
  tokens : List Token
  /-- The indentation of the block at hand; it is negative outside of all blocks. -/
  indent : Int
  /-- The indentations of the blocks around it. -/
  indents : List Int
  keyAllowed : Bool
  /-- The candidate outside of all brackets or within the innermost ones. -/
  candidate : Option KeyCandidate
  /-- The candidates around the open brackets. -/
  candidates : List (Option KeyCandidate)

namespace Scanner

def start (t : Text) : Scanner := ⟨.start t, [], -1, [], true, none, []⟩

def inFlow (s : Scanner) : Bool := !s.candidates.isEmpty

def push (s : Scanner) (token : Token) : Scanner := { s with tokens := token :: s.tokens }

/-- Adds a token for some characters at the cursor. -/
def pushAt (s : Scanner) (width : Nat) (token : Token) : Scanner :=
  { s.push token with cursor := s.cursor.skip width }

/-- Puts a token in front of the one with a number. -/
def insert (s : Scanner) (number : Nat) (token : Token) : Scanner :=
  let later := s.tokens.length - number
  { s with tokens := s.tokens.take later ++ token :: s.tokens.drop later }

/-! ## Indentation -/

/-- Closes the blocks that are indented by more than a column. -/
def closeBlocks (column : Int) : List Int → Scanner → Scanner
  | [], s => s
  | outer :: indents, s =>
    if column < s.indent then
      closeBlocks column indents { s.push .blockEnd with indent := outer, indents }
    else s

def unroll (s : Scanner) (column : Int) : Scanner :=
  if s.inFlow then s else closeBlocks column s.indents s

/-- Opens a block at a column that is deeper than the block at hand, in front of the token with a
number. -/
def roll (s : Scanner) (column number : Nat) (token : Token) : Scanner :=
  if !s.inFlow && s.indent < column then
    { s.insert number token with indent := column, indents := s.indent :: s.indents }
  else s

def rollHere (s : Scanner) (token : Token) : Scanner :=
  s.roll s.cursor.column s.tokens.length token

/-! ## Keys -/

/-- How long a key may be. -/
def keyLimit : Nat := 1024

def isStale (c : Cursor) (k : KeyCandidate) : Bool :=
  k.line < c.line || k.column + keyLimit < c.column

/-- Drops a candidate that can no longer be a key. A required one must not be dropped. -/
def refresh (c : Cursor) (k : Option KeyCandidate) : Option (Option KeyCandidate) :=
  match k with
  | some k => if isStale c k then (if k.isRequired then none else some none) else some (some k)
  | none => some none

def refreshCandidates (s : Scanner) : Option Scanner := do
  let candidate ← refresh s.cursor s.candidate
  let candidates ← s.candidates.mapM (refresh s.cursor)
  return { s with candidate, candidates }

/-- Gives up the candidate at hand. -/
def dropCandidate (s : Scanner) : Option Scanner :=
  if s.candidate.any KeyCandidate.isRequired then none else some { s with candidate := none }

/-- Notes that a key may start at the cursor. It is required where a block goes on. -/
def saveCandidate (s : Scanner) : Option Scanner :=
  if s.keyAllowed then do
    let s ← s.dropCandidate
    let isRequired := !s.inFlow && s.indent == s.cursor.column
    return { s with
      candidate := some ⟨isRequired, s.tokens.length, s.cursor.line, s.cursor.column⟩ }
  else some s

/-! ## Indicators -/

def openFlow (s : Scanner) (token : Token) : Option Scanner := do
  let s ← s.saveCandidate
  return { s.pushAt 1 token with
    candidates := s.candidate :: s.candidates
    candidate := none
    keyAllowed := true }

def closeFlow (s : Scanner) (token : Token) : Option Scanner := do
  let s ← s.dropCandidate
  let s := { s.pushAt 1 token with keyAllowed := false }
  match s.candidates with
  | [] => return s
  | candidate :: candidates => return { s with candidate, candidates }

def flowEntry (s : Scanner) : Option Scanner := do
  let s ← s.dropCandidate
  return { s.pushAt 1 .flowEntry with keyAllowed := true }

def blockEntry (s : Scanner) : Option Scanner := do
  if !s.inFlow && !s.keyAllowed then none
  let s ← (s.rollHere .blockSequenceStart).dropCandidate
  return { s.pushAt 1 .blockEntry with keyAllowed := true }

def explicitKey (s : Scanner) : Option Scanner := do
  if !s.inFlow && !s.keyAllowed then none
  let s ← (s.rollHere .blockMappingStart).dropCandidate
  return { s.pushAt 1 .key with keyAllowed := !s.inFlow }

/-- A colon. It makes the candidate at hand a key, or follows a key that was marked as one. -/
def value (s : Scanner) : Option Scanner :=
  match s.candidate with
  | some k =>
    let s := (s.insert k.number .key).roll k.column k.number .blockMappingStart
    some { s.pushAt 1 .value with candidate := none, keyAllowed := false }
  | none => do
    if !s.inFlow && !s.keyAllowed then none
    let s := s.rollHere .blockMappingStart
    return { s.pushAt 1 .value with keyAllowed := !s.inFlow }

/-- The mark of the start or the end of a document. -/
def documentMark (s : Scanner) (token : Token) : Option Scanner := do
  let s ← (s.unroll (-1)).dropCandidate
  return { s.pushAt 3 token with keyAllowed := false }

/-! ## Names and tags -/

def isNameChar (c : Char) : Bool := c.isAlphanum || c == '_' || c == '-'

/-- Reads the name of an anchor or an alias behind its sign. -/
def named (s : Scanner) (token : Text → Token) : Option Scanner := do
  let s ← s.saveCandidate
  let c := s.cursor.skip 1
  let name := c.rest.takeWhile isNameChar
  let c := c.skip name.length
  let closes := isAtGap c.rest || c.rest.head?.any fun d => "?:,]\x7d%@`".toList.any (· == d)
  if name.isEmpty || !closes then none
  return { s.push (token name) with cursor := c, keyAllowed := false }

def isUriChar (c : Char) : Bool := isNameChar c || ";/?:@&=+$.!~*'()".toList.any (· == c)

/-- The characters of a tag, with escapes of bytes as they are written. -/
def takeUri (isVerbatim : Bool) : Text → Option (Text × Text)
  | [] => some ([], [])
  | '%' :: a :: b :: t =>
    if (Unicode.hexDigit? a).isSome && (Unicode.hexDigit? b).isSome then
      (takeUri isVerbatim t).map fun (uri, rest) => ('%' :: a :: b :: uri, rest)
    else none
  | c :: t =>
    if isUriChar c || (isVerbatim && (c == ',' || c == '[' || c == ']')) then
      (takeUri isVerbatim t).map fun (uri, rest) => (c :: uri, rest)
    else if c == '%' then none
    else some ([], c :: t)

/-- Reads a tag behind its exclamation mark: its handle and the rest of it. -/
def takeTag (t : Text) : Option (Text × Text × Text) :=
  match t with
  | '<' :: t => do
    let (uri, rest) ← takeUri true t
    if uri.isEmpty then none
    match rest with
    | '>' :: rest => return ([], uri, rest)
    | _ => none
  | t => do
    let name := t.takeWhile isNameChar
    match t.drop name.length with
    | '!' :: rest =>
      let (suffix, rest) ← takeUri false rest
      if suffix.isEmpty then none
      return ('!' :: name ++ ['!'], suffix, rest)
    | _ =>
      let (suffix, rest) ← takeUri false t
      return (['!'], suffix, rest)

def tag (s : Scanner) : Option Scanner := do
  let s ← s.saveCandidate
  let c := s.cursor.skip 1
  let (handle, suffix, rest) ← takeTag c.rest
  if !(isAtGap rest || (s.inFlow && rest.head? == some ',')) then none
  return { s.push (.tag handle suffix) with
    cursor := c.skip (c.rest.length - rest.length)
    keyAllowed := false }

/-! ## Directives -/

/-- The number at the start of a text; it has at most nine digits. -/
def takeVersionNumber (t : Text) : Option (Nat × Text) :=
  let digits := t.takeWhile Char.isDigit
  if digits.isEmpty || 9 < digits.length then none
  else some (digits.foldl (fun n d => 10 * n + (d.toNat - '0'.toNat)) 0, t.drop digits.length)

/-- A line with the version of the language. There are no other directives. -/
def directive (s : Scanner) : Option Scanner := do
  let s ← (s.unroll (-1)).dropCandidate
  let name := (s.cursor.rest.drop 1).takeWhile isNameChar
  if name != "YAML".toList then none
  let c := s.cursor.skip (1 + name.length)
  if !isAtGap c.rest then none
  let c := c.skipBlanks
  let (major, rest) ← takeVersionNumber c.rest
  let '.' :: rest := rest | none
  let (minor, rest) ← takeVersionNumber rest
  let c := c.skip (c.rest.length - rest.length)
  let c := c.skipBlanks.skipComment
  let c ←
    match c.rest.head? with
    | none => some c
    | some d => if isBreak d then some c.skipBreak else none
  return { s.push (.version major minor) with cursor := c, keyAllowed := false }

/-! ## Scalars -/

def blockScalar (s : Scanner) (folded : Bool) : Option Scanner := do
  let s ← s.dropCandidate
  let (text, cursor) ← takeBlockScalar folded s.indent (s.cursor.skip 1)
  return { s.push (.scalar false text) with cursor, keyAllowed := true }

def quoted (s : Scanner) (double : Bool) : Option Scanner := do
  let s ← s.saveCandidate
  let c := s.cursor.skip 1
  let (g, rest) ← takeQuoted double (.start c) c.rest
  return { s.push (.scalar false g.result) with cursor := g.cursor rest, keyAllowed := false }

/-- A plain scalar. If it ends behind a line break, a key may follow. -/
def plain (s : Scanner) : Option Scanner := do
  let s ← s.saveCandidate
  let (g, rest) ← takePlain s.inFlow (s.indent + 1) (.start s.cursor) s.cursor.rest
  return { s.push (.scalar true g.result) with
    cursor := g.cursor rest
    keyAllowed := g.breaks.isSome }

/-- Whether a plain scalar may start with a character in front of a text. -/
def startsPlain (inFlow : Bool) (c : Char) (t : Text) : Bool :=
  !"-?:,[]\x7b\x7d#&*!|>'\"%@`".toList.any (· == c) && !isBlank c && !isBreak c ||
    (c == '-' && !t.head?.any isBlank) ||
    (!inFlow && (c == '?' || c == ':') && !isAtGap t)

/-! ## All tokens -/

/-- Reads the token at the cursor, which stands at the character `c` in front of `t`. -/
def fetch (s : Scanner) (c : Char) (t : Text) : Option Scanner :=
  let atStart := s.cursor.column == 0
  if atStart && c == '%' then s.directive
  else if atStart && c == '-' && isAtDocumentMark (c :: t) then s.documentMark .documentStart
  else if atStart && c == '.' && isAtDocumentMark (c :: t) then s.documentMark .documentEnd
  else if c == '[' then s.openFlow .flowSequenceStart
  else if c == '{' then s.openFlow .flowMappingStart
  else if c == ']' then s.closeFlow .flowSequenceEnd
  else if c == '}' then s.closeFlow .flowMappingEnd
  else if c == ',' then s.flowEntry
  else if c == '-' && isAtGap t then s.blockEntry
  else if c == '?' && (s.inFlow || isAtGap t) then s.explicitKey
  else if c == ':' && (s.inFlow || isAtGap t) then s.value
  else if c == '*' then s.named .alias
  else if c == '&' then s.named .anchor
  else if c == '!' then s.tag
  else if c == '|' && !s.inFlow then s.blockScalar false
  else if c == '>' && !s.inFlow then s.blockScalar true
  else if c == '\'' then s.quoted false
  else if c == '"' then s.quoted true
  else if startsPlain s.inFlow c t then s.plain
  else none

/-- Reads all tokens. Each of them takes a character, so the length of the text is fuel enough. -/
def run : Nat → Scanner → Option (List Token)
  | 0, _ => none
  | fuel + 1, s => do
    let (cursor, keyAllowed) :=
      s.cursor.toNextToken s.inFlow (s.cursor.rest.length + 1) s.keyAllowed
    let s ← { s with cursor, keyAllowed }.refreshCandidates
    let s := s.unroll s.cursor.column
    match s.cursor.rest with
    | [] =>
      let s ← (s.unroll (-1)).dropCandidate
      return s.tokens.reverse
    | c :: t => run fuel (← s.fetch c t)

end Scanner

def byteOrderMark : Char := Char.ofNat 0xFEFF

/-- The tokens of a text. A byte order mark at its start takes up a column. -/
def tokens? (t : Text) : Option (List Token) :=
  if t.all isAllowed then
    let t := unifyBreaks t
    let s := Scanner.start t
    let s := if t.head? == some byteOrderMark then { s with cursor := s.cursor.skip 1 } else s
    Scanner.run (t.length + 1) s
  else none

end SourceAtlas.Yaml
