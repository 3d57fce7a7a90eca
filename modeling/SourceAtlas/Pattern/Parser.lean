import SourceAtlas.Pattern.Regex

/-!
# Reading patterns

The concrete form of regular expressions: literals and escapes, bracketed sets with set
operations, groups, flags, repetitions and assertions. There is no look-around and there are no
back-references. A pattern that is not well formed has no expression; which fault it has is not
told.

In the verbose mode of the flag `x`, white space and comments between the parts of a pattern are
skipped; `blanks` is called wherever that may happen.
-/

namespace SourceAtlas.Pattern

/-- The flags in force at a place of a pattern. -/
structure Flags where
  ignoreCase : Bool
  multiLine : Bool
  dotAll : Bool
  swapGreed : Bool
  unicode : Bool
  crlf : Bool
  verbose : Bool
  deriving DecidableEq, Repr

namespace Flags

/-- The flags that a pattern starts with. -/
def initial : Flags := ⟨false, false, false, false, true, false, false⟩

/-- Turns the flag of a letter on or off. -/
def set? (flags : Flags) (letter : Char) (on : Bool) : Option Flags :=
  match letter with
  | 'i' => some { flags with ignoreCase := on }
  | 'm' => some { flags with multiLine := on }
  | 's' => some { flags with dotAll := on }
  | 'U' => some { flags with swapGreed := on }
  | 'u' => some { flags with unicode := on }
  | 'R' => some { flags with crlf := on }
  | 'x' => some { flags with verbose := on }
  | _ => none

def words (flags : Flags) : WordClass := if flags.unicode then .unicode else .ascii

/-- A set with the case of its letters ignored if the flags say so. -/
def foldIf (flags : Flags) (set : CharSet) : CharSet :=
  if flags.ignoreCase then (if flags.unicode then set.fold else set.foldAscii) else set

/-- The complement of a set. Without Unicode it would hold bytes that are no characters, and
there is none. -/
def negate? (flags : Flags) (negated : Bool) (set : CharSet) : Option CharSet :=
  if negated && !flags.unicode then none else some (set.complIf negated)

end Flags

/-! ## Blanks and numbers -/

/-- Skips white space and comments, which run from `#` to the end of the line. -/
def skipBlanks (inComment : Bool) : Text → Text
  | [] => []
  | c :: t =>
    if inComment then skipBlanks (c != '\n') t
    else if Text.isSpace c then skipBlanks false t
    else if c == '#' then skipBlanks true t
    else c :: t

theorem skipBlanks_length_le (inComment : Bool) (t : Text) :
    (skipBlanks inComment t).length ≤ t.length := by
  induction t generalizing inComment with
  | nil => simp [skipBlanks]
  | cons c t ih =>
    rw [skipBlanks]
    split
    · exact Nat.le_succ_of_le (ih _)
    · split
      · exact Nat.le_succ_of_le (ih _)
      · split
        · exact Nat.le_succ_of_le (ih _)
        · exact Nat.le_refl _

def blanks (verbose : Bool) (t : Text) : Text := if verbose then skipBlanks false t else t

theorem blanks_length_le (verbose : Bool) (t : Text) : (blanks verbose t).length ≤ t.length := by
  unfold blanks
  split
  · exact skipBlanks_length_le false t
  · exact Nat.le_refl _

/-- What stands before the next closing brace, without blanks, and what follows the brace. -/
def braced (verbose inComment : Bool) : Text → Option (Text × Text)
  | [] => none
  | c :: t =>
    if inComment then braced verbose (c != '\n') t
    else if verbose && Text.isSpace c then braced verbose false t
    else if verbose && c == '#' then braced verbose true t
    else if c == '}' then some ([], t)
    else (braced verbose false t).map fun (content, after) => (c :: content, after)

/-- Decimal digits with blanks between them, read on from the value `value`. -/
def digits (verbose : Bool) (value : Option Nat) (t : Text) : Option Nat × Text :=
  match t with
  | [] => (value, [])
  | c :: rest =>
    if c.isDigit then
      digits verbose (some (10 * value.getD 0 + (c.toNat - '0'.toNat))) (blanks verbose rest)
    else (value, c :: rest)
termination_by t.length
decreasing_by
  have := blanks_length_le verbose rest
  simp only [List.length_cons]
  omega

/-- A count of a repetition, which white space may surround. -/
def decimal? (verbose : Bool) (t : Text) : Option (Nat × Text) :=
  match digits verbose none (t.dropWhile Text.isSpace) with
  | (some n, rest) => if n < Nat.pow 2 32 then some (n, rest.dropWhile Text.isSpace) else none
  | (none, _) => none

/-- The bounds of a counted repetition, from after its opening brace. -/
def bounds? (verbose : Bool) (t : Text) : Option ((Nat × Option Nat) × Text) := do
  let (min, t) ← decimal? verbose (blanks verbose t)
  match t with
  | '}' :: t => some ((min, some min), t)
  | ',' :: t =>
    match blanks verbose t with
    | '}' :: t => some ((min, none), t)
    | t =>
      let (max, t) ← decimal? verbose t
      match t with
      | '}' :: t => if min ≤ max then some ((min, some max), t) else none
      | _ => none
  | _ => none

/-! ## Escapes -/

/-- What one element of a pattern or of a bracketed set is. -/
inductive Primitive where
  /-- A character, and whether it was written as a byte. -/
  | literal (c : Char) (isByte : Bool)
  | set (set : CharSet)
  | assertion (condition : Assertion)

/-- The character of a code point, unless it is a surrogate or too large. -/
def scalar? (n : Nat) : Option Char :=
  if n < 0xD800 || (0xE000 ≤ n && n < 0x110000) then some (Char.ofNat n) else none

/-- Exactly `count` hexadecimal digits. -/
def fixedHex? (verbose : Bool) (value : Nat) : Nat → Text → Option (Nat × Text)
  | 0, t => some (value, t)
  | _ + 1, [] => none
  | count + 1, c :: t => do
    let d ← Unicode.hexDigit? c
    fixedHex? verbose (16 * value + d) count (blanks verbose t)

/-- A code point in hexadecimal: in braces, or with `count` digits. -/
def hex? (verbose : Bool) (count : Nat) (t : Text) : Option (Primitive × Text) :=
  match blanks verbose t with
  | '{' :: t => do
    let (content, rest) ← braced verbose false t
    if content.isEmpty || !content.all fun c => (Unicode.hexDigit? c).isSome then none
    else do
      let c ← scalar? (Unicode.hexValue content)
      some (.literal c false, blanks verbose rest)
  | t => do
    let (value, rest) ← fixedHex? verbose 0 count t
    let c ← scalar? value
    some (.literal c (count == 2), rest)

/-- The property that the inside of `\p{…}` names, and whether it is the complement of it. -/
def property? (content : Text) : Option (Bool × Unicode.Property) :=
  match Text.find? ['!', '='] content with
  | some i =>
    (Unicode.valued? (content.take i) (content.drop (i + 2))).map fun p => (true, p)
  | none =>
    match (Text.find? [':'] content).or (Text.find? ['='] content) with
    | some i =>
      (Unicode.valued? (content.take i) (content.drop (i + 1))).map fun p => (false, p)
    | none => (Unicode.named? content).map fun p => (false, p)

/-- The set of a property by its name, of which 300 ranges are taken to be beyond ASCII. -/
def propertySet? (flags : Flags) (negated : Bool) (content : Text) : Option CharSet := do
  if !flags.unicode then none
  let (complement, p) ← property? content
  some ((flags.foldIf ⟨p, 300⟩).complIf (negated != complement))

def propertyEscape? (flags : Flags) (negated : Bool) (t : Text) : Option (Primitive × Text) :=
  match blanks flags.verbose t with
  | [] => none
  | '{' :: t => do
    let (content, rest) ← braced flags.verbose false t
    let set ← propertySet? flags negated content
    some (.set set, rest)
  | c :: t => do
    if c == '\\' then none
    let set ← propertySet? flags negated [c]
    some (.set set, blanks flags.verbose t)

/-- A set that one letter stands for, such as `\w`; its capital stands for the complement. -/
def letterSet? (flags : Flags) (letter : Char) : Option CharSet :=
  let (wide, narrow) :=
    match letter.toLower with
    | 'w' => (CharSet.word, CharSet.asciiWord)
    | 'd' => (CharSet.digit, CharSet.asciiDigit)
    | _ => (CharSet.space, CharSet.asciiSpace)
  flags.negate? letter.isUpper (if flags.unicode then wide else narrow)

/-- Letters and hyphens, with blanks between them. -/
def boundaryName (verbose : Bool) (t : Text) : Text × Text :=
  match t with
  | [] => ([], [])
  | c :: rest =>
    if c.isAlpha || c == '-' then
      let (name, after) := boundaryName verbose (blanks verbose rest)
      (c :: name, after)
    else ([], c :: rest)
termination_by t.length
decreasing_by
  have := blanks_length_le verbose rest
  simp only [List.length_cons]
  omega

/-- A word boundary, with a name in braces if a letter or a hyphen follows the brace; other braces
are counted repetitions. -/
def boundary? (flags : Flags) (t : Text) : Option (Primitive × Text) :=
  match t with
  | '{' :: rest =>
    match blanks flags.verbose rest with
    | [] => none
    | c :: u =>
      if c.isAlpha || c == '-' then
        match boundaryName flags.verbose (c :: u) with
        | (name, '}' :: after) =>
          match String.ofList name with
          | "start" => some (.assertion (.wordStart flags.words), after)
          | "end" => some (.assertion (.wordEnd flags.words), after)
          | "start-half" => some (.assertion (.wordStartHalf flags.words), after)
          | "end-half" => some (.assertion (.wordEndHalf flags.words), after)
          | _ => none
        | _ => none
      else some (.assertion (.wordBoundary flags.words), t)
  | _ => some (.assertion (.wordBoundary flags.words), t)

/-- ASCII characters that stand for themselves after a backslash. -/
def isEscapable (c : Char) : Bool :=
  c.toNat < 128 && !c.isAlphanum && c != '<' && c != '>'

/-- An escape, from after its backslash. -/
def escape? (flags : Flags) (t : Text) : Option (Primitive × Text) :=
  match t with
  | [] => none
  | 'x' :: t => hex? flags.verbose 2 t
  | 'u' :: t => hex? flags.verbose 4 t
  | 'U' :: t => hex? flags.verbose 8 t
  | 'p' :: t => propertyEscape? flags false t
  | 'P' :: t => propertyEscape? flags true t
  | 'a' :: t => some (.literal '\x07' false, t)
  | 'f' :: t => some (.literal '\x0c' false, t)
  | 't' :: t => some (.literal '\t' false, t)
  | 'n' :: t => some (.literal '\n' false, t)
  | 'r' :: t => some (.literal '\r' false, t)
  | 'v' :: t => some (.literal '\x0b' false, t)
  | 'A' :: t => some (.assertion .textStart, t)
  | 'z' :: t => some (.assertion .textEnd, t)
  | 'b' :: t => boundary? flags t
  | 'B' :: t => some (.assertion (.noWordBoundary flags.words), t)
  | '<' :: t => some (.assertion (.wordStart flags.words), t)
  | '>' :: t => some (.assertion (.wordEnd flags.words), t)
  | c :: t =>
    if "dswDSW".toList.contains c then (letterSet? flags c).map fun s => (.set s, t)
    else if isEscapable c then some (.literal c false, t)
    else none

/-! ## Bracketed sets -/

/-- The union of the elements read so far: their set, their number, and how deep they nest. -/
structure SetUnion where
  set : CharSet
  count : Nat
  depth : Nat

namespace SetUnion

def empty : SetUnion := ⟨.none, 0, 0⟩

def push (u : SetUnion) (set : CharSet) (depth : Nat) : SetUnion :=
  ⟨u.set.union set, u.count + 1, Nat.max u.depth depth⟩

/-- How deep the union nests as one operand. -/
def operandDepth (u : SetUnion) : Nat := if u.count < 2 then u.depth else u.depth + 1

end SetUnion

inductive SetOperation where
  | inter
  | diff
  | symmDiff

def SetOperation.apply : SetOperation → CharSet → CharSet → CharSet
  | .inter => CharSet.inter
  | .diff => CharSet.diff
  | .symmDiff => CharSet.symmDiff

/-- A left operand that waits for its right one, with its depth. -/
structure PendingOperation where
  operation : SetOperation
  left : CharSet
  depth : Nat

/-- Ends an operand: operations group to the left, and the case is ignored before each. -/
def closeOperand (flags : Flags) (pending : Option PendingOperation) (u : SetUnion) :
    CharSet × Nat :=
  match pending with
  | none => (u.set, u.operandDepth)
  | some p =>
    (p.operation.apply (flags.foldIf p.left) (flags.foldIf u.set),
      Nat.max p.depth u.operandDepth + 1)

/-- A class such as `[:alpha:]`, from after its first bracket; its set is none if it cannot be
negated. -/
def asciiClass? (flags : Flags) (t : Text) : Option (Option CharSet × Text) :=
  match t with
  | ':' :: t =>
    let negated := t.head? == some '^'
    let t := if negated then t.tail else t
    match t.dropWhile (· != ':') with
    | ':' :: ']' :: rest =>
      (CharSet.asciiNamed? (String.ofList (t.takeWhile (· != ':')))).map fun set =>
        (flags.negate? negated (flags.foldIf set), rest)
    | _ => none
  | _ => none

/-- Skips the hyphens that open a bracketed set, each of which stands for itself. -/
def leadingHyphens (verbose : Bool) (u : SetUnion) (t : Text) : SetUnion × Text :=
  match t with
  | '-' :: rest => leadingHyphens verbose (u.push (.single '-') 0) (blanks verbose rest)
  | t => (u, t)
termination_by t.length
decreasing_by
  have := blanks_length_le verbose rest
  simp only [List.length_cons]
  omega

/-- The start of a bracketed set, from after its bracket: whether it is negated, and the hyphens
or the closing bracket that stand for themselves there. -/
def classHead (verbose : Bool) (t : Text) : Bool × SetUnion × Text :=
  let t := blanks verbose t
  let negated := t.head? == some '^'
  let t := if negated then blanks verbose t.tail else t
  let (u, t) := leadingHyphens verbose .empty t
  match t with
  | ']' :: rest => if u.count == 0 then (negated, u.push (.single ']') 0, rest) else (negated, u, t)
  | t => (negated, u, t)

def classPrimitive? (flags : Flags) (t : Text) : Option (Primitive × Text) :=
  match t with
  | [] => none
  | '\\' :: t => escape? flags t
  | c :: t => some (.literal c false, t)

/-- The character of an end of a range; without Unicode it has to be ASCII. -/
def rangeEnd? (flags : Flags) : Primitive → Option Char
  | .literal c _ => if flags.unicode || c.toNat < 128 then some c else none
  | _ => none

/-- The first character after a hyphen that blanks may precede. -/
def afterHyphen (verbose : Bool) (t : Text) : Option Char :=
  if verbose then
    match t.dropWhile Text.isSpace with
    | '#' :: t => (t.dropWhile Text.isSpace).head?
    | t => t.head?
  else t.head?

/-- One element of a bracketed set, or a range of them. -/
def classRange? (flags : Flags) (t : Text) : Option (CharSet × Text) := do
  let (first, t) ← classPrimitive? flags t
  let t := blanks flags.verbose t
  let isRange :=
    match t with
    | '-' :: rest =>
      let next := afterHyphen flags.verbose rest
      next != some ']' && next != some '-'
    | _ => false
  if isRange then
    let (second, t) ← classPrimitive? flags (blanks flags.verbose t.tail)
    let lo ← rangeEnd? flags first
    let hi ← rangeEnd? flags second
    if lo ≤ hi then some (.range lo hi, t) else none
  else
    match first with
    | .literal .. => (rangeEnd? flags first).map fun c => (.single c, t)
    | .set set => some (set, t)
    | .assertion _ => none

/-- The rest of a bracketed set up to its closing bracket, before it is negated: the set, its
depth, and the text behind it. Each round takes at least one character off the text. -/
def classItems? (flags : Flags) :
    Nat → Option PendingOperation → SetUnion → Text → Option (CharSet × Nat × Text)
  | 0, _, _, _ => none
  | fuel + 1, pending, u, t =>
    let operate (operation : SetOperation) (rest : Text) :=
      let (left, depth) := closeOperand flags pending u
      classItems? flags fuel (some ⟨operation, left, depth⟩) .empty rest
    match blanks flags.verbose t with
    | [] => none
    | '[' :: rest =>
      match asciiClass? flags rest with
      | some (none, _) => none
      | some (some set, rest) => classItems? flags fuel pending (u.push set 0) rest
      | none => do
        let (negated, inner, rest) := classHead flags.verbose rest
        let (set, depth, rest) ← classItems? flags fuel none inner rest
        let set ← flags.negate? negated (flags.foldIf set)
        classItems? flags fuel pending (u.push set (depth + 1)) rest
    | ']' :: rest =>
      let (set, depth) := closeOperand flags pending u
      some (set, depth, rest)
    | '&' :: '&' :: rest => operate .inter rest
    | '-' :: '-' :: rest => operate .diff rest
    | '~' :: '~' :: rest => operate .symmDiff rest
    | t => do
      let (set, rest) ← classRange? flags t
      classItems? flags fuel pending (u.push set 0) rest

/-- A bracketed set, from after its opening bracket. -/
def class? (flags : Flags) (t : Text) : Option (CharSet × Nat × Text) := do
  let (negated, inner, rest) := classHead flags.verbose t
  let (set, depth, rest) ← classItems? flags (rest.length + 1) none inner rest
  let set ← flags.negate? negated (flags.foldIf set)
  some (set, depth + 1, rest)

/-! ## Groups -/

/-- How a group opens. -/
inductive GroupHead where
  /-- Flags for the rest of the enclosing group. -/
  | directive (flags : Flags)
  | capturing (name : Option Text)
  /-- A group that is not captured, with its flags. -/
  | plain (flags : Flags)

/-- Flags up to the character that ends them. No flag and no minus sign occurs twice, and a minus
sign is not last. -/
def flagItems? (flags : Flags) (seen : List Char) (on afterMinus : Bool) :
    Text → Option (GroupHead × Text)
  | [] => none
  | c :: t =>
    if c == ':' || c == ')' then
      if afterMinus then none
      else if c == ':' then some (.plain flags, t)
      else if seen.isEmpty then none
      else some (.directive flags, t)
    else if seen.contains c then none
    else if c == '-' then flagItems? flags (c :: seen) false true t
    else
      match flags.set? c on with
      | none => none
      | some flags => flagItems? flags (c :: seen) on false t

def isNameChar (first : Bool) (c : Char) : Bool :=
  c == '_' || Unicode.isAlphabetic c ||
    (!first && (c == '.' || c == '[' || c == ']' || Unicode.isNumeric c))

/-- The name of a group, up to its closing angle bracket. -/
def groupName? (t : Text) : Option (Text × Text) :=
  match t.takeWhile (· != '>'), t.dropWhile (· != '>') with
  | c :: name, _ :: rest =>
    if isNameChar true c && name.all (isNameChar false) then some (c :: name, rest) else none
  | _, _ => none

/-- The opening of a group, from after its parenthesis. -/
def groupHead? (flags : Flags) (t : Text) : Option (GroupHead × Text) :=
  match blanks flags.verbose t with
  | '?' :: 'P' :: '<' :: t => (groupName? t).map fun (name, t) => (.capturing (some name), t)
  | '?' :: '<' :: t =>
    if t.head? == some '=' || t.head? == some '!' then none
    else (groupName? t).map fun (name, t) => (.capturing (some name), t)
  | '?' :: t => flagItems? flags [] true false t
  | t => some (.capturing none, t)

/-! ## The whole pattern -/

/-- An expression with how deep it nests. None stands for a directive that sets flags. -/
structure Part where
  regex : Option Regex
  depth : Nat

/-- The parts of a sequence, the last one first, as one part. -/
def sequence (parts : List Part) : Part :=
  match parts with
  | [] => ⟨some .empty, 0⟩
  | [part] => ⟨some (part.regex.getD .empty), part.depth⟩
  | parts =>
    let regexes := parts.filterMap Part.regex
    let body :=
      match regexes with
      | [] => Regex.empty
      | last :: before => before.foldl (fun acc r => .seq r acc) last
    ⟨some body, (parts.map Part.depth).foldl Nat.max 0 + 1⟩

/-- The branches of an alternation, the last one first, as one part. -/
def alternation (last : Part) (before : List Part) : Part :=
  if before.isEmpty then last
  else
    ⟨some (before.foldl (fun acc p => .alt (p.regex.getD .empty) acc) (last.regex.getD .empty)),
      ((last :: before).map Part.depth).foldl Nat.max 0 + 1⟩

/-- A group that is open, with what was read before it and the flags outside of it. -/
structure OpenGroup where
  capture : Option Nat
  flags : Flags
  parts : List Part
  branches : List Part

/-- What was read of a pattern. Lists have the latest element first. -/
structure Reading where
  flags : Flags
  groups : List OpenGroup
  parts : List Part
  branches : List Part
  captures : Nat
  names : List Text

namespace Reading

def initial : Reading := ⟨.initial, [], [], [], 0, []⟩

def push (s : Reading) (regex : Regex) (depth : Nat) : Reading :=
  { s with parts := ⟨some regex, depth⟩ :: s.parts }

def close (s : Reading) : Part := alternation (sequence s.parts) s.branches

def openGroup? (s : Reading) (t : Text) : Option (Reading × Text) := do
  let (head, t) ← groupHead? s.flags t
  match head with
  | .directive flags => some ({ s with flags, parts := ⟨none, 0⟩ :: s.parts }, t)
  | .plain flags =>
    some ({ s with
      flags, groups := ⟨none, s.flags, s.parts, s.branches⟩ :: s.groups, parts := [],
      branches := [] }, t)
  | .capturing name =>
    let names := name.toList
    if names.any s.names.contains then none
    else
      some ({ s with
        groups := ⟨some (s.captures + 1), s.flags, s.parts, s.branches⟩ :: s.groups, parts := [],
        branches := [], captures := s.captures + 1, names := names ++ s.names }, t)

def closeGroup? (s : Reading) : Option Reading :=
  match s.groups with
  | [] => none
  | g :: groups =>
    let body := s.close
    let inner := body.regex.getD .empty
    let regex :=
      match g.capture with
      | some index => Regex.group index inner
      | none => inner
    some { s with
      flags := g.flags, groups, parts := ⟨some regex, body.depth + 1⟩ :: g.parts,
      branches := g.branches }

/-- Repeats the latest part. -/
def repeat? (s : Reading) (min : Nat) (max : Option Nat) (greedy : Bool) : Option Reading :=
  match s.parts with
  | ⟨some regex, depth⟩ :: parts =>
    some { s with
      parts := ⟨some (.repeated min max (greedy != s.flags.swapGreed) regex), depth + 1⟩ :: parts }
  | _ => none

end Reading

/-- Whether a repetition is greedy, and the text after its question mark if it is not. -/
def greed (t : Text) : Bool × Text :=
  match t with
  | '?' :: t => (false, t)
  | t => (true, t)

/-- The expression of a literal outside brackets. -/
def literal? (flags : Flags) (c : Char) (isByte : Bool) : Option Regex :=
  if flags.unicode then some (.char (flags.foldIf (.single c)))
  else if isByte && 128 ≤ c.toNat then none
  else some (.char (if c.toNat < 128 then flags.foldIf (.single c) else .single c))

/-- Any character but those that end lines. -/
def dot? (flags : Flags) : Option Regex :=
  if !flags.unicode then none
  else if flags.dotAll then some (.char .all)
  else if flags.crlf then some (.char ((CharSet.single '\r').union (.single '\n')).compl)
  else some (.char (CharSet.single '\n').compl)

def lineStart (flags : Flags) : Assertion :=
  if flags.multiLine then (if flags.crlf then .crlfLineStart else .lineStart) else .textStart

def lineEnd (flags : Flags) : Assertion :=
  if flags.multiLine then (if flags.crlf then .crlfLineEnd else .lineEnd) else .textEnd

/-- One element that is no group, set, repetition or bar. -/
def primitive? (flags : Flags) (t : Text) : Option (Regex × Text) :=
  match t with
  | [] => none
  | '\\' :: t => do
    let (primitive, t) ← escape? flags t
    match primitive with
    | .literal c isByte => (literal? flags c isByte).map fun r => (r, t)
    | .set set => some (.char set, t)
    | .assertion condition => some (.assert condition, t)
  | '.' :: t => (dot? flags).map fun r => (r, t)
  | '^' :: t => some (.assert (lineStart flags), t)
  | '$' :: t => some (.assert (lineEnd flags), t)
  | c :: t => (literal? flags c false).map fun r => (r, t)

/-- Reads one element of a pattern. -/
def element? (s : Reading) (t : Text) : Option (Reading × Text) :=
  match t with
  | [] => some (s, [])
  | '(' :: t => s.openGroup? t
  | ')' :: t => s.closeGroup?.map fun s => (s, t)
  | '|' :: t => some ({ s with parts := [], branches := sequence s.parts :: s.branches }, t)
  | '[' :: t => do
    let (set, depth, t) ← class? s.flags t
    some (s.push (.char set) depth, t)
  | '?' :: t => let (greedy, t) := greed t; (s.repeat? 0 (some 1) greedy).map fun s => (s, t)
  | '*' :: t => let (greedy, t) := greed t; (s.repeat? 0 none greedy).map fun s => (s, t)
  | '+' :: t => let (greedy, t) := greed t; (s.repeat? 1 none greedy).map fun s => (s, t)
  | '{' :: t => do
    let ((min, max), t) ← bounds? s.flags.verbose t
    let (greedy, t) := greed (blanks s.flags.verbose t)
    (s.repeat? min max greedy).map fun s => (s, t)
  | t => (primitive? s.flags t).map fun (regex, t) => (s.push regex 0, t)

/-- Reads elements to the end; each takes at least one character off the text. -/
def elements? : Nat → Reading → Text → Option Reading
  | 0, _, _ => none
  | fuel + 1, s, t =>
    match blanks s.flags.verbose t with
    | [] => some s
    | t => do
      let (s, t) ← element? s t
      elements? fuel s t

/-- How deep the parts of a pattern may nest. -/
def depthLimit : Nat := 250

/-- The expression of a pattern, and the number of its groups that capture. -/
def regex? (pattern : Text) : Option (Regex × Nat) := do
  let s ← elements? (pattern.length + 1) .initial pattern
  if !s.groups.isEmpty then none
  let whole := s.close
  if depthLimit < whole.depth then none
  some (whole.regex.getD .empty, s.captures)

end SourceAtlas.Pattern
