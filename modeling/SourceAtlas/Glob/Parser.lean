import SourceAtlas.Glob.Basic

/-!
# Reading globs
-/

namespace SourceAtlas.Glob

/-- Why a text is no glob. -/
inductive Fault where
  | unclosedBracket
  | invalidRange (low high : Char)
  | unclosedBrace
  | unopenedBrace
  | danglingEscape
  deriving DecidableEq, Repr

def Fault.message : Fault → Text
  | unclosedBracket => "unclosed character class; missing ']'".toList
  | invalidRange low high =>
    "invalid range; '".toList ++ low :: "' > '".toList ++ high :: "'".toList
  | unclosedBrace =>
    "unclosed alternate group; missing '\x7d' (maybe escape '\x7b' with '[\x7b]'?)".toList
  | unopenedBrace =>
    "unopened alternate group; missing '\x7b' (maybe escape '\x7d' with '[\x7d]'?)".toList
  | danglingEscape => "dangling '\\'".toList

/-- A text that is no glob, with the reason. -/
structure Error where
  glob : Text
  fault : Fault
  deriving DecidableEq, Repr

def Error.message (e : Error) : Text :=
  "error parsing glob '".toList ++ e.glob ++ "': ".toList ++ e.fault.message

/-! ## Brackets -/

/-- Adds a character to ranges that are gathered in reverse: as the end of the latest one if that
is open, or as a range of its own. -/
def addToSet (open_ : Bool) (c : Char) : List (Char × Char) → Except Fault (List (Char × Char))
  | (low, high) :: ranges =>
    if !open_ then .ok ((c, c) :: (low, high) :: ranges)
    else if c < low then .error (.invalidRange low c)
    else .ok ((low, c) :: ranges)
  | [] => .ok [(c, c)]

/-- Reads up to the bracket that closes a set. A bracket or a dash that comes first stands for
itself, and so does a dash that comes last. -/
def takeSet (first open_ : Bool) (ranges : List (Char × Char)) :
    Text → Except Fault (List (Char × Char) × Text)
  | [] => .error .unclosedBracket
  | c :: t =>
    if c == ']' && !first then
      .ok ((if open_ then ('-', '-') :: ranges else ranges).reverse, t)
    else if c == '-' && !first && !open_ then takeSet false true ranges t
    else
      match addToSet open_ c ranges with
      | .ok ranges => takeSet false false ranges t
      | .error fault => .error fault

theorem takeSet_length {first open_ : Bool} {ranges : List (Char × Char)} {t : Text}
    {found : List (Char × Char) × Text} (h : takeSet first open_ ranges t = .ok found) :
    found.2.length < t.length := by
  induction t generalizing first open_ ranges with
  | nil => simp [takeSet] at h
  | cons c t ih =>
    unfold takeSet at h
    simp only [List.length_cons]
    split at h
    · cases h
      simp
    · split at h
      · exact Nat.lt_succ_of_lt (ih h)
      · split at h
        · exact Nat.lt_succ_of_lt (ih h)
        · cases h

/-- The set behind an opening bracket, and the text behind it. -/
def takeBrackets : Text → Except Fault (Token × Text)
  | [] => .error .unclosedBracket
  | c :: t =>
    let negated := c == '!' || c == '^'
    match takeSet true false [] (if negated then t else c :: t) with
    | .ok (ranges, rest) => .ok (.oneOf negated ranges, rest)
    | .error fault => .error fault

theorem takeBrackets_length {t rest : Text} {token : Token}
    (h : takeBrackets t = .ok (token, rest)) : rest.length < t.length := by
  cases t with
  | nil => simp [takeBrackets] at h
  | cons c t =>
    rw [takeBrackets] at h
    split at h
    · rename_i found
      cases h
      have := takeSet_length found
      split at this <;> simp only [List.length_cons] at this ⊢ <;> omega
    · cases h

/-! ## Groups -/

/-- A glob that is being read. Tokens and branches are gathered in reverse. -/
structure Draft where
  /-- The tokens of the branch at hand. -/
  tokens : List Token
  /-- The earlier branches of the group at hand. -/
  branches : List (List Token)
  /-- The branches around the open groups, each with the earlier branches of its own group. -/
  around : List (List Token × List (List Token))

namespace Draft

def empty : Draft := ⟨[], [], []⟩

def push (d : Draft) (token : Token) : Draft := { d with tokens := token :: d.tokens }

def isInGroup (d : Draft) : Bool := !d.around.isEmpty

def openGroup (d : Draft) : Draft := ⟨[], [], (d.tokens, d.branches) :: d.around⟩

def nextBranch (d : Draft) : Draft := ⟨[], d.tokens.reverse :: d.branches, d.around⟩

def closeGroup (d : Draft) : Except Fault Draft :=
  match d.around with
  | [] => .error .unopenedBrace
  | (tokens, branches) :: around =>
    let group := (d.tokens.reverse :: d.branches).reverse
    .ok ⟨.alternatives group :: tokens, branches, around⟩

/-- A comma starts the next branch of a group; elsewhere it stands for itself. -/
def comma (d : Draft) : Draft := if d.isInGroup then d.nextBranch else d.push (.literal ',')

/-- Two stars that stand for no components. -/
def twoStars (d : Draft) : Draft := (d.push .zeroOrMore).push .zeroOrMore

/-- Puts components in the place of the slash before them. -/
def pushComponents (d : Draft) (token : Token) : Draft :=
  match d.tokens with
  | .leadingComponents :: _ | .trailingComponents :: _ => d
  | tokens => { d with tokens := token :: tokens.tail }

/-- Two stars between the character `previous` and the text that follows. Returned too is whether
a slash behind them is taken. -/
def doubleStar (d : Draft) (previous : Option Char) (following : Text) : Draft × Bool :=
  let next := following.head?
  if d.tokens.isEmpty then
    if next.all (· == '/') then (d.push .leadingComponents, next.isSome) else (d.twoStars, false)
  else
    let starts := previous == some '/' ||
      (d.isInGroup && (previous == some ',' || previous == some '{'))
    if !starts then (d.twoStars, false)
    else
      match next with
      | none => (d.pushComponents .trailingComponents, false)
      | some '/' => (d.pushComponents .innerComponents, true)
      | some c =>
        if d.isInGroup && (c == ',' || c == '}') then (d.pushComponents .trailingComponents, false)
        else (d.twoStars, false)

end Draft

/-! ## Globs -/

/-- Reads the rest of a glob behind the character `previous`. -/
def readFrom (previous : Option Char) (d : Draft) : Text → Except Fault (List Token)
  | [] => if d.isInGroup then .error .unclosedBrace else .ok d.tokens.reverse
  | '?' :: t => readFrom (some '?') (d.push .any) t
  | '*' :: '*' :: t =>
    let (after, slashTaken) := d.doubleStar previous t
    if slashTaken then readFrom (some '/') after t.tail else readFrom (some '*') after t
  | '*' :: t => readFrom (some '*') (d.push .zeroOrMore) t
  | '[' :: t =>
    match h : takeBrackets t with
    | .error fault => .error fault
    | .ok (token, rest) =>
      have := takeBrackets_length h
      readFrom (some ']') (d.push token) rest
  | '{' :: t => readFrom (some '{') d.openGroup t
  | '}' :: t =>
    match d.closeGroup with
    | .error fault => .error fault
    | .ok d => readFrom (some '}') d t
  | ',' :: t => readFrom (some ',') d.comma t
  | ['\\'] => .error .danglingEscape
  | '\\' :: c :: t => readFrom (some c) (d.push (.literal c)) t
  | c :: t => readFrom (some c) (d.push (.literal c)) t
termination_by t => t.length
decreasing_by all_goals (simp only [List.length_cons, List.length_tail] at *; omega)

/-- The glob that a text stands for. -/
def parse (t : Text) : Except Error Glob :=
  match readFrom none .empty t with
  | .ok tokens => .ok ⟨tokens⟩
  | .error fault => .error ⟨t, fault⟩

end SourceAtlas.Glob
