import SourceAtlas.Notice
import SourceAtlas.Pattern.Language
import SourceAtlas.Rule.Basic
import SourceAtlas.Text.Integer
import SourceAtlas.Text.Quoted

/-!
# Reading rule files

A rule file is read line by line. Between rules a line lists comment or literal marks, opens a
section, or starts a rule; inside a rule it holds statements. A rule is kept if it stands in a
section, has a name, and has either a pattern or a value; otherwise it is dropped with a notice.
Any other text is a fault, and so is a pattern that the pattern language does not accept.
-/

namespace SourceAtlas.RuleFile

/-! ## Faults -/

/-- What is wrong in a line. -/
inductive Malformation where
  | unexpectedText (text : Text)
  | textAfterRule (text : Text)
  | noBrackets (line : Text)
  | unbalancedBrackets (line : Text)
  | commentWithoutStart (group : Text)
  | emptyLiteral (group : Text)
  | unquotedValue (text : Text)
  | unterminatedQuote (text : Text)
  | emptyValue (rule : Text)
  | emptyCondition (rule : Text)
  | invalidTotal (number : Text) (fault : Text.IntegerFault)
  | unknownStatement (text rule : Text)
  deriving DecidableEq, Repr

def Malformation.message : Malformation → Text
  | unexpectedText t => "unexpected text ".toList ++ t.quote
  | textAfterRule t => "unexpected text after rule end ".toList ++ t.quote
  | noBrackets l => "expected a bracketed list in ".toList ++ l.quote
  | unbalancedBrackets l => "unbalanced brackets in ".toList ++ l.quote
  | commentWithoutStart g => "comment without a start delimiter: [".toList ++ g ++ [']']
  | emptyLiteral g => "empty text delimiter: [".toList ++ g ++ [']']
  | unquotedValue t => "expected a quoted value, found ".toList ++ t.quote
  | unterminatedQuote t => "unterminated quoted value ".toList ++ t.quote
  | emptyValue r => "empty value in rule ".toList ++ r.quote
  | emptyCondition r => "empty condition in rule ".toList ++ r.quote
  | invalidTotal n f => "invalid total_number ".toList ++ n.quote ++ ": ".toList ++ f.message
  | unknownStatement t r =>
    "unknown statement ".toList ++ t.quote ++ " in rule ".toList ++ r.quote

/-- What is wrong in a rule file, apart from where. -/
inductive Fault where
  | malformed (cause : Malformation)
  | invalidPattern (rule : Text) (fault : Pattern.Fault)
  deriving DecidableEq, Repr

def Fault.message : Fault → Text
  | malformed cause => cause.message
  | invalidPattern rule fault =>
    "invalid pattern in rule ".toList ++ rule.quote ++ ": ".toList ++ fault.message

/-- A fault and the line it is in, counted from one. -/
structure Error where
  line : Nat
  fault : Fault
  deriving DecidableEq, Repr

def Error.message (e : Error) : Text :=
  "line ".toList ++ Text.ofNat e.line ++ ": ".toList ++ e.fault.message

/-! ## Marks -/

/-- What follows `, [` with white space around the comma. -/
def groupStart? (t : Text) : Option Text :=
  match Text.trimStart t with
  | ',' :: t =>
    match Text.trimStart t with
    | '[' :: t => some t
    | _ => none
  | _ => none

theorem groupStart?_length {t rest : Text} (h : groupStart? t = some rest) :
    rest.length < t.length := by
  unfold groupStart? at h
  split at h
  · rename_i u hu
    have h₁ := Text.trimStart_length_le t
    split at h
    · rename_i v hv
      have h₂ := Text.trimStart_length_le u
      simp only [hu, List.length_cons] at h₁
      simp only [hv, List.length_cons, Option.some.injEq] at h₂ h
      subst h
      omega
    · cases h
  · cases h

/-- Cuts a list of bracketed groups at `], [`. -/
def splitGroups (t : Text) : List Text :=
  match t with
  | [] => [[]]
  | c :: t =>
    match h : groupStart? t, decide (c = ']') with
    | some rest, true =>
      have : rest.length < t.length := groupStart?_length h
      [] :: splitGroups rest
    | _, _ =>
      match splitGroups t with
      | [] => [[c]]
      | g :: gs => (c :: g) :: gs
termination_by t.length
decreasing_by all_goals simp only [List.length_cons]; omega

/-- The groups of `[[…], […]]`: what stands between the first opening and the last closing
bracket of a line, without one more bracket on each side. -/
def groups (line : Text) : Except Malformation (List Text) :=
  match line.findIdx? (· == '[') with
  | none => .error (.noBrackets line)
  | some first =>
    let last := (Text.findLast? ']' line).getD line.length
    if last ≤ first then .error (.unbalancedBrackets line)
    else
      let inner := Text.trim ((line.take last).drop (first + 1))
      let inner := if inner.head? = some '[' then inner.tail else inner
      let inner := Text.dropSuffixChar ']' inner
      if (Text.trim inner).isEmpty then .ok [] else .ok (splitGroups inner)

/-- The start and the end of a comment, with a comma between them. -/
def commentMark (group : Text) : Except Malformation CommentMark :=
  let start := Text.trim (group.takeWhile (· != ','))
  let stop := Text.trim ((group.dropWhile (· != ',')).drop 1)
  if start.isEmpty then .error (.commentWithoutStart group) else .ok ⟨start, stop⟩

/-- The start, the exceptions and the end of a literal, with commas between them. A lone start is
its own end. -/
def literalMark (group : Text) : Except Malformation LiteralMark :=
  match ((Text.cutAt (· == ',') group).map Text.trim).filter (!·.isEmpty) with
  | [] => .error (.emptyLiteral group)
  | [start] => .ok ⟨start, start, []⟩
  | start :: second :: others =>
    let rest := second :: others
    .ok ⟨start, rest.getLast (by simp [rest]), rest.dropLast⟩

/-! ## Statements -/

/-- A rule that is being read. -/
structure Draft where
  name : Text
  line : Nat
  pattern : Option Text
  value : Option Text
  conditions : List Text
  total : Option Int
  hidden : Bool
  debug : Bool
  deriving DecidableEq, Repr

def Draft.start (name : Text) (line : Nat) : Draft :=
  ⟨name, line, none, none, [], none, false, false⟩

/-- The finished rule, or the notice that it is dropped. -/
def Draft.finish (draft : Draft) (current : Option RuleKind) : Except Notice Rule :=
  match current with
  | none => .error (.ruleOutsideSection draft.name draft.line)
  | some kind =>
    if draft.name.isEmpty then .error (.unnamedRule draft.line)
    else
      let build (body : RuleBody) : Rule :=
        ⟨draft.name, kind, body, draft.conditions, draft.total, draft.hidden, draft.debug⟩
      match draft.pattern, draft.value with
      | some p, none => .ok (build (.pattern p))
      | none, some v => .ok (build (.constant (.parse v)))
      | _, _ => .error (.rulePatternOrValue draft.name draft.line)

/-- Whether a statement ends here: at the end of the line, a semicolon or a closing brace, after
white space. -/
def atTerminator (t : Text) : Bool :=
  match Text.trimStart t with
  | [] => true
  | c :: _ => c = ';' || c = '}'

/-- The text up to the first double quote behind which a statement ends, and what follows it. -/
def closeQuote? : Text → Option (Text × Text)
  | [] => none
  | c :: t =>
    if c = '"' && atTerminator t then some ([], t)
    else (closeQuote? t).map fun (quoted, rest) => (c :: quoted, rest)

/-- A value in double quotes. -/
def takeQuoted (t : Text) : Except Malformation (Text × Text) :=
  match t with
  | '"' :: body =>
    match closeQuote? body with
    | some found => .ok found
    | none => .error (.unterminatedQuote t)
  | _ => .error (.unquotedValue t)

/-- The text up to the first semicolon or closing brace outside double quotes, and the rest from
there on. -/
def untilTerminator (quoted : Bool) : Text → Text × Text
  | [] => ([], [])
  | c :: t =>
    if (c = ';' || c = '}') && !quoted then ([], c :: t)
    else
      let (before, rest) := untilTerminator (if c = '"' then !quoted else quoted) t
      (c :: before, rest)

/-- Skips white space and one semicolon. -/
def skipTerminator (t : Text) : Text :=
  match Text.trimStart t with
  | ';' :: rest => rest
  | rest => rest

/-- What follows a keyword that stands alone. -/
def afterKeyword? (keyword t : Text) : Option Text :=
  match Text.after? keyword t with
  | some [] => some []
  | some (c :: rest) => if Text.isSpace c || c = ';' || c = '}' then some (c :: rest) else none
  | none => none

def patternStatement (language : Pattern.Language) (draft : Draft) (t : Text) :
    Except Fault (Draft × Text) := do
  let (pattern, rest) ← (takeQuoted (Text.trimStart t)).mapError .malformed
  let _ ← (language pattern).mapError (.invalidPattern draft.name)
  .ok ({ draft with pattern := some pattern }, skipTerminator rest)

/-- A value keeps its quotes, so that it can be told from other texts. -/
def valueStatement (draft : Draft) (t : Text) : Except Malformation (Draft × Text) := do
  let t := Text.trimStart t
  let (value, rest) ←
    if t.head? = some '"' then do
      let (inner, rest) ← takeQuoted t
      .ok ('"' :: inner ++ ['"'], rest)
    else
      let (value, rest) := untilTerminator false t
      .ok (Text.trim value, rest)
  if value.isEmpty then .error (.emptyValue draft.name)
  else .ok ({ draft with value := some value }, skipTerminator rest)

def conditionStatement (draft : Draft) (t : Text) : Except Malformation (Draft × Text) :=
  let (condition, rest) := untilTerminator false t
  let condition := Text.trim condition
  if condition.isEmpty then .error (.emptyCondition draft.name)
  else .ok ({ draft with conditions := draft.conditions ++ [condition] }, skipTerminator rest)

def totalStatement (draft : Draft) (t : Text) : Except Malformation (Draft × Text) :=
  let (number, rest) := untilTerminator false t
  let number := Text.trim number
  match Text.parseInt64 number with
  | .ok n => .ok ({ draft with total := some n }, skipTerminator rest)
  | .error fault => .error (.invalidTotal number fault)

/-- Reads one statement of a rule, and returns the text behind it. -/
def statement (language : Pattern.Language) (draft : Draft) (t : Text) :
    Except Fault (Draft × Text) :=
  match Text.after? "pattern:".toList t with
  | some rest => patternStatement language draft rest
  | none =>
  match Text.after? "value:".toList t with
  | some rest => (valueStatement draft rest).mapError .malformed
  | none =>
  match Text.after? "condition:".toList t with
  | some rest => (conditionStatement draft rest).mapError .malformed
  | none =>
  match Text.after? "total_number:".toList t with
  | some rest => (totalStatement draft rest).mapError .malformed
  | none =>
  match afterKeyword? "hidden".toList t with
  | some rest => .ok ({ draft with hidden := true }, skipTerminator rest)
  | none =>
  match afterKeyword? "DEBUG".toList t with
  | some rest => .ok ({ draft with debug := true }, skipTerminator rest)
  | none => .error (.malformed (.unknownStatement t draft.name))

/-! ### A statement takes characters off the text -/

theorem mapError_eq_ok {α ε ε' : Type} {f : ε → ε'} {x : Except ε α} {a : α}
    (h : x.mapError f = .ok a) : x = .ok a := by
  cases x with
  | error e => cases h
  | ok b =>
    cases h
    rfl

theorem bind_eq_ok {α β ε : Type} {x : Except ε α} {f : α → Except ε β} {b : β}
    (h : (x >>= f) = .ok b) : ∃ a, x = .ok a ∧ f a = .ok b := by
  cases x with
  | error e => cases h
  | ok a => exact ⟨a, rfl, h⟩

theorem closeQuote?_length {t quoted rest : Text} (h : closeQuote? t = some (quoted, rest)) :
    rest.length < t.length := by
  induction t generalizing quoted with
  | nil => simp [closeQuote?] at h
  | cons c t ih =>
    rw [closeQuote?] at h
    split at h
    · cases h
      simp
    · obtain ⟨⟨q, r⟩, hq, heq⟩ := Option.map_eq_some_iff.1 h
      cases heq
      exact Nat.lt_succ_of_lt (ih hq)

theorem takeQuoted_length {t quoted rest : Text} (h : takeQuoted t = .ok (quoted, rest)) :
    rest.length ≤ t.length := by
  unfold takeQuoted at h
  split at h
  · split at h
    · rename_i hq
      cases h
      have := closeQuote?_length hq
      simp only [List.length_cons]
      omega
    · cases h
  · cases h

theorem untilTerminator_length (quoted : Bool) (t : Text) :
    (untilTerminator quoted t).2.length ≤ t.length := by
  induction t generalizing quoted with
  | nil => simp [untilTerminator]
  | cons c t ih =>
    rw [untilTerminator]
    split
    · exact Nat.le_refl _
    · exact Nat.le_succ_of_le (ih _)

theorem skipTerminator_length (t : Text) : (skipTerminator t).length ≤ t.length := by
  have := Text.trimStart_length_le t
  unfold skipTerminator
  split
  · rename_i h
    simp only [h, List.length_cons] at this
    omega
  · assumption

theorem patternStatement_length {language : Pattern.Language} {draft draft' : Draft}
    {t rest : Text} (h : patternStatement language draft t = .ok (draft', rest)) :
    rest.length ≤ t.length := by
  unfold patternStatement at h
  obtain ⟨⟨pattern, remainder⟩, hq, h⟩ := bind_eq_ok h
  obtain ⟨find, -, h⟩ := bind_eq_ok h
  cases h
  have := takeQuoted_length (mapError_eq_ok hq)
  have := Text.trimStart_length_le t
  have := skipTerminator_length remainder
  omega

theorem valueStatement_length {draft draft' : Draft} {t rest : Text}
    (h : valueStatement draft t = .ok (draft', rest)) : rest.length ≤ t.length := by
  have ht := Text.trimStart_length_le t
  unfold valueStatement at h
  simp only at h
  split at h
  · cases hq : takeQuoted (Text.trimStart t) with
    | error e => simp [hq, bind, Except.bind] at h
    | ok found =>
      obtain ⟨inner, remainder⟩ := found
      simp [hq, bind, Except.bind] at h
      have := takeQuoted_length hq
      have := skipTerminator_length remainder
      rw [← h.2]
      omega
  · simp only [bind, Except.bind] at h
    split at h
    · cases h
    · cases h
      have := untilTerminator_length false (Text.trimStart t)
      have := skipTerminator_length (untilTerminator false (Text.trimStart t)).2
      omega

theorem conditionStatement_length {draft draft' : Draft} {t rest : Text}
    (h : conditionStatement draft t = .ok (draft', rest)) : rest.length ≤ t.length := by
  unfold conditionStatement at h
  simp only at h
  split at h
  · cases h
  · cases h
    exact Nat.le_trans (skipTerminator_length _) (untilTerminator_length false t)

theorem totalStatement_length {draft draft' : Draft} {t rest : Text}
    (h : totalStatement draft t = .ok (draft', rest)) : rest.length ≤ t.length := by
  unfold totalStatement at h
  simp only at h
  split at h
  · cases h
    exact Nat.le_trans (skipTerminator_length _) (untilTerminator_length false t)
  · cases h

theorem afterKeyword?_length {keyword t rest : Text} (h : afterKeyword? keyword t = some rest) :
    t.length = keyword.length + rest.length := by
  unfold afterKeyword? at h
  split at h
  · rename_i hk
    have := Text.after?_eq_some.1 hk
    cases h
    rw [this, List.length_append]
  · rename_i hk
    have := Text.after?_eq_some.1 hk
    split at h
    · cases h
      rw [this, List.length_append]
    · cases h
  · cases h

theorem statement_length {language : Pattern.Language} {draft draft' : Draft} {t rest : Text}
    (h : statement language draft t = .ok (draft', rest)) : rest.length < t.length := by
  have taken {word after : Text} (hw : Text.after? word t = some after) (hpos : 0 < word.length)
      (hle : rest.length ≤ after.length) : rest.length < t.length := by
    have := Text.after?_eq_some.1 hw
    rw [this, List.length_append]
    omega
  unfold statement at h
  split at h
  · rename_i hw
    exact taken hw (by decide) (patternStatement_length h)
  · split at h
    · rename_i hw
      exact taken hw (by decide) (valueStatement_length (mapError_eq_ok h))
    · split at h
      · rename_i hw
        exact taken hw (by decide) (conditionStatement_length (mapError_eq_ok h))
      · split at h
        · rename_i hw
          exact taken hw (by decide) (totalStatement_length (mapError_eq_ok h))
        · split at h
          · rename_i after hw
            have hlen := afterKeyword?_length hw
            have := skipTerminator_length after
            simp at hlen
            cases h
            omega
          · split at h
            · rename_i after hw
              have hlen := afterKeyword?_length hw
              have := skipTerminator_length after
              simp at hlen
              cases h
              omega
            · cases h

/-! ## Lines -/

/-- What was read of a rule file: the set so far, the section, and the rule that is open. -/
structure Reading where
  set : RuleSet
  current : Option RuleKind
  draft : Option Draft
  notices : List Notice
  deriving DecidableEq, Repr

namespace Reading

def initial : Reading := ⟨.empty, none, none, []⟩

/-- Ends the open rule, if there is one. -/
def closeRule (r : Reading) : Reading :=
  match r.draft with
  | none => r
  | some draft =>
    match draft.finish r.current with
    | .ok rule =>
      { r with draft := none, set := { r.set with rules := r.set.rules ++ [rule] } }
    | .error notice => { r with draft := none, notices := r.notices ++ [notice] }

/-- Reads statements and closing braces to the end of a line. On a fault, what was read up to it
is returned with it. -/
def body (language : Pattern.Language) (r : Reading) (t : Text) :
    Except (Fault × Reading) Reading :=
  match ht : Text.trimStart t with
  | [] => .ok r
  | c :: u =>
    have hu : u.length < t.length := by
      have := Text.trimStart_length_le t
      simp only [ht, List.length_cons] at this
      omega
    if c = '}' then body language r.closeRule u
    else
      match r.draft with
      | none => .error (.malformed (.textAfterRule (c :: u)), r)
      | some draft =>
        match hs : statement language draft (c :: u) with
        | .error fault => .error (fault, r)
        | .ok (draft, rest) =>
          have : rest.length < u.length + 1 := by simpa using statement_length hs
          body language { r with draft := some draft } rest
termination_by t.length

/-- Whether a line lists marks under a name. -/
def lists (name line : Text) : Bool := name.isPrefixOf line && line.any (· == '=')

/-- The kind of the section that a line opens. -/
def header? (line : Text) : Option RuleKind :=
  RuleKind.all.find? fun kind => kind.header.isPrefixOf line

def addComments (r : Reading) (line : Text) : Except Malformation Reading := do
  let marks ← (← groups line).mapM commentMark
  .ok { r with set := { r.set with comments := r.set.comments ++ marks } }

def addLiterals (r : Reading) (line : Text) : Except Malformation Reading := do
  let marks ← (← groups line).mapM literalMark
  .ok { r with set := { r.set with literals := r.set.literals ++ marks } }

/-- Reads a line, without white space around it, outside a rule. -/
def outside (language : Pattern.Language) (r : Reading) (number : Nat) (line : Text) :
    Except (Fault × Reading) Reading :=
  if lists "Comments".toList line then (r.addComments line).mapError (.malformed ·, r)
  else if lists "Text".toList line then (r.addLiterals line).mapError (.malformed ·, r)
  else
    match header? line with
    | some kind => .ok { r with current := some kind }
    | none =>
      if line.any (· == '{') then
        body language
          { r with draft := some (.start (Text.trim (line.takeWhile (· != '{'))) number) }
          ((line.dropWhile (· != '{')).drop 1)
      else if line = ['}'] then .ok r
      else .error (.malformed (.unexpectedText line), r)

/-- Reads one line. Blank lines and lines that start with `#` say nothing. -/
def line (language : Pattern.Language) (r : Reading) (number : Nat) (raw : Text) :
    Except (Fault × Reading) Reading :=
  let line := Text.trim raw
  if line.isEmpty || line.head? = some '#' then .ok r
  else if r.draft.isNone then r.outside language number line
  else r.body language line

/-- Reads lines from the one with the given number on. -/
def lines (language : Pattern.Language) (r : Reading) (number : Nat) :
    List Text → Except (Error × Reading) Reading
  | [] => .ok r
  | raw :: rest =>
    match r.line language number raw with
    | .error (fault, r) => .error (⟨number, fault⟩, r)
    | .ok r => r.lines language (number + 1) rest

/-- The notice for a rule that the end of the file leaves open. -/
def unterminated (r : Reading) : List Notice :=
  match r.draft with
  | some draft => [.unterminatedRule draft.name draft.line]
  | none => []

end Reading

/-- Reads a rule file: its rules or the first fault, and the notices. -/
def parse (language : Pattern.Language) (text : Text) : Except Error RuleSet × List Notice :=
  match Reading.initial.lines language 1 (Text.lines text) with
  | .ok r => (.ok r.set, r.notices ++ r.unterminated)
  | .error (e, r) => (.error e, r.notices)

end SourceAtlas.RuleFile
