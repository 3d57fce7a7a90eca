import SourceAtlas.FileSystem
import SourceAtlas.Notice
import SourceAtlas.Pattern.Language
import SourceAtlas.Source.Stripping

/-!
# Passes over a file

A pass applies the rules of one kind to one file. Constant rules apply first, whatever the file
holds; then each pattern rule is tried on every line, reduced to its code, until the rule has
applied as often as it may. What an application does is up to a sink, which also says what a
pattern stands for at that moment.
-/

namespace SourceAtlas

/-- One application of a rule: the code of the line, and the first group of the match. Both are
empty for constant rules. -/
structure Hit where
  line : Text
  capture : Text
  deriving DecidableEq, Repr

/-- What happens with the applications of rules. -/
structure Sink (σ : Type) where
  /-- The pattern that a template stands for in a state. -/
  expand : σ → Text → Text
  /-- The state after an application, and the notices of it. -/
  apply : σ → Rule → Hit → σ × List Notice

namespace Pass

/-- A pattern rule that may still apply: how often it has applied, and its latest pattern with
the matcher for it, if it is a pattern at all. -/
structure Active where
  rule : Rule
  template : Text
  count : Nat
  compiled : Option (Text × Option Pattern.Matcher)

namespace Active

def start (rule : Rule) (template : Text) : Active := ⟨rule, template, 0, none⟩

/-- Whether the rule has applied as often as it may. -/
def isRetired (a : Active) : Bool := a.rule.cap.any (· ≤ a.count)

/-- The matcher for a pattern, which is built anew only if the pattern has changed. -/
def matcher (language : Pattern.Language) (a : Active) (pattern : Text) :
    Option Pattern.Matcher × List Notice :=
  let build :=
    match language pattern with
    | .ok find => (some find, [])
    | .error _ => (none, [Notice.patternDoesNotCompile a.rule.name pattern])
  match a.compiled with
  | some (latest, find) => if latest = pattern then (find, []) else build
  | none => build

end Active

variable {σ : Type}

/-- The state of a sink and the notices so far. -/
structure Outcome (σ : Type) where
  state : σ
  notices : List Notice

namespace Outcome

def start (state : σ) : Outcome σ := ⟨state, []⟩

def note (o : Outcome σ) (notices : List Notice) : Outcome σ :=
  { o with notices := o.notices ++ notices }

def apply (sink : Sink σ) (o : Outcome σ) (rule : Rule) (hit : Hit) : Outcome σ :=
  let (state, notices) := sink.apply o.state rule hit
  ⟨state, o.notices ++ notices⟩

end Outcome

/-- Tries one rule on the code of a line. -/
def tryRule (language : Pattern.Language) (sink : Sink σ) (line : Text) (o : Outcome σ)
    (a : Active) : Active × Outcome σ :=
  let pattern := sink.expand o.state a.template
  let (find, notices) := a.matcher language pattern
  let a := { a with compiled := some (pattern, find) }
  let o := o.note notices
  match find.bind (· line) with
  | none => (a, o)
  | some group => ({ a with count := a.count + 1 }, o.apply sink a.rule ⟨line, group.getD []⟩)

/-- Tries rules in order on the code of a line. -/
def tryRules (language : Pattern.Language) (sink : Sink σ) (line : Text) (o : Outcome σ) :
    List Active → List Active × Outcome σ
  | [] => ([], o)
  | a :: active =>
    let (a, o) := tryRule language sink line o a
    let (active, o) := tryRules language sink line o active
    (a :: active, o)

/-- The code of a raw line, and the state at its end. A blank line is passed over. -/
def codeOf (set : RuleSet) (state : LineState) (raw : Text.Bytes) : Text × LineState :=
  let line := Text.trim (Text.decodeLossy raw)
  if line.isEmpty then ([], state) else set.strip state line

/-- Goes through raw lines as long as a rule may still apply. Rules are retired after a line. A
fault behind the lines is met only if a rule is left then. -/
def lines (language : Pattern.Language) (set : RuleSet) (sink : Sink σ) (fault : Option FileFault)
    (state : LineState) (active : List Active) (o : Outcome σ) :
    List Text.Bytes → Outcome σ × Option FileFault
  | [] => (o, fault)
  | raw :: rest =>
    let (code, state) := codeOf set state raw
    if code.isEmpty then lines language set sink fault state active o rest
    else
      let (active, o) := tryRules language sink code o active
      let active := active.filter (!·.isRetired)
      if active.isEmpty then (o, none) else lines language set sink fault state active o rest

/-- The rules of a kind that may apply at all. -/
def eligible (set : RuleSet) (kind : RuleKind) : List Rule :=
  (set.rulesOf kind).filter (·.cap != some 0)

/-- Applies constant rules in order. -/
def constants (sink : Sink σ) (rules : List Rule) (o : Outcome σ) : Outcome σ :=
  (rules.filter Rule.isConstant).foldl (fun o rule => o.apply sink rule ⟨[], []⟩) o

/-- The pattern rules among rules, before any of them has applied. -/
def active (rules : List Rule) : List Active :=
  rules.filterMap fun rule =>
    match rule.body with
    | .pattern template => some (.start rule template)
    | .constant _ => none

/-- A pass over a file that could be opened. Without pattern rules the file is not read. If a fault
ends the reading, what was found in the lines before it is kept. -/
def content (language : Pattern.Language) (set : RuleSet) (kind : RuleKind) (sink : Sink σ)
    (state : σ) (stream : Stream) : Outcome σ × Option FileFault :=
  let rules := eligible set kind
  let o := constants sink rules (.start state)
  let active := active rules
  if active.isEmpty then (o, none)
  else lines language set sink stream.fault .clear active o stream.rawLines

/-- A pass over the file at a path. Without rules of the kind the file is not opened, and a file
that cannot be opened yields nothing. -/
def file (language : Pattern.Language) (fs : FileSystem) (set : RuleSet) (kind : RuleKind)
    (sink : Sink σ) (state : σ) (path : Path) : Outcome σ × Option FileFault :=
  if (set.rulesOf kind).isEmpty then (.start state, none)
  else
    match fs.openFile path with
    | .error fault => (.start state, some fault)
    | .ok stream => content language set kind sink state stream

end Pass

end SourceAtlas
