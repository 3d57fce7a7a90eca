import SourceAtlas.Extraction.Template
import SourceAtlas.Pattern.Language
import SourceAtlas.Rule.Value

/-!
# Conditions

Conditions decide whether a rule links a source to a target. Each of these forms may have `not`
before it:

* `== V` and `contains V` compare the variable `V` of the source and of the target;
* `A op B` compares two operands by `==`, `contains`, `startswith` or `endswith`, where a quoted
  operand stands for the first group that it finds in the line;
* `V` says that source and target have the same value of `V`;
* `||R||` and `!!R!!` say that rule `R` has linked the source to the target, or the other way;
* a quoted pattern says that it matches the line.

A condition that cannot be decided does not hold, whether negated or not.
-/

namespace SourceAtlas

/-- Which rules have linked which entities. Each record is kept once. -/
structure AppliedRules where
  records : List (EntityId × Text × EntityId)
  deriving DecidableEq, Repr

namespace AppliedRules

def empty : AppliedRules := ⟨[]⟩

def contains (applied : AppliedRules) (source : EntityId) (rule : Text) (target : EntityId) :
    Bool :=
  applied.records.contains (source, rule, target)

def record (applied : AppliedRules) (source : EntityId) (rule : Text) (target : EntityId) :
    AppliedRules :=
  if applied.contains source rule target then applied
  else ⟨applied.records ++ [(source, rule, target)]⟩

def size (applied : AppliedRules) : Nat := applied.records.length

end AppliedRules

namespace Condition

/-- All that a condition can look at. -/
structure Context where
  source : Entity
  target : Entity
  /-- The line that the rule matched; empty for constant rules. -/
  line : Text
  applied : AppliedRules

inductive Comparison where
  | equals
  | contains
  | startsWith
  | endsWith
  deriving DecidableEq, Repr

namespace Comparison

def ofToken? (token : Text) : Option Comparison :=
  match String.ofList token with
  | "==" => some .equals
  | "contains" => some .contains
  | "startswith" => some .startsWith
  | "endswith" => some .endsWith
  | _ => none

/-- The comparisons that may stand before a single variable. -/
def ofUnaryToken? (token : Text) : Option Comparison :=
  match ofToken? token with
  | some .equals => some .equals
  | some .contains => some .contains
  | _ => none

def holds (c : Comparison) (lhs rhs : Text) : Bool :=
  match c with
  | .equals => lhs == rhs
  | .contains => Text.contains lhs rhs
  | .startsWith => rhs.isPrefixOf lhs
  | .endsWith => rhs.isSuffixOf lhs

end Comparison

/-- A text with the names of the source and then those of the target replaced. -/
def expand (ctx : Context) (t : Text) : Text :=
  Template.substitute .target ctx.target (Template.substitute .source ctx.source t)

/-- The first group that a pattern finds in the line, if there is one. -/
def firstGroup? (language : Pattern.Language) (pattern line : Text) : Option Text :=
  match language pattern with
  | .ok find => (find line).join
  | .error _ => none

/-- What an operand of a comparison stands for. A quoted operand that finds no group stands for
the text between its quotes. -/
def operand (language : Pattern.Language) (ctx : Context) (t : Text) : Text :=
  let expanded := expand ctx t
  match ValueExpr.unquote? expanded with
  | none => expanded
  | some pattern => (firstGroup? language pattern ctx.line).getD pattern

/-- Compares a variable of the source with that of the target; both have to exist. -/
def compareVariables? (ctx : Context) (c : Comparison) (t : Text) : Option Bool := do
  let name := expand ctx t
  let ours ← ctx.source.valueOf? name
  let theirs ← ctx.target.valueOf? name
  some (c.holds ours theirs)

/-- Decides a condition that is no comparison with an operator. -/
def single? (language : Pattern.Language) (ctx : Context) (body : Text) : Option Bool :=
  match ctx.source.valueOf? body with
  | some ours => some (ctx.target.valueOf? body == some ours)
  | none =>
  match Marker.source.unwrap? body with
  | some rule => some (ctx.applied.contains ctx.source.id rule ctx.target.id)
  | none =>
  match Marker.target.unwrap? body with
  | some rule => some (ctx.applied.contains ctx.target.id rule ctx.source.id)
  | none =>
  match ValueExpr.unquote? body with
  | some pattern =>
    match language (expand ctx pattern) with
    | .ok find => some (find ctx.line).isSome
    | .error _ => none
  | none => none

/-- Decides a condition without its negation. -/
def decide? (language : Pattern.Language) (ctx : Context) (body : Text) : Option Bool :=
  match Text.words body with
  | [op, name] =>
    match Comparison.ofUnaryToken? op with
    | some c => compareVariables? ctx c name
    | none => single? language ctx body
  | [lhs, op, rhs] =>
    match Comparison.ofToken? op with
    | some c => some (c.holds (operand language ctx lhs) (operand language ctx rhs))
    | none => single? language ctx body
  | _ => single? language ctx body

/-- Whether a trimmed condition is negated, and what is negated. -/
def negation (condition : Text) : Bool × Text :=
  match Text.after? "not".toList condition with
  | some (c :: rest) => if Text.isSpace c then (true, Text.trim (c :: rest)) else (false, condition)
  | _ => (false, condition)

/-- Whether a condition holds. -/
def evaluate (language : Pattern.Language) (ctx : Context) (condition : Text) : Bool :=
  let (negated, body) := negation (Text.trim condition)
  match decide? language ctx body with
  | some result => result != negated
  | none => false

/-- The first condition that does not hold. -/
def firstFailure? (language : Pattern.Language) (ctx : Context) (conditions : List Text) :
    Option Text :=
  conditions.find? fun c => !evaluate language ctx c

end Condition

end SourceAtlas
