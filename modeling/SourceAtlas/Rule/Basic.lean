import SourceAtlas.Rule.Value

/-!
# Rules of a language

A rule set says how the sources of one language are read: what starts and ends its comments and
text literals, and which rules find variables, identifiers and dependencies.
-/

namespace SourceAtlas

/-- What a rule finds. -/
inductive RuleKind where
  | vars
  | identifiers
  | dependencies
  deriving DecidableEq, Repr

namespace RuleKind

/-- The word that opens a section of rules of this kind. -/
def header : RuleKind → Text
  | vars => "Variables".toList
  | identifiers => "Identifiers".toList
  | dependencies => "Dependencies".toList

def all : List RuleKind := [vars, identifiers, dependencies]

end RuleKind

/-- The marks around a comment. A comment without an end mark runs to the end of its line. -/
structure CommentMark where
  start : Text
  stop : Text
  deriving DecidableEq, Repr

def CommentMark.isLine (mark : CommentMark) : Bool := mark.stop.isEmpty

/-- The marks around a text literal, and the sequences in which its end mark does not end it. -/
structure LiteralMark where
  start : Text
  stop : Text
  exceptions : List Text
  deriving DecidableEq, Repr

/-- Where a rule takes its value from. -/
inductive RuleBody where
  /-- The first group of a pattern, in every line that it matches. -/
  | pattern (pattern : Text)
  /-- A value that does not depend on the lines of the file. -/
  | constant (value : ValueExpr)
  deriving DecidableEq, Repr

structure Rule where
  name : Text
  kind : RuleKind
  body : RuleBody
  /-- Conditions that all have to hold. -/
  conditions : List Text
  /-- How often the rule may apply to one file; a negative number sets no limit. -/
  total : Option Int
  hidden : Bool
  debug : Bool
  deriving DecidableEq, Repr

namespace Rule

def isConstant (rule : Rule) : Bool :=
  match rule.body with
  | .constant _ => true
  | .pattern _ => false

/-- How often a rule applies to one file at most. A constant rule applies once unless it says
otherwise. -/
def cap (rule : Rule) : Option Nat :=
  match rule.total with
  | some (.ofNat n) => some n
  | some (.negSucc _) => none
  | none => if rule.isConstant then some 1 else none

end Rule

structure RuleSet where
  comments : List CommentMark
  literals : List LiteralMark
  rules : List Rule
  deriving DecidableEq, Repr

namespace RuleSet

def empty : RuleSet := ⟨[], [], []⟩

instance : Inhabited RuleSet := ⟨empty⟩

/-- The marks that start a comment up to the end of the line. -/
def lineComments (set : RuleSet) : List Text :=
  (set.comments.filter CommentMark.isLine).map CommentMark.start

/-- The comments that may span lines. -/
def blockComments (set : RuleSet) : List CommentMark := set.comments.filter (!·.isLine)

/-- The rules of one kind, in the order in which they are declared. -/
def rulesOf (set : RuleSet) (kind : RuleKind) : List Rule := set.rules.filter (·.kind == kind)

def hasNoRules (set : RuleSet) : Bool := set.rules.isEmpty

/-- The first rule of a name. -/
def rule? (set : RuleSet) (name : Text) : Option Rule := set.rules.find? (·.name == name)

end RuleSet

end SourceAtlas
