import SourceAtlas.Rule.Basic

/-!
# Printing rule sets

The text of a rule set in the form that rule files are written in.
-/

namespace SourceAtlas

def CommentMark.print (mark : CommentMark) : Text :=
  '[' :: mark.start ++ ", ".toList ++ mark.stop ++ [']']

/-- The elements of a literal's marks, in the order in which they are written. -/
def LiteralMark.elements (mark : LiteralMark) : List Text :=
  mark.start :: mark.exceptions ++ [mark.stop]

def LiteralMark.print (mark : LiteralMark) : Text :=
  '[' :: Text.join ", ".toList mark.elements ++ [']']

def RuleBody.statement : RuleBody → Text
  | .pattern p => "pattern: \"".toList ++ p ++ ['"']
  | .constant v => "value: ".toList ++ v.print

namespace Rule

/-- The statements of a rule, one to a line. -/
def statements (rule : Rule) : List Text :=
  [rule.body.statement] ++ rule.conditions.map ("condition: ".toList ++ ·) ++
  rule.total.toList.map ("total_number: ".toList ++ Text.ofInt ·) ++
  (if rule.hidden then ["hidden".toList] else []) ++
  (if rule.debug then ["DEBUG".toList] else [])

/-- The lines of a rule. -/
def lines (rule : Rule) : List Text :=
  (rule.name ++ " \x7b".toList) ::
    rule.statements.map (fun s => "    ".toList ++ s ++ [';']) ++ [['}']]

end Rule

namespace RuleSet

/-- The lines of the rules. A blank line and a header open each run of rules of one kind. -/
def ruleLines (current : Option RuleKind) : List Rule → List Text
  | [] => []
  | rule :: rules =>
    (if current = some rule.kind then [] else [[], rule.kind.header]) ++ rule.lines ++
      ruleLines (some rule.kind) rules

/-- A list of marks behind its name, or nothing if there are none. -/
def markLine (name : Text) (marks : List Text) : List Text :=
  if marks.isEmpty then [] else [name ++ " = [".toList ++ Text.join ", ".toList marks ++ [']']]

def printedLines (set : RuleSet) : List Text :=
  markLine "Comments".toList (set.comments.map CommentMark.print) ++
    markLine "Text".toList (set.literals.map LiteralMark.print) ++ ruleLines none set.rules

/-- The text of a rule set. Every line ends in a newline. -/
def print (set : RuleSet) : Text := set.printedLines.flatMap (· ++ ['\n'])

end RuleSet

end SourceAtlas
