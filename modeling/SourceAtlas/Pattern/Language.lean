import SourceAtlas.Pattern.Parser
import SourceAtlas.Pattern.Search

/-!
# Pattern languages

What the rules need of patterns: whether a text is a pattern, and what a pattern finds in a line.
Everything else in the library takes a pattern language as a parameter; `regexes` is the one that
programs run with. In `beginnings` and `occurrences` every text is a pattern and stands for itself.
-/

namespace SourceAtlas

namespace Pattern

/-- Why a text is no pattern. -/
inductive Fault where
  | malformed
  /-- The matcher would take more memory than a pattern may. -/
  | tooLarge
  deriving DecidableEq, Repr

/-- The first line of the message for a fault. -/
def Fault.message : Fault → Text
  | .malformed => "regex parse error:".toList
  | .tooLarge =>
    "Compiled regex exceeds size limit of ".toList ++ Text.ofNat Regex.sizeLimit ++ " bytes.".toList

/-- What a pattern finds in a line: nothing, or a match with the text of its first group, if it
has a first group and the group took part in the match. -/
abbrev Matcher := Text → Option (Option Text)

/-- Which texts are patterns, and what they match. -/
abbrev Language := Text → Except Fault Matcher

namespace Language

def accepts (language : Language) (pattern : Text) : Bool := (language pattern).isOk

/-- Whether a pattern matches a line; a text that is no pattern matches nothing. -/
def isMatch (language : Language) (pattern line : Text) : Bool :=
  match language pattern with
  | .ok find => (find line).isSome
  | .error _ => false

/-- Every text is a pattern for the lines that begin with it, and the group is the rest of the
line. -/
def beginnings : Language := fun pattern => .ok fun line =>
  if pattern.isPrefixOf line then some (some (line.drop pattern.length)) else none

/-- Every text is a pattern for the lines that it occurs in, and there is no group. -/
def occurrences : Language := fun pattern => .ok fun line =>
  if Text.contains line pattern then some none else none

end Language

/-- The part of a text between two slots. -/
def slice (slots : Slots) (index : Nat) (line : Text) : Option Text :=
  match slots.getD (2 * index) none, slots.getD (2 * index + 1) none with
  | some start, some stop => some ((line.take stop).drop start)
  | _, _ => none

/-- Regular expressions, searched for anywhere in the line. -/
def regexes : Language := fun pattern =>
  match regex? pattern with
  | none => .error .malformed
  | some (regex, groups) =>
    if Regex.sizeLimit < regex.size then .error .tooLarge
    else
      let program := regex.program
      .ok fun line => (search program (2 * groups + 2) line).map fun slots => slice slots 1 line

end Pattern

end SourceAtlas
