import SourceAtlas.Text.Basic

/-!
# Notices

What an analysis reports besides its result: rules that were dropped, rule files that were read,
rules that applied. Functions return their notices in the order in which they arise.
-/

namespace SourceAtlas

inductive Notice where
  | unterminatedRule (rule : Text) (line : Nat)
  | ruleOutsideSection (rule : Text) (line : Nat)
  | unnamedRule (line : Nat)
  | rulePatternOrValue (rule : Text) (line : Nat)
  | ruleFileLoaded (language : Text) (comments literals rules : Nat)
  | ruleFileMissing (language path : Text)
  | ruleFileInvalid (language path : Text)
  | extensionClaimed (extension label : Text)
  | patternDoesNotCompile (rule pattern : Text)
  | variableApplied (language rule line value : Text)
  | identifierApplied (language rule line identifier : Text)
  | dependencyApplied (language rule line identifier : Text)
  | conditionFailed (language rule line condition target : Text)
  | entryUnlisted (directory : Text)
  | directoryLink (path : Text)
  | unreadableEntry (path : Text)
  | linesUncounted (path : Text)
  | variablesUnread (path : Text)
  | identifiersUnread (path : Text)
  | dependenciesUnread (path : Text)
  | scanComplete (entities identifiers : Nat)
  | linkComplete (edges : Nat)
  deriving DecidableEq, Repr

namespace Notice

inductive Level where
  | debug
  | info
  | warn
  | error
  deriving DecidableEq, Repr

/-- The value of a field. -/
inductive Value where
  | text (t : Text)
  | count (n : Nat)
  deriving DecidableEq, Repr

def level : Notice → Level
  | unterminatedRule .. | ruleFileMissing .. | extensionClaimed .. | entryUnlisted ..
  | unreadableEntry .. | linesUncounted .. | variablesUnread .. | identifiersUnread ..
  | dependenciesUnread .. => .warn
  | ruleFileInvalid .. => .error
  | ruleFileLoaded .. | scanComplete .. | linkComplete .. => .info
  | _ => .debug

def message : Notice → String
  | unterminatedRule .. => "unterminated rule block dropped"
  | ruleOutsideSection .. => "rule outside any section dropped"
  | unnamedRule .. => "unnamed rule dropped"
  | rulePatternOrValue .. => "rule needs exactly one of pattern or value, dropped"
  | ruleFileLoaded .. => "loaded rule file"
  | ruleFileMissing .. => "no rule file, language has no rules"
  | ruleFileInvalid .. => "invalid rule file, language has no rules"
  | extensionClaimed .. => "extension already claimed, ignored"
  | patternDoesNotCompile .. => "expanded pattern does not compile"
  | variableApplied .. => "applied variable rule"
  | identifierApplied .. => "applied identifier rule"
  | dependencyApplied .. => "applied dependency rule"
  | conditionFailed .. => "condition failed"
  | entryUnlisted .. => "cannot list entry"
  | directoryLink .. => "directory symlink not followed"
  | unreadableEntry .. => "skipping unreadable entry"
  | linesUncounted .. => "cannot count lines"
  | variablesUnread .. => "cannot read variables"
  | identifiersUnread .. => "cannot read identifiers"
  | dependenciesUnread .. => "cannot read dependencies"
  | scanComplete .. => "scan complete"
  | linkComplete .. => "link complete"

def fields : Notice → List (String × Value)
  | unterminatedRule rule line | ruleOutsideSection rule line | rulePatternOrValue rule line =>
    [("rule", .text rule), ("line", .count line)]
  | unnamedRule line => [("line", .count line)]
  | ruleFileLoaded language comments literals rules =>
    [("language", .text language), ("comments", .count comments), ("texts", .count literals),
      ("rules", .count rules)]
  | ruleFileMissing language path | ruleFileInvalid language path =>
    [("language", .text language), ("path", .text path)]
  | extensionClaimed extension label => [("extension", .text extension), ("label", .text label)]
  | patternDoesNotCompile rule pattern => [("rule", .text rule), ("pattern", .text pattern)]
  | variableApplied language rule line value =>
    [("language", .text language), ("rule", .text rule), ("line", .text line),
      ("value", .text value)]
  | identifierApplied language rule line identifier
  | dependencyApplied language rule line identifier =>
    [("language", .text language), ("rule", .text rule), ("line", .text line),
      ("identifier", .text identifier)]
  | conditionFailed language rule line condition target =>
    [("language", .text language), ("rule", .text rule), ("line", .text line),
      ("condition", .text condition), ("target", .text target)]
  | entryUnlisted directory => [("dir", .text directory)]
  | directoryLink path | unreadableEntry path | linesUncounted path | variablesUnread path
  | identifiersUnread path | dependenciesUnread path => [("path", .text path)]
  | scanComplete entities identifiers =>
    [("entities", .count entities), ("identifiers", .count identifiers)]
  | linkComplete edges => [("edges", .count edges)]

end Notice

end SourceAtlas
