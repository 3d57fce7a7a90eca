import SourceAtlas.Text.Basic

/-!
# Facts and edges

Identifiers that files declare, the facts for which one file depends on another, and the edges
that collect the facts between two files.
-/

namespace SourceAtlas

/-- The number of a file or directory in its tree. -/
abbrev EntityId := Nat

/-- A named value that a rule found in a file. -/
structure Variable where
  name : Text
  value : Text
  hidden : Bool
  deriving DecidableEq, Repr

/-- A name that a file declares. The key tells apart the identifiers of one name. -/
structure Identifier where
  name : Text
  rule : Text
  key : UInt32
  hidden : Bool
  deriving DecidableEq, Repr

/-- One reason for which a file depends on another: an identifier of the other file, and the rule
that found it used. -/
structure Fact where
  identifier : Identifier
  rule : Text
  hidden : Bool
  deriving DecidableEq, Repr

/-- The facts towards one entity, or from it. -/
structure Edge where
  entity : EntityId
  facts : List Fact
  deriving DecidableEq, Repr

namespace Edge

def ofFact (entity : EntityId) (fact : Fact) : Edge := ⟨entity, [fact]⟩

/-- Adds a fact unless the edge has it. -/
def addFact (edge : Edge) (fact : Fact) : Edge :=
  if edge.facts.contains fact then edge else { edge with facts := edge.facts ++ [fact] }

/-- Adds a fact unless the edge has one of the same rule. -/
def addFactOfRule (edge : Edge) (fact : Fact) : Edge :=
  if edge.facts.any (·.rule == fact.rule) then edge
  else { edge with facts := edge.facts ++ [fact] }

def addFacts (edge : Edge) (facts : List Fact) : Edge := facts.foldl addFact edge

/-- Adds facts to the edge of an entity, which is made at the end of the list if there is none. -/
def merge (entity : EntityId) (facts : List Fact) : List Edge → List Edge
  | [] => [addFacts ⟨entity, []⟩ facts]
  | edge :: edges =>
    if edge.entity = entity then edge.addFacts facts :: edges else edge :: merge entity facts edges

end Edge

end SourceAtlas
