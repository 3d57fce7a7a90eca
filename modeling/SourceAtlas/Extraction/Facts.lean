import SourceAtlas.Entity.Index
import SourceAtlas.Entity.Tree
import SourceAtlas.Extraction.Condition
import SourceAtlas.Extraction.Pass

/-!
# What passes find

The variables and identifiers of a file, and the edges from a file to others of its type.
-/

namespace SourceAtlas.Extraction

/-- The names in a capture: what stands between commas, without white space around it. -/
def tokens (capture : Text) : List Text :=
  ((Text.cutAt (· == ',') capture).map Text.trim).filter (!·.isEmpty)

/-- A notice of a rule that asks for its applications to be told. -/
def noteIf (rule : Rule) (notice : Notice) : List Notice := if rule.debug then [notice] else []

/-- The value of a rule for a file: that of its expression, or what its pattern captured. -/
def ruleValue (e : Entity) (rule : Rule) (hit : Hit) : Text :=
  match rule.body with
  | .constant expr => expr.evaluate (Template.substitute .source e)
  | .pattern _ => hit.capture

/-! ## Variables -/

/-- Each application gives the entity a variable, which later patterns may refer to. -/
def variableSink : Sink Entity where
  expand e template := Template.substitute .source e template
  apply e rule hit :=
    let value := ruleValue e rule hit
    (e.addVariable ⟨rule.name, value, rule.hidden⟩,
      noteIf rule (.variableApplied e.language rule.name hit.line value))

/-- The entity with the variables of its file. -/
def vars (language : Pattern.Language) (fs : FileSystem) (set : RuleSet) (e : Entity) :
    Pass.Outcome Entity × Option FileFault :=
  Pass.file language fs set .vars variableSink e e.path

/-! ## Identifiers -/

/-- The names that an application declares. -/
def declaredNames (e : Entity) (rule : Rule) (hit : Hit) : List Text :=
  match rule.body with
  | .constant _ => [ruleValue e rule hit]
  | .pattern _ => (tokens hit.capture).map (Template.substitute .source e)

/-- Each name that is not empty becomes an identifier without a key. -/
def identifierSink (e : Entity) : Sink (List Identifier) where
  expand _ template := Template.substitute .source e template
  apply found rule hit :=
    let names := (declaredNames e rule hit).filter (!·.isEmpty)
    (found ++ names.map fun name => ⟨name, rule.name, 0, rule.hidden⟩,
      names.flatMap fun name =>
        noteIf rule (.identifierApplied e.language rule.name hit.line name))

/-- The identifiers that the file of an entity declares, in order. -/
def identifiers (language : Pattern.Language) (fs : FileSystem) (set : RuleSet) (e : Entity) :
    Pass.Outcome (List Identifier) × Option FileFault :=
  Pass.file language fs set .identifiers (identifierSink e) [] e.path

/-! ## Dependencies -/

/-- The edges found so far, and which rules have linked the source to which targets. -/
structure Links where
  edges : List Edge
  applied : AppliedRules
  deriving DecidableEq, Repr

namespace Links

def empty : Links := ⟨[], .empty⟩

/-- Adds a fact to the edge of a target. A constant rule adds at most one fact to an edge that
exists. -/
def addFact (isConstant : Bool) (target : EntityId) (fact : Fact) : List Edge → List Edge
  | [] => [Edge.ofFact target fact]
  | edge :: edges =>
    if edge.entity = target then
      (if isConstant then edge.addFactOfRule fact else edge.addFact fact) :: edges
    else edge :: addFact isConstant target fact edges

/-- Records that a rule links a source to a target. -/
def record (links : Links) (source : EntityId) (rule : Rule) (target : EntityId)
    (identifier : Identifier) : Links :=
  ⟨addFact rule.isConstant target ⟨identifier, rule.name, rule.hidden⟩ links.edges,
    links.applied.record source rule.name target⟩

end Links

/-- Where dependencies of a source are looked for. -/
structure Surroundings where
  language : Pattern.Language
  source : Entity
  tree : EntityTree
  index : IdentifierIndex

namespace Surroundings

/-- The owner of an identifier, if the source may be linked to it: it is another entity, and of
the same file type. -/
def candidate? (s : Surroundings) (i : Identifier) : Option Entity := do
  let owner ← s.index.owner? i
  if owner == s.source.id then none
  let target ← s.tree.get? owner
  if target.fileType == s.source.fileType then some target else none

/-- The first condition of a rule that fails for a target. -/
def failure? (s : Surroundings) (links : Links) (rule : Rule) (line : Text) (target : Entity) :
    Option Text :=
  Condition.firstFailure? s.language ⟨s.source, target, line, links.applied⟩ rule.conditions

/-- Records a link if the conditions of the rule hold. Whether it did is returned too. -/
def link (s : Surroundings) (links : Links) (rule : Rule) (line : Text) (target : Entity)
    (i : Identifier) : Bool × Links × List Notice :=
  match s.failure? links rule line target with
  | some failed =>
    (false, links,
      noteIf rule (.conditionFailed s.source.language rule.name line failed target.path))
  | none =>
    (true, links.record s.source.id rule target.id i,
      noteIf rule (.dependencyApplied s.source.language rule.name line i.name))

/-- Links the source to the owner of the first identifier in the list that it may be linked to,
other than its own identifiers. -/
def linkFirst (s : Surroundings) (rule : Rule) (line : Text) (links : Links) :
    List Identifier → Links × List Notice
  | [] => (links, [])
  | i :: is =>
    if s.source.hasIdentifier i then s.linkFirst rule line links is
    else
      match s.candidate? i with
      | none => s.linkFirst rule line links is
      | some target =>
        match s.link links rule line target i with
        | (true, links, notices) => (links, notices)
        | (false, links, notices) =>
          let (links, more) := s.linkFirst rule line links is
          (links, notices ++ more)

/-- Resolves the names of a capture one after the other. -/
def linkTokens (s : Surroundings) (rule : Rule) (line : Text) (links : Links) :
    List Text → Links × List Notice
  | [] => (links, [])
  | token :: rest =>
    let (links, notices) := s.linkFirst rule line links (s.index.byName token)
    let (links, more) := s.linkTokens rule line links rest
    (links, notices ++ more)

/-- Links the source to every owner that it may be linked to, each by its first identifier for
which the conditions hold. -/
def linkAll (s : Surroundings) (rule : Rule) (line : Text) (linked : List EntityId)
    (links : Links) : List Identifier → Links × List Notice
  | [] => (links, [])
  | i :: is =>
    match s.candidate? i with
    | none => s.linkAll rule line linked links is
    | some target =>
      if linked.contains target.id then s.linkAll rule line linked links is
      else
        let (done, links, notices) := s.link links rule line target i
        let (links, more) :=
          s.linkAll rule line (if done then target.id :: linked else linked) links is
        (links, notices ++ more)

end Surroundings

/-- A pattern rule links to the files that declare what it captured, a constant rule to all files
that declare anything. -/
def dependencySink (s : Surroundings) : Sink Links where
  expand _ template := Template.substitute .source s.source template
  apply links rule hit :=
    match rule.body with
    | .pattern _ => s.linkTokens rule hit.line links (tokens hit.capture)
    | .constant _ => s.linkAll rule hit.line [] links s.index.all

/-- The edges from an entity to others of its file type. -/
def dependencies (language : Pattern.Language) (fs : FileSystem) (set : RuleSet)
    (tree : EntityTree) (index : IdentifierIndex) (source : EntityId) :
    Pass.Outcome Links × Option FileFault :=
  match tree.get? source with
  | none => (.start .empty, none)
  | some e =>
    Pass.file language fs set .dependencies (dependencySink ⟨language, e, tree, index⟩) .empty
      e.path

end SourceAtlas.Extraction
