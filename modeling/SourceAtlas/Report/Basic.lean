import SourceAtlas.Entity.Statistics

/-!
# Reports

What a survey has found, with paths in the place of numbers. Facts that come from hidden rules are
left out unless they are asked for, and so are edges that have no other facts.
-/

namespace SourceAtlas

namespace Report

structure Variable where
  name : Text
  value : Text
  deriving DecidableEq, Repr

structure Identifier where
  name : Text
  key : UInt32
  rule : Text
  deriving DecidableEq, Repr

structure Fact where
  identifier : Text
  key : UInt32
  rule : Text
  deriving DecidableEq, Repr

/-- An edge, with the path of its other end. -/
structure Edge where
  path : Path
  facts : List Fact
  deriving DecidableEq, Repr

/-- One file or directory, with its path below the root. -/
structure Entry where
  path : Path
  isDirectory : Bool
  fileType : Option Text
  color : Text
  lines : UInt64
  size : UInt64
  vars : List Variable
  identifiers : List Identifier
  dependencies : List Edge
  dependants : List Edge
  deriving DecidableEq, Repr

end Report

structure Report where
  version : Text
  root : Path
  files : Nat
  directories : Nat
  edges : Nat
  fileTypes : List TypeTotals
  entries : List Report.Entry
  deriving DecidableEq, Repr

namespace EntityTree

def fileCount (tree : EntityTree) : Nat := tree.entities.countP (!·.isDirectory)

def directoryCount (tree : EntityTree) : Nat := tree.entities.countP (·.isDirectory)

/-- The path of the root. -/
def rootPath (tree : EntityTree) : Path := ((tree.get? tree.root).map Entity.path).getD []

/-- The path of an entity below the root. A number that is none of the tree is shown itself. -/
def shownPath (tree : EntityTree) (id : EntityId) : Path :=
  match tree.get? id with
  | some e => Path.relativeTo tree.rootPath e.path
  | none => '#' :: Text.ofNat id

end EntityTree

namespace Report

/-- The version of the program, which reports bear. -/
def programVersion : Text := "0.1.0".toList

def ofFact (fact : SourceAtlas.Fact) : Fact :=
  ⟨fact.identifier.name, fact.identifier.key, fact.rule⟩

/-- The facts of an edge that are shown. -/
def shownFacts (showHidden : Bool) (edge : SourceAtlas.Edge) : List SourceAtlas.Fact :=
  edge.facts.filter fun fact => showHidden || !fact.hidden

def ofEdges (tree : EntityTree) (showHidden : Bool) (edges : List SourceAtlas.Edge) : List Edge :=
  edges.filterMap fun edge =>
    match shownFacts showHidden edge with
    | [] => none
    | facts => some ⟨tree.shownPath edge.entity, facts.map ofFact⟩

/-- The variables of an entity that are shown. -/
def shownVariables (showHidden : Bool) (e : Entity) : List SourceAtlas.Variable :=
  e.vars.filter fun v => showHidden || !v.hidden

/-- The identifiers of an entity that are shown. -/
def shownIdentifiers (showHidden : Bool) (e : Entity) : List SourceAtlas.Identifier :=
  e.identifiers.filter fun i => showHidden || !i.hidden

def ofEntity (tree : EntityTree) (showHidden : Bool) (e : Entity) : Entry where
  path := Path.relativeTo tree.rootPath e.path
  isDirectory := e.isDirectory
  fileType := e.fileType
  color := e.color
  lines := e.lineCount
  size := e.size
  vars := (shownVariables showHidden e).map fun v => ⟨v.name, v.value⟩
  identifiers := (shownIdentifiers showHidden e).map fun i => ⟨i.name, i.key, i.rule⟩
  dependencies := ofEdges tree showHidden e.dependencies
  dependants := ofEdges tree showHidden e.dependants

/-- The report on a tree, with its entities in tree order. -/
def ofTree (tree : EntityTree) (showHidden : Bool) : Report where
  version := programVersion
  root := tree.rootPath
  files := tree.fileCount
  directories := tree.directoryCount
  edges := tree.edgeCount
  fileTypes := tree.statistics tree.root
  entries := (tree.walk tree.root).map (ofEntity tree showHidden)

end Report

end SourceAtlas
