import SourceAtlas.Config
import SourceAtlas.FileType.Builtin
import SourceAtlas.FileType.Reader
import SourceAtlas.Survey.Census

/-!
# Surveys

A survey of a directory takes its census and then links its code files: the dependencies of each
of them are found against the identifiers of all, and only when all are found are they added to
the tree.
-/

namespace SourceAtlas

namespace Survey

/-! ## Linking -/

/-- The edges from an entity, by the rules of its file type. -/
def edgesFrom (env : Environment) (scan : Scan) (id : EntityId) (s : Session) :
    List Edge × Session :=
  match scan.tree.get? id with
  | none => ([], s)
  | some e =>
    match e.fileType with
    | none => ([], s)
    | some label =>
      let (set, s) := (s.announce "Linking".toList e).rules env label
      let (links, fault) :=
        Extraction.dependencies env.patterns env.files set scan.tree scan.index id
      (links.state.edges,
        s.note (links.notices ++ (fault.map fun _ => Notice.dependenciesUnread e.path).toList))

/-- The edges from some entities in order. -/
def edgesFromAll (env : Environment) (scan : Scan) (s : Session) :
    List EntityId → Except Error (List (EntityId × List Edge) × Session)
  | [] => return ([], s)
  | id :: ids => do
    let s ← s.look env
    let (edges, s) := edgesFrom env scan id s
    let (others, s) ← edgesFromAll env scan s ids
    return ((id, edges) :: others, s)

/-- Adds an edge to a tree, and counts it if the tree admits it. -/
def attachEdge (source : EntityId) (linked : EntityTree × Nat) (edge : Edge) : EntityTree × Nat :=
  if linked.1.admits source edge.entity then (linked.1.addDependency source edge, linked.2 + 1)
  else linked

/-- Adds the edges from several sources to a tree. The number of edges that were added is returned
too. -/
def attach (tree : EntityTree) (found : List (EntityId × List Edge)) : EntityTree × Nat :=
  found.foldl (fun linked (source, edges) => edges.foldl (attachEdge source) linked) (tree, 0)

/-- A tree whose code files are linked. -/
structure Linked where
  tree : EntityTree
  /-- How many edges were added. -/
  added : Nat
  session : Session

/-- Links the code files of a tree in tree order. -/
def link (env : Environment) (scan : Scan) : Except Error Linked := do
  let (found, session) ← edgesFromAll env scan scan.session scan.tree.codeFiles
  let (tree, added) := attach scan.tree found
  return ⟨tree, added, session⟩

/-! ## Whole surveys -/

/-- The linked tree of all that is met at and below a root. -/
def run (env : Environment) (options : SurveyOptions) (root : Path) (s : Session) :
    Except Error (EntityTree × Session) := do
  let scan ← scan env options root s
  let scan := { scan with
    session := scan.session.note [.scanComplete scan.tree.size scan.index.size] }
  let linked ← link env scan
  return (linked.tree, linked.session.note [.linkComplete linked.added])

/-! ## From a configuration -/

/-- Why a survey cannot be set up. -/
inductive SetupError where
  | fileTypes (error : FileTypes.Error)
  | config (error : Config.Error)
  deriving DecidableEq, Repr

def SetupError.message : SetupError → Text
  | fileTypes error => error.message
  | config error => error.message

/-- All that a configuration says of surveys. -/
structure Setup where
  fileTypes : FileTypes
  options : SurveyOptions
  session : Session

def setup (fs : FileSystem) (config : Config) : Except SetupError Setup :=
  let (table, notices) :=
    match config.fileTypes with
    | some path => FileTypes.load fs path
    | none => FileTypes.builtin
  match table with
  | .error error => .error (.fileTypes error)
  | .ok fileTypes =>
    match config.excludes with
    | .error error => .error (.config error)
    | .ok excludes =>
      let session := Session.start (.ofDirectory config.rulesDirectoryOrDefault)
        (.ofCapacity config.capacity)
      .ok ⟨fileTypes, ⟨excludes, config.skipsHidden⟩, session.note notices⟩

end Survey

end SourceAtlas
