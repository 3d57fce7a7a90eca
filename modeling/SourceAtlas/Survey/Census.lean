import SourceAtlas.Color
import SourceAtlas.Entity.Tree
import SourceAtlas.Extraction.Facts
import SourceAtlas.Source.LineCount
import SourceAtlas.Survey.Listing
import SourceAtlas.Survey.Session

/-!
# The census of a directory

Turns a listing into entities. They are numbered in the order in which they are met, a directory
before what it holds. The type of a file follows from its extension; of code files the variables
and identifiers are read, and the identifiers are registered. A directory has the average color of
its children.
-/

namespace SourceAtlas.Survey

/-- The number of the next entity, the identifiers so far, and the session. -/
structure Census where
  nextId : EntityId
  index : IdentifierIndex
  session : Session

/-- An entity, and the entities below it in the order of their numbers. -/
structure Branch where
  entity : Entity
  below : List Entity

namespace Branch

def entities (b : Branch) : List Entity := b.entity :: b.below

/-- A directory with its children. -/
def ofChildren (e : Entity) (children : List Branch) : Branch :=
  ⟨{ e with
      children := children.map fun b => b.entity.id
      color := (Color.blend (children.map fun b => b.entity.color)).getD Entity.defaultColor },
    children.flatMap entities⟩

end Branch

namespace Census

def start (session : Session) : Census := ⟨0, .empty, session⟩

def inSession (c : Census) (change : Session → Session) : Census :=
  { c with session := change c.session }

def look (env : Environment) (c : Census) : Except Error Census :=
  (c.session.look env).map fun session => { c with session }

/-! ## Files -/

/-- Registers the identifiers of an entity, which then has them. -/
def register (e : Entity) (identifiers : List Identifier) (c : Census) :
    Except Error (Entity × Census) :=
  match c.index.registerAll e.id identifiers with
  | some (keyed, index) => .ok (keyed.foldl Entity.addIdentifier e, { c with index })
  | none => .error .keysExhausted

/-- Reads the variables and identifiers of a file by some rules, and registers the identifiers. -/
def extract (env : Environment) (set : RuleSet) (e : Entity) (c : Census) :
    Except Error (Entity × Census) :=
  let (found, fault) := Extraction.vars env.patterns env.files set e
  let e := found.state
  let c := c.inSession fun s =>
    s.note (found.notices ++ (fault.map fun _ => Notice.variablesUnread e.path).toList)
  let (identifiers, fault) := Extraction.identifiers env.patterns env.files set e
  let c := c.inSession fun s =>
    s.note (identifiers.notices ++ (fault.map fun _ => Notice.identifiersUnread e.path).toList)
  c.register e identifiers.state

/-- Reads a code file by the rules of its type, if there are any. -/
def readCode (env : Environment) (e : Entity) (c : Census) : Except Error (Entity × Census) :=
  match e.fileType with
  | none => .ok (e, c)
  | some label =>
    let (set, session) := c.session.rules env label
    let c := { c with session }
    if set.hasNoRules then .ok (e, c) else extract env set e c

/-- Gives a file the type that its extension has. -/
def classify (table : FileTypes) (e : Entity) : Entity :=
  match table.lookup? e.extension with
  | some info => e.setType (some info.label) (some info.color) info.isCode
  | none => e

/-- The number of lines of a file, and a notice if it cannot be read to the end. It counts as a file
without lines then. -/
def countLines (path : Path) (file : FileData) : Nat × List Notice :=
  match file.read with
  | .ok bytes => (LineCount.ofBytes bytes, [])
  | .error _ => (0, [.linesUncounted path])

/-- The entity of a file that has the next number. -/
def enterFile (env : Environment) (path : Path) (file : FileData) (c : Census) :
    Except Error (Entity × Census) :=
  let e := Entity.file c.nextId path
  let counted := countLines path file
  let c := { c with nextId := c.nextId + 1 }.inSession fun s =>
    (s.announce "Scanning".toList e).note counted.2
  let e := e.setStats counted.1.toUInt64 file.size
  let e := classify env.fileTypes e
  if e.isCode then readCode env e (c.inSession (·.announce "Reading".toList e)) else .ok (e, c)

/-- The entity of a directory that has the next number, before its children are known. -/
def enterDirectory (path : Path) (entries : List Listing) (faults : List FileFault) (c : Census) :
    Entity × Census :=
  let e := Entity.directory c.nextId path
  (e, { c with nextId := c.nextId + 1 }.inSession fun s =>
    (s.announce "Scanning".toList e).note
      (faults.map (fun _ => Notice.entryUnlisted path) ++
        (Listing.directoryLinks entries).map Notice.directoryLink))

/-! ## Trees -/

mutual

/-- The entities of a listing. What cannot be read is passed over. -/
def enter (env : Environment) (c : Census) : Listing → Except Error (Option Branch × Census)
  | .file path file => do
    let c ← c.look env
    let (e, c) ← c.enterFile env path file
    return (some ⟨e, []⟩, c)
  | .directory path entries faults => do
    let c ← c.look env
    let (e, c) := c.enterDirectory path entries faults
    let (children, c) ← c.enterAll env entries
    return (some (.ofChildren e children), c)
  | .directoryLink _ => return (none, c)
  | .unreadable path => do
    let c ← c.look env
    return (none, c.inSession (·.note [.unreadableEntry path]))

/-- The entities of some listings in order. -/
def enterAll (env : Environment) (c : Census) : List Listing → Except Error (List Branch × Census)
  | [] => return ([], c)
  | listing :: listings => do
    let (branch, c) ← c.enter env listing
    let (branches, c) ← c.enterAll env listings
    return (branch.toList ++ branches, c)

end

end Census

/-- A tree with the identifiers of its files. -/
structure Scan where
  tree : EntityTree
  index : IdentifierIndex
  session : Session

/-- What is met at a root, which has to be there. -/
def rootListing (env : Environment) (options : SurveyOptions) (root : Path) :
    Except Error Listing :=
  match env.files.canonical root with
  | .error _ => .error (.rootNotFound root)
  | .ok path =>
    match env.files.node path with
    | .ok node => .ok (Listing.ofNode env.files options path node)
    | .error _ => .error (.rootNotFound root)

/-- The tree of all that is met at and below a root. -/
def scan (env : Environment) (options : SurveyOptions) (root : Path) (s : Session) :
    Except Error Scan := do
  let listing ← rootListing env options root
  match ← (Census.start s).enter env listing with
  | (none, _) => throw (.unreadable listing.path .permissionDenied)
  | (some branch, c) =>
    match EntityTree.ofEntities? branch.entity.id branch.entities with
    | some tree => return ⟨tree, c.index, c.session⟩
    | none => throw .inconsistentTree

end SourceAtlas.Survey
