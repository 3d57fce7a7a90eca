import SourceAtlas.Entity.Basic
import SourceAtlas.FileType.Basic
import SourceAtlas.Progress
import SourceAtlas.Rule.Library
import SourceAtlas.Text.Quoted

/-!
# Sessions

What a survey is run with, and what it changes besides its result: the rules that were read so
far, the messages about its progress, and the notices.

A survey may be asked to stop. It looks for that whenever it turns to a file or a directory, and
what it finds at its successive looks is given from the start.
-/

namespace SourceAtlas.Survey

/-- Why a survey has no result. -/
inductive Error where
  | cancelled
  | rootNotFound (root : Path)
  | unreadable (path : Path) (fault : FileFault)
  | inconsistentTree
  /-- Some name has more identifiers than there are keys for them. -/
  | keysExhausted
  deriving DecidableEq, Repr

def Error.message : Error → Text
  | cancelled => "analysis cancelled".toList
  | rootNotFound root =>
    "root path ".toList ++ root.quote ++ " does not exist or cannot be resolved".toList
  | unreadable path fault => "cannot read ".toList ++ path.quote ++ ": ".toList ++ fault.message
  | inconsistentTree => "scanned entities do not form a tree".toList
  | keysExhausted => "too many identifiers of one name".toList

structure Environment where
  patterns : Pattern.Language
  files : FileSystem
  fileTypes : FileTypes
  /-- Whether the survey finds at a look, counted from zero, that it should stop. -/
  stop : Nat → Bool

/-- The stop flag of a survey that nobody stops. -/
def unstopped : Nat → Bool := fun _ => false

structure Session where
  library : RuleLibrary
  progress : Progress
  notices : List Notice
  /-- How often the survey has looked whether it should stop. -/
  looks : Nat

namespace Session

def start (library : RuleLibrary) (progress : Progress) : Session := ⟨library, progress, [], 0⟩

/-- Looks whether to stop. -/
def look (env : Environment) (s : Session) : Except Error Session :=
  if env.stop s.looks then .error .cancelled else .ok { s with looks := s.looks + 1 }

def note (s : Session) (notices : List Notice) : Session :=
  { s with notices := s.notices ++ notices }

/-- Says what is done with an entity. -/
def announce (s : Session) (activity : Text) (e : Entity) : Session :=
  { s with progress := s.progress.push (activity ++ ' ' :: e.name) }

/-- The rules of a file type. -/
def rules (env : Environment) (s : Session) (label : Text) : RuleSet × Session :=
  let answer := s.library.load env.patterns env.files label
  (answer.set, { s with library := answer.library }.note answer.notices)

end Session

end SourceAtlas.Survey
