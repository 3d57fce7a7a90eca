import SourceAtlas.FileSystem
import SourceAtlas.Rule.Parser

/-!
# Rule libraries

A directory holds one rule file for each file type, named by its label. A library reads each of
them at most once and keeps what it has read. A label without a rule file, or with one that cannot
be read, has no rules.
-/

namespace SourceAtlas

namespace RuleFile

/-- Why a rule file gives no rules. -/
inductive LoadError where
  | unreadable (path : Path) (fault : FileFault)
  | invalid (error : Error)
  deriving DecidableEq, Repr

def LoadError.message : LoadError → Text
  | unreadable path fault =>
    "cannot read rule file ".toList ++ path.quote ++ ": ".toList ++ fault.message
  | invalid error => error.message

/-- The rules of a file. -/
def load (patterns : Pattern.Language) (fs : FileSystem) (path : Path) :
    Except LoadError RuleSet × List Notice :=
  match fs.readText path with
  | .error fault => (.error (.unreadable path fault), [])
  | .ok t =>
    let (result, notices) := parse patterns t
    (result.mapError .invalid, notices)

end RuleFile

structure RuleLibrary where
  directory : Path
  /-- The rules that were read or given so far, by label. -/
  loaded : List (Text × RuleSet)
  deriving DecidableEq, Repr

namespace RuleLibrary

def ofDirectory (directory : Path) : RuleLibrary := ⟨directory, []⟩

/-- Reads the rules of a label. -/
def read (patterns : Pattern.Language) (fs : FileSystem) (library : RuleLibrary) (label : Text) :
    RuleSet × List Notice :=
  let path := Path.join library.directory label
  if fs.isFile path then
    match RuleFile.load patterns fs path with
    | (.ok set, notices) =>
      (set, notices ++
        [.ruleFileLoaded label set.comments.length set.literals.length set.rules.length])
    | (.error _, notices) => (.empty, notices ++ [.ruleFileInvalid label path])
  else (.empty, [.ruleFileMissing label path])

/-- What looking up the rules of a label gives. -/
structure Answer where
  set : RuleSet
  library : RuleLibrary
  notices : List Notice

/-- The rules of a label, which are read only the first time. -/
def load (patterns : Pattern.Language) (fs : FileSystem) (library : RuleLibrary) (label : Text) :
    Answer :=
  match library.loaded.lookup label with
  | some set => ⟨set, library, []⟩
  | none =>
    let (set, notices) := library.read patterns fs label
    ⟨set, { library with loaded := library.loaded ++ [(label, set)] }, notices⟩

/-- Gives a label its rules, unless it has some already. -/
def preload? (library : RuleLibrary) (label : Text) (set : RuleSet) : Option RuleLibrary :=
  match library.loaded.lookup label with
  | some _ => none
  | none => some { library with loaded := library.loaded ++ [(label, set)] }

/-- The number of labels whose rules are known. -/
def size (library : RuleLibrary) : Nat := library.loaded.length

end RuleLibrary

end SourceAtlas
