import SourceAtlas.Field
import SourceAtlas.FileSystem
import SourceAtlas.Glob.Parser
import SourceAtlas.Progress
import SourceAtlas.Text.Quoted
import SourceAtlas.Yaml.Value

/-!
# Configuration

Where the rules and the table of file types are, which paths an analysis leaves out, and how many
messages about its progress are kept. A configuration is written in YAML. Its paths are relative
to the directory of the file that holds it.
-/

namespace SourceAtlas

structure Config where
  rulesDirectory : Option Path
  fileTypes : Option Path
  logCapacity : Option Nat
  excludedPaths : List Text
  skipHidden : Option Bool
  deriving DecidableEq, Repr

namespace Config

/-- Why there is no configuration. -/
inductive Error where
  | unreadable (path : Path) (fault : FileFault)
  | malformed (path : Path)
  | zeroCapacity
  | invalidGlob (error : Glob.Error)
  deriving DecidableEq, Repr

def Error.message : Error → Text
  | unreadable path fault => "cannot read config ".toList ++ path ++ ": ".toList ++ fault.message
  | malformed path => "invalid config ".toList ++ path ++ ": ".toList
  | zeroCapacity => "log_capacity must be greater than 0".toList
  | invalidGlob error =>
    "invalid excluded_paths pattern ".toList ++ error.glob.quote ++ ": ".toList ++ error.message

/-- The configuration in which nothing is said. -/
def default : Config := ⟨none, none, none, [], none⟩

def defaultRulesDirectory : Path := "data/rules".toList

/-! ## Reading -/

/-- The names of configuration files, in the order in which they are looked for. -/
def fileNames : List Text := ["lida.yaml".toList, ".lida.yaml".toList]

def ofFields? (fields : List (Text × Yaml.Node)) : Option Config := do
  let rulesDirectory ← Field.read? fields "rules_dir".toList (Yaml.Node.optional? Yaml.Node.text?)
  let fileTypes ← Field.read? fields "file_types".toList (Yaml.Node.optional? Yaml.Node.text?)
  let logCapacity ←
    Field.read? fields "log_capacity".toList (Yaml.Node.optional? Yaml.Node.natural?)
  let excludedPaths ← Field.read? fields "excluded_paths".toList Yaml.Node.texts?
  let skipHidden ← Field.read? fields "skip_hidden".toList (Yaml.Node.optional? Yaml.Node.bool?)
  return ⟨rulesDirectory.join, fileTypes.join, logCapacity.join, excludedPaths.getD [],
    skipHidden.join⟩

/-- The configuration that a text holds. An empty text holds the default one. -/
def parse? (t : Text) : Option Config := do
  match ← Yaml.Node.parse? t with
  | none => return default
  | some node => ofFields? (← node.fields?)

/-- Takes the paths as relative to a directory. -/
def resolve (config : Config) (base : Path) : Config :=
  { config with
    rulesDirectory := config.rulesDirectory.map (Path.join base)
    fileTypes := config.fileTypes.map (Path.join base) }

/-- The configuration that a file holds. -/
def read (fs : FileSystem) (path : Path) : Except Error Config :=
  match fs.readText path with
  | .error fault => .error (.unreadable path fault)
  | .ok t =>
    match parse? t with
    | none => .error (.malformed path)
    | some config => .ok (config.resolve ((Path.parent? path).getD []))

/-- The configuration file of a directory, or else that of the user. -/
def discover? (fs : FileSystem) (userDirectory : Option Path) (directory : Path) : Option Path :=
  let names := fileNames.map (Path.join directory)
  let users := (userDirectory.map fun d => Path.join d (fileNames.headD [])).toList
  (names ++ users).find? fs.isFile

/-! ## Checking -/

/-- The globs of the excluded paths. -/
def globs (config : Config) : Except Error (List Glob) :=
  config.excludedPaths.mapM fun t => (Glob.parse t).mapError .invalidGlob

/-- Whether a path is excluded. -/
def excludes (config : Config) : Except Error (Path → Bool) :=
  config.globs.map fun globs path => globs.any (·.accepts path)

def validate (config : Config) : Except Error Unit :=
  if config.logCapacity == some 0 then .error .zeroCapacity else config.globs.map fun _ => ()

/-- The configuration of a given file, or of the one that is found for a directory, or else the
default one. -/
def load (fs : FileSystem) (userDirectory : Option Path) (given : Option Path) (directory : Path) :
    Except Error Config := do
  let config ←
    match given.or (discover? fs userDirectory directory) with
    | some path => read fs path
    | none => pure default
  config.validate
  return config

/-! ## What holds where nothing is said -/

def rulesDirectoryOrDefault (config : Config) : Path :=
  config.rulesDirectory.getD defaultRulesDirectory

def capacity (config : Config) : Nat := config.logCapacity.getD Progress.defaultCapacity

def skipsHidden (config : Config) : Bool := config.skipHidden.getD false

end Config

end SourceAtlas
