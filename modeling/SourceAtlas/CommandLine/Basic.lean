import SourceAtlas.CommandLine.Arguments
import SourceAtlas.Report.Document
import SourceAtlas.Report.Overview
import SourceAtlas.Rule.Printer
import SourceAtlas.Survey.Basic

/-!
# The command line

What the program prints and how it exits, for its arguments and the files that it finds.
-/

namespace SourceAtlas

namespace CommandLine

/-- What a run of the program leaves behind. -/
structure Outcome where
  code : UInt8
  output : Text
  errors : Text
  notices : List Notice

def succeeded (output : Text) (notices : List Notice) : Outcome := ⟨0, output, [], notices⟩

/-- An outcome with a line about what went wrong. -/
def failed (code : UInt8) (message : Text) (notices : List Notice) : Outcome :=
  ⟨code, [], "Error: ".toList ++ message ++ ['\n'], notices⟩

/-- The exit code of a check that finds faults. -/
def codeOfFindings : UInt8 := 1

/-- The exit code of a run that cannot be done. -/
def codeOfError : UInt8 := 2

/-- Checks a rule file and prints it in its plain form. -/
def checkRules (patterns : Pattern.Language) (fs : FileSystem) (file : Path) : Outcome :=
  match RuleFile.load patterns fs file with
  | (.ok set, notices) => succeeded set.print notices
  | (.error error, notices) =>
    match error with
    | .unreadable .. => failed codeOfError error.message notices
    | .invalid _ =>
      failed codeOfFindings
        ("invalid rule file ".toList ++ file ++ ": ".toList ++ error.message) notices

def isFormat (format : Text) : Bool := format == "pretty".toList || format == "json".toList

/-- What the configuration says, unless the arguments say otherwise. -/
def amend (arguments : Arguments.Analyze) (config : Config) : Config :=
  { config with
    rulesDirectory := arguments.rulesDirectory.or config.rulesDirectory
    fileTypes := arguments.fileTypes.or config.fileTypes }

/-- Prints a tree in a format. -/
def print (arguments : Arguments.Analyze) (colors : Bool) (tree : EntityTree) : Text :=
  if arguments.format == "json".toList then Report.document tree arguments.showHidden
  else (⟨colors, arguments.showHidden⟩ : Report.View).render tree

/-- Surveys a directory and prints what was found. -/
def analyze (patterns : Pattern.Language) (fs : FileSystem) (userDirectory : Option Path)
    (colors : Bool) (arguments : Arguments.Analyze) : Outcome :=
  if !isFormat arguments.format then
    failed codeOfError
      ("invalid format ".toList ++ arguments.format.quote ++ ", must be 'pretty' or 'json'".toList)
      []
  else
    match Config.load fs userDirectory arguments.config fs.workingDirectory with
    | .error error => failed codeOfError error.message []
    | .ok config =>
      match Survey.setup fs (amend arguments config) with
      | .error error => failed codeOfError error.message []
      | .ok setup =>
        let env : Survey.Environment := ⟨patterns, fs, setup.fileTypes, Survey.unstopped⟩
        match Survey.run env setup.options arguments.path setup.session with
        | .error error => failed codeOfError error.message setup.session.notices
        | .ok (tree, session) => succeeded (print arguments colors tree) session.notices

def usage : String :=
  "Rule-driven source tree analyzer\n\n" ++
  "Usage: lida [-v] analyze [OPTIONS] <PATH>\n" ++
  "       lida [-v] rules <FILE>\n\n" ++
  "Options of analyze:\n" ++
  "  -c, --config <CONFIG>        Path to config YAML file (default: auto-discover)\n" ++
  "  -r, --rules-dir <RULES_DIR>  Directory holding one rule file per file type\n" ++
  "      --file-types <FILE>      JSON file-type table replacing the built-in one\n" ++
  "  -f, --format <FORMAT>        Output format: pretty or json\n" ++
  "      --show-hidden            Include facts from hidden rules in the output\n\n" ++
  "  -v, --verbose                Enable debug logging\n" ++
  "  -h, --help                   Print help\n" ++
  "  -V, --version                Print version\n"

/-- The outcome for arguments that ask for no command. -/
def stopped : Arguments.Stop → Outcome
  | .misuse => ⟨codeOfError, [], usage.toList, []⟩
  | .help => succeeded usage.toList []
  | .version => succeeded ("lida ".toList ++ Report.programVersion ++ ['\n']) []

def execute (patterns : Pattern.Language) (fs : FileSystem) (userDirectory : Option Path)
    (colors : Bool) : Arguments.Command → Outcome
  | .rules file => checkRules patterns fs file
  | .analyze arguments => analyze patterns fs userDirectory colors arguments

/-- The outcome of the program for its arguments. -/
def run (patterns : Pattern.Language) (fs : FileSystem) (userDirectory : Option Path)
    (colors : Bool) (arguments : List Text) : Outcome :=
  match Arguments.parse arguments with
  | .error stop => stopped stop
  | .ok request => execute patterns fs userDirectory colors request.command

end CommandLine

end SourceAtlas
