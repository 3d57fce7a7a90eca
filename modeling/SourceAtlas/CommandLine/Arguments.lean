import SourceAtlas.Path

/-!
# Arguments

Reads the arguments of the command line. Options have a long name, and some have a letter. A value
follows its option as the next argument, behind an equals sign, or directly behind the letter;
letters of options without values may be written together. No option may be given twice, and what
follows `--` is no option.
-/

namespace SourceAtlas

namespace Arguments

/-- What ends the reading of arguments early. -/
inductive Stop where
  | misuse
  | help
  | version
  deriving DecidableEq, Repr

/-- What an option does. -/
inductive Kind where
  | flag
  /-- It takes a path, which must not be empty. -/
  | path
  /-- It takes any text. -/
  | text
  | help
  | version
  deriving DecidableEq, Repr

structure Switch where
  long : Text
  letter : Option Char
  kind : Kind
  deriving DecidableEq, Repr

namespace Switch

def takesValue (s : Switch) : Bool := s.kind == .path || s.kind == .text

end Switch

/-- The arguments that were read so far. -/
structure Reading where
  /-- The options by their long names, with their values. -/
  given : List (Text × Text)
  operands : List Path
  /-- The option whose value is to follow. -/
  pending : Option Switch
  deriving DecidableEq, Repr

namespace Reading

def empty : Reading := ⟨[], [], none⟩

def has (r : Reading) (name : String) : Bool := (r.given.lookup name.toList).isSome

def value? (r : Reading) (name : String) : Option Text := r.given.lookup name.toList

/-- Notes an option with its value. -/
def give (r : Reading) (s : Switch) (value : Text) : Except Stop Reading :=
  if (r.given.lookup s.long).isSome || (s.kind == .path && value.isEmpty) then .error .misuse
  else .ok { r with given := r.given ++ [(s.long, value)], pending := none }

/-- Notes an option without a value. -/
def raise (r : Reading) (s : Switch) : Except Stop Reading :=
  match s.kind with
  | .help => .error .help
  | .version => .error .version
  | _ => r.give s []

/-- Reads an option by its long name, behind its dashes. -/
def readLong (switches : List Switch) (r : Reading) (body : Text) : Except Stop Reading :=
  let name := body.takeWhile (· != '=')
  match switches.find? (·.long == name), body.drop name.length with
  | none, _ => .error .misuse
  | some s, [] => if s.takesValue then .ok { r with pending := some s } else r.raise s
  | some s, _ :: value => if s.takesValue then r.give s value else .error .misuse

/-- Reads options by their letters. -/
def readLetters (switches : List Switch) (r : Reading) : Text → Except Stop Reading
  | [] => .ok r
  | c :: t =>
    match switches.find? (·.letter == some c) with
    | none => .error .misuse
    | some s =>
      if s.takesValue then
        match t with
        | [] => .ok { r with pending := some s }
        | '=' :: value => r.give s value
        | value => r.give s value
      else do readLetters switches (← r.raise s) t

/-- Notes an argument that is no option. At most `limit` of them are allowed, and none may be
empty. -/
def addOperand (limit : Nat) (r : Reading) (argument : Text) : Except Stop Reading :=
  if r.operands.length < limit && !argument.isEmpty then
    .ok { r with operands := r.operands ++ [argument] }
  else .error .misuse

/-- Whether an argument is written like an option. -/
def isOption (argument : Text) : Bool := argument.head? == some '-' && 1 < argument.length

/-- Reads one argument before `--`. -/
def read (switches : List Switch) (limit : Nat) (r : Reading) (argument : Text) :
    Except Stop Reading :=
  match r.pending with
  | some s => if isOption argument then .error .misuse else r.give s argument
  | none =>
    match argument with
    | '-' :: '-' :: body => r.readLong switches body
    | '-' :: c :: t => r.readLetters switches (c :: t)
    | argument => r.addOperand limit argument

/-- Reads all arguments. -/
def readAll (switches : List Switch) (limit : Nat) (r : Reading) :
    List Text → Except Stop Reading
  | [] => if r.pending.isSome then .error .misuse else .ok r
  | argument :: arguments =>
    if argument == ['-', '-'] then
      if r.pending.isSome then .error .misuse else arguments.foldlM (addOperand limit) r
    else do readAll switches limit (← r.read switches limit argument) arguments

end Reading

/-! ## Commands -/

/-- What is to be surveyed, and how it is shown. -/
structure Analyze where
  path : Path
  config : Option Path
  rulesDirectory : Option Path
  fileTypes : Option Path
  format : Text
  showHidden : Bool
  deriving DecidableEq, Repr

inductive Command where
  | analyze (arguments : Analyze)
  | rules (file : Path)
  deriving DecidableEq, Repr

/-- A command, and whether all notices are wanted. -/
structure Request where
  command : Command
  isVerbose : Bool
  deriving DecidableEq, Repr

def verboseSwitch : Switch := ⟨"verbose".toList, some 'v', .flag⟩

def helpSwitch : Switch := ⟨"help".toList, some 'h', .help⟩

def generalSwitches : List Switch :=
  [verboseSwitch, helpSwitch, ⟨"version".toList, some 'V', .version⟩]

def rulesSwitches : List Switch := [verboseSwitch, helpSwitch]

def analyzeSwitches : List Switch :=
  [⟨"config".toList, some 'c', .path⟩, ⟨"rules-dir".toList, some 'r', .path⟩,
    ⟨"file-types".toList, none, .path⟩, ⟨"format".toList, some 'f', .text⟩,
    ⟨"show-hidden".toList, none, .flag⟩, verboseSwitch, helpSwitch]

def defaultFormat : Text := "pretty".toList

def readAnalyze (arguments : List Text) : Except Stop (Command × Reading) := do
  let r ← Reading.empty.readAll analyzeSwitches 1 arguments
  let [path] := r.operands | throw .misuse
  return (.analyze ⟨path, r.value? "config", r.value? "rules-dir", r.value? "file-types",
    (r.value? "format").getD defaultFormat, r.has "show-hidden"⟩, r)

def readRules (arguments : List Text) : Except Stop (Command × Reading) := do
  let r ← Reading.empty.readAll rulesSwitches 1 arguments
  let [file] := r.operands | throw .misuse
  return (.rules file, r)

/-- The names of commands that help is asked for. -/
def readHelp : List Text → Stop
  | [] => .help
  | [name] =>
    if ["analyze".toList, "rules".toList, "help".toList].contains name then .help else .misuse
  | _ => .misuse

/-- Reads a command by its name. -/
def readCommand (name : Text) (arguments : List Text) : Except Stop (Command × Reading) :=
  if name == "analyze".toList then readAnalyze arguments
  else if name == "rules".toList then readRules arguments
  else if name == "help".toList then .error (readHelp arguments)
  else .error .misuse

/-- Reads the options before the name of a command, and then the command. -/
def readGeneral (r : Reading) : List Text → Except Stop Request
  | [] => .error .misuse
  | argument :: arguments =>
    if Reading.isOption argument then
      if argument == ['-', '-'] then .error .misuse
      else do readGeneral (← r.read generalSwitches 0 argument) arguments
    else do
      let (command, own) ← readCommand argument arguments
      return ⟨command, r.has "verbose" || own.has "verbose"⟩

def parse (arguments : List Text) : Except Stop Request := readGeneral .empty arguments

end Arguments

end SourceAtlas
