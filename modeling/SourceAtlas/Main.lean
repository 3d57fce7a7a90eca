import SourceAtlas.CommandLine.Basic
import SourceAtlas.FileSystem.Edit

/-!
# The program

Takes a picture of the files that a command needs, and prints the outcome of the command on it.
-/

namespace SourceAtlas.Main

/-- What is behind the bytes that were read so far, up to the end of a file or a fault. -/
partial def readStream (handle : IO.FS.Handle) (bytes : ByteArray) : IO Stream := do
  match ← (handle.read 65536).toBaseIO with
  | .error _ => return ⟨bytes.toList, some .permissionDenied⟩
  | .ok portion =>
    if portion.isEmpty then return .whole bytes.toList else readStream handle (bytes ++ portion)

/-- What comes of opening and reading a file. -/
def readFile (path : String) : IO (Except FileFault Stream) := do
  match ← (IO.FS.Handle.mk path .read).toBaseIO with
  | .error _ => return .error .permissionDenied
  | .ok handle => return .ok (← readStream handle .empty)

/-- The node of a file, or of a directory with all that is listed below it. Links stand for what
they lead to, except that a directory behind a link is not looked into. -/
partial def readNode (path : String) : IO Node := do
  try
    let place ← IO.FS.realPath path
    let metadata ← place.metadata
    match metadata.type with
    | .dir =>
      match ← place.readDir.toBaseIO with
      | .error _ => return .directory [] [⟨.permissionDenied, []⟩]
      | .ok listed => return .directory (← listed.toList.mapM readEntry)
    | _ => return .regular ⟨metadata.byteSize, ← readFile place.toString⟩
  catch _ => return .unreadable
where
  readEntry (entry : IO.FS.DirEntry) : IO (Text × Node) := do
    try
      let isLink := (← entry.path.symlinkMetadata).type matches .symlink
      let isDirectory ← entry.path.isDir
      let node ←
        if isLink && isDirectory then pure (Node.link ['/']) else readNode entry.path.toString
      return (entry.fileName.toList, node)
    catch _ => return (entry.fileName.toList, .unreadable)

/-- Adds what stands at a path to a picture, if there is anything. -/
def add (fs : FileSystem) (path : Path) : IO FileSystem := do
  try
    let real := (← IO.FS.realPath (String.ofList (Path.join fs.workingDirectory path))).toString
    let written := Path.join fs.workingDirectory path
    let linked :=
      if Path.same written real.toList then fs else fs.put written (.link real.toList)
    return linked.put real.toList (← readNode real)
  catch _ => return fs

/-- The directory with the configuration of the user. -/
def userDirectory : IO (Option Path) := do
  match ← IO.getEnv "XDG_CONFIG_HOME" with
  | some directory =>
    if directory.startsWith "/" then return some (Path.join directory.toList "lida".toList)
  | none => pure ()
  return (← IO.getEnv "HOME").map fun home => Path.join home.toList ".config/lida".toList

/-- Whether the output is shown in colors. -/
def showsColors : IO Bool := do
  if (← IO.getEnv "CLICOLOR_FORCE").any (· != "0") then return true
  if (← IO.getEnv "NO_COLOR").isSome then return false
  (← IO.getStdout).isTty

/-- The picture of the files that a command needs. -/
def picture (fs : FileSystem) (user : Option Path) : Arguments.Command → IO FileSystem
  | .rules file => add fs file
  | .analyze arguments => do
    let candidates := Config.fileNames ++ (user.map fun d => Path.join d "lida.yaml".toList).toList
    let fs ← (arguments.config.toList ++ candidates).foldlM add fs
    match Config.load fs user arguments.config fs.workingDirectory with
    | .error _ => return fs
    | .ok config =>
      let config := CommandLine.amend arguments config
      let fs ← (config.rulesDirectoryOrDefault :: config.fileTypes.toList).foldlM add fs
      add fs arguments.path

/-- A notice on a line of its own. -/
def noticeLine (notice : Notice) : String :=
  let fields := notice.fields.map fun (name, value) =>
    match value with
    | .text t => " " ++ name ++ "=" ++ String.ofList t
    | .count n => " " ++ name ++ "=" ++ toString n
  notice.message ++ String.join fields

/-- Whether a notice is printed. -/
def isWanted (isVerbose : Bool) (notice : Notice) : Bool :=
  isVerbose || notice.level == .warn || notice.level == .error

end SourceAtlas.Main

open SourceAtlas in
def main (arguments : List String) : IO UInt32 := do
  let arguments := arguments.map String.toList
  let directory := (← IO.currentDir).toString.toList
  let user ← Main.userDirectory
  let start := (⟨.emptyDirectory, directory⟩ : FileSystem).makeDirectory directory
  let request := Arguments.parse arguments
  let fs ←
    match request with
    | .ok request => Main.picture start user request.command
    | .error _ => pure start
  let outcome := CommandLine.run Pattern.regexes fs user (← Main.showsColors) arguments
  let isVerbose := request.toOption.any (·.isVerbose)
  for notice in outcome.notices.filter (Main.isWanted isVerbose) do
    IO.eprintln (Main.noticeLine notice)
  IO.eprint (String.ofList outcome.errors)
  IO.print (String.ofList outcome.output)
  return outcome.code.toUInt32
