import SourceAtlas.Entity.Edge
import SourceAtlas.Path

/-!
# Entities

A file or a directory of an analysed tree, with all that is known of it.
-/

namespace SourceAtlas

structure Entity where
  id : EntityId
  name : Text
  path : Path
  isDirectory : Bool
  extension : Text
  lineCount : UInt64
  size : UInt64
  fileType : Option Text
  color : Text
  isCode : Bool
  parent : Option EntityId
  children : List EntityId
  vars : List Variable
  identifiers : List Identifier
  /-- Edges towards the entities that this one depends on. -/
  dependencies : List Edge
  /-- Edges from the entities that depend on this one. -/
  dependants : List Edge
  deriving DecidableEq, Repr

namespace Entity

/-- The color of an entity whose file type is not known. -/
def defaultColor : Text := "#FFFFFF".toList

/-- The text behind the last dot of a name, unless the dot is its first character. -/
def extensionOf (name : Text) : Text := (Path.extension? name).getD []

/-- An entity of which only the place is known. Its name is the last component of the path. -/
def blank (id : EntityId) (path : Path) (isDirectory : Bool) : Entity :=
  let name := (Path.fileName? path).getD path
  { id, name, path, isDirectory
    extension := if isDirectory then [] else extensionOf name
    lineCount := 0
    size := 0
    fileType := none
    color := defaultColor
    isCode := false
    parent := none
    children := []
    vars := []
    identifiers := []
    dependencies := []
    dependants := [] }

def directory (id : EntityId) (path : Path) : Entity := blank id path true

def file (id : EntityId) (path : Path) : Entity := blank id path false

/-- The name up to its first dot. -/
def nameOnly (e : Entity) : Text := e.name.takeWhile (· != '.')

/-- Sets the number of lines and the size of a file; directories have none. -/
def setStats (e : Entity) (lines size : UInt64) : Entity :=
  if e.isDirectory then e else { e with lineCount := lines, size }

/-- Sets the file type. A directory is never code. -/
def setType (e : Entity) (label color : Option Text) (isCode : Bool) : Entity :=
  { e with fileType := label, color := color.getD e.color, isCode := isCode && !e.isDirectory }

def addVariable (e : Entity) (v : Variable) : Entity := { e with vars := e.vars ++ [v] }

/-- The value that a variable was given last. -/
def valueOf? (e : Entity) (name : Text) : Option Text :=
  (e.vars.reverse.find? (·.name == name)).map Variable.value

def addIdentifier (e : Entity) (i : Identifier) : Entity :=
  { e with identifiers := e.identifiers ++ [i] }

def hasIdentifier (e : Entity) (i : Identifier) : Bool := e.identifiers.contains i

/-- The name of the file type, empty if there is none. -/
def language (e : Entity) : Text := e.fileType.getD []

end Entity

end SourceAtlas
