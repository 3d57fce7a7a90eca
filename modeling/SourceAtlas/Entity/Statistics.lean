import SourceAtlas.Entity.Tree

/-!
# Statistics by file type

How many files of each type a part of a tree holds, and how many lines and bytes they have.
-/

namespace SourceAtlas

/-- The totals of the files of one type. Sums are taken modulo `2 ^ 64`. -/
structure TypeTotals where
  label : Text
  files : UInt64
  lines : UInt64
  size : UInt64
  color : Text
  deriving DecidableEq, Repr

namespace TypeTotals

/-- The sum of some counts. -/
def sum (counts : List UInt64) : UInt64 := counts.foldr (· + ·) 0

/-- The row of a type before its files are counted. -/
def start (label color : Text) : TypeTotals := ⟨label, 0, 0, 0, color⟩

/-- A row with one more file. -/
def add (row : TypeTotals) (e : Entity) : TypeTotals :=
  { row with files := row.files + 1, lines := row.lines + e.lineCount, size := row.size + e.size }

/-- Rows in increasing order of their labels with one more file. The first file of a type gives its
row the color. -/
def addFile (label : Text) (e : Entity) : List TypeTotals → List TypeTotals
  | [] => [(start label e.color).add e]
  | row :: rows =>
    if label < row.label then (start label e.color).add e :: row :: rows
    else if label = row.label then row.add e :: rows
    else row :: addFile label e rows

/-- Rows with one more entity. Nothing is counted of directories, nor of files whose type is not
known. -/
def addEntity (rows : List TypeTotals) (e : Entity) : List TypeTotals :=
  if e.isDirectory then rows
  else
    match e.fileType with
    | some label => addFile label e rows
    | none => rows

/-- One row for each type of the files among some entities, in the order of the labels. -/
def ofEntities (entities : List Entity) : List TypeTotals := entities.foldl addEntity []

/-- The sum of some rows. -/
def total (rows : List TypeTotals) : TypeTotals :=
  ⟨"Total".toList, sum (rows.map files), sum (rows.map lines), sum (rows.map size),
    Entity.defaultColor⟩

end TypeTotals

namespace EntityTree

/-- The totals of the files at and below an entity. -/
def statistics (tree : EntityTree) (id : EntityId) : List TypeTotals :=
  TypeTotals.ofEntities (tree.walk id)

end EntityTree

end SourceAtlas
