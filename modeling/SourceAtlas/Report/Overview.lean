import SourceAtlas.ByteCount
import SourceAtlas.Report.Basic
import SourceAtlas.Report.Style

/-!
# Reports for a terminal

A header, the tree with the facts of each file below it, and a table of the file types.
-/

namespace SourceAtlas.Report

/-- How a report is shown. -/
structure View where
  colors : Bool
  showHidden : Bool

namespace View

def style (v : View) (styles : List Style) (t : Text) : Text := Style.apply v.colors styles t

def indentation (depth : Nat) : Text := List.replicate (2 * depth) ' '

/-! ## The tree -/

/-- The line of an edge, unless all of its facts are hidden. -/
def edgeLine (v : View) (tree : EntityTree) (indent : Text) (arrow : String)
    (edge : SourceAtlas.Edge) : List Text :=
  match shownFacts v.showHidden edge with
  | [] => []
  | facts =>
    let rules := '(' :: Text.join [',', ' '] (facts.map SourceAtlas.Fact.rule) ++ [')']
    [indent ++ v.style [.cyan] arrow.toList ++ ' ' :: tree.shownPath edge.entity ++
      "  ".toList ++ v.style [.dimmed] rules]

def variableLine (v : View) (indent : Text) (x : SourceAtlas.Variable) : Text :=
  indent ++ v.style [.dimmed] "var".toList ++ ' ' :: v.style [.yellow] x.name ++
    " = ".toList ++ x.value

/-- The line of an identifier. A key is shown if it tells identifiers apart. -/
def identifierLine (v : View) (indent : Text) (i : SourceAtlas.Identifier) : Text :=
  let key := if i.key = 0 then [] else v.style [.dimmed] ('#' :: Text.ofNat i.key.toNat)
  indent ++ v.style [.dimmed] "def".toList ++ ' ' :: v.style [.green] i.name ++ key ++
    "  ".toList ++ v.style [.dimmed] i.rule

def fileLine (v : View) (depth : Nat) (e : Entity) : Text :=
  let label := e.fileType.elim [] fun label => "  ".toList ++ v.style [.dimmed] label
  let lines :=
    if e.lineCount = 0 then []
    else v.style [.dimmed] ("  ".toList ++ Text.ofNat e.lineCount.toNat ++ " lines".toList)
  indentation (depth + 2) ++ e.name ++ label ++ lines

def fileLines (v : View) (tree : EntityTree) (depth : Nat) (e : Entity) : List Text :=
  let indent := indentation (depth + 4)
  v.fileLine depth e ::
    ((shownVariables v.showHidden e).map (v.variableLine indent) ++
      (shownIdentifiers v.showHidden e).map (v.identifierLine indent) ++
      e.dependencies.flatMap (v.edgeLine tree indent "->") ++
      e.dependants.flatMap (v.edgeLine tree indent "<-"))

/-- The lines of an entity and of what is below it, down to a number of levels. -/
def treeLines (v : View) (tree : EntityTree) : Nat → Nat → EntityId → List Text
  | 0, _, _ => []
  | levels + 1, depth, id =>
    match tree.get? id with
    | none => []
    | some e =>
      if e.isDirectory then
        (indentation (depth + 2) ++ v.style [.bold, .blue] e.name ++ ['/']) ::
          e.children.flatMap (v.treeLines tree levels (depth + 1))
      else v.fileLines tree depth e

/-! ## The table of file types -/

/-- A row of four cells, of which the first is already as wide as its column. -/
def tableRow (label files lines size : Text) : Text :=
  "    ".toList ++ label ++ ' ' :: files ++ ' ' :: lines ++ ' ' :: size

def totalsRow (v : View) (isTotal : Bool) (row : TypeTotals) : Text :=
  let label := Style.padEnd 14 row.label
  tableRow (if isTotal then v.style [.bold] label else label)
    (Style.padStart 7 (Text.ofNat row.files.toNat))
    (Style.padStart 9 (Text.ofNat row.lines.toNat))
    (Style.padStart 12 (ByteCount.print row.size))

def headRow (v : View) : Text :=
  let dim := v.style [.dimmed]
  tableRow (dim (Style.padEnd 14 "Type".toList)) (dim (Style.padStart 7 "Files".toList))
    (dim (Style.padStart 9 "Lines".toList)) (dim (Style.padStart 12 "Size".toList))

/-- The table of the file types, unless there are none. -/
def tableLines (v : View) (rows : List TypeTotals) : List Text :=
  if rows.isEmpty then []
  else
    ["  ".toList ++ v.style [.bold] "File types".toList ++ [':'], [], v.headRow] ++
      rows.map (v.totalsRow false) ++ [v.totalsRow true (TypeTotals.total rows), []]

/-! ## The whole -/

def headerLines (v : View) (tree : EntityTree) : List Text :=
  let counts := Text.ofNat tree.fileCount ++ " files, ".toList ++
    Text.ofNat tree.directoryCount ++ " directories, ".toList ++
    Text.ofNat tree.edgeCount ++ " dependency edges".toList
  [[], "  ".toList ++ v.style [.bold, .cyan] "lida".toList ++ " v".toList ++ programVersion, [],
    "  ".toList ++ v.style [.dimmed] "Analyzed: ".toList ++ tree.rootPath,
    "  ".toList ++ v.style [.dimmed] "Entities: ".toList ++ counts, [],
    "  ".toList ++ v.style [.bold] "Tree".toList ++ [':'], []]

/-- The lines of the report on a tree, each with a newline. -/
def render (v : View) (tree : EntityTree) : Text :=
  let lines := v.headerLines tree ++ v.treeLines tree tree.size 0 tree.root ++ [[]] ++
    v.tableLines (tree.statistics tree.root)
  lines.flatMap fun line => line ++ ['\n']

end View

end SourceAtlas.Report
