import SourceAtlas.Json.Printer
import SourceAtlas.Report.Basic

/-!
# Reports as JSON

The members of a document stand in a fixed order. Of an entry, the file type is left out if it is
not known, and numbers and lists if they are zero or empty.
-/

namespace SourceAtlas.Report

/-- An object with members of plain keys. -/
def object (members : List (String × Json)) : Json :=
  .object (members.map fun (key, value) => (key.toList, value))

/-- A member that is there only if its list is not empty. -/
def listMember {α : Type} (key : String) (toJson : α → Json) (items : List α) :
    List (String × Json) :=
  if items.isEmpty then [] else [(key, .array (items.map toJson))]

/-- A member that is there only if its number is not zero. -/
def countMember (key : String) (n : UInt64) : List (String × Json) :=
  if n = 0 then [] else [(key, .ofNat n.toNat)]

def Variable.toJson (v : Variable) : Json :=
  object [("name", .ofText v.name), ("value", .ofText v.value)]

def Identifier.toJson (i : Identifier) : Json :=
  object [("name", .ofText i.name), ("key", .ofNat i.key.toNat), ("rule", .ofText i.rule)]

def Fact.toJson (f : Fact) : Json :=
  object [("identifier", .ofText f.identifier), ("key", .ofNat f.key.toNat),
    ("rule", .ofText f.rule)]

def Edge.toJson (e : Edge) : Json :=
  object [("path", .ofText e.path), ("facts", .array (e.facts.map Fact.toJson))]

def Entry.toJson (e : Entry) : Json :=
  object <|
    [("path", .ofText e.path), ("directory", .bool e.isDirectory)] ++
    (e.fileType.map fun label => ("file_type", Json.ofText label)).toList ++
    [("color", .ofText e.color)] ++
    countMember "lines" e.lines ++
    countMember "size" e.size ++
    listMember "variables" Variable.toJson e.vars ++
    listMember "identifiers" Identifier.toJson e.identifiers ++
    listMember "dependencies" Edge.toJson e.dependencies ++
    listMember "dependants" Edge.toJson e.dependants

def totalsJson (t : TypeTotals) : Json :=
  object [("label", .ofText t.label), ("files", .ofNat t.files.toNat),
    ("lines", .ofNat t.lines.toNat), ("size", .ofNat t.size.toNat), ("color", .ofText t.color)]

def toJson (report : Report) : Json :=
  object [("version", .ofText report.version), ("root", .ofText report.root),
    ("files", .ofNat report.files), ("directories", .ofNat report.directories),
    ("edges", .ofNat report.edges), ("file_types", .array (report.fileTypes.map totalsJson)),
    ("entities", .array (report.entries.map Entry.toJson))]

/-- The document of a tree, as it is printed. -/
def document (tree : EntityTree) (showHidden : Bool) : Text :=
  (ofTree tree showHidden).toJson.print ++ ['\n']

end SourceAtlas.Report
