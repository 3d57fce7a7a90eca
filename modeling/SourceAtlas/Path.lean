import SourceAtlas.Text.Basic

/-!
# Paths

A path is a text in which slashes separate components. The text is kept as it is written, but
paths are compared and taken apart by their components: repeated slashes, a slash at the end and
components `.` do not count, except for a `.` at the very start.
-/

namespace SourceAtlas

abbrev Path := Text

namespace Path

inductive Component where
  | root
  | current
  | parent
  | name (name : Text)
  deriving DecidableEq, Repr

def isAbsolute (p : Path) : Bool := p.head? == some '/'

/-- Whether the path starts with a component `.`. -/
def startsAtCurrent : Path → Bool
  | ['.'] => true
  | '.' :: '/' :: _ => true
  | _ => false

/-- The first component if it is the root or `.`, as text. -/
def anchor (p : Path) : Text := if isAbsolute p || startsAtCurrent p then p.take 1 else []

/-- What stands between the slashes after the anchor. -/
def pieces (p : Path) : List Text := Text.cutAt (· == '/') (p.drop (anchor p).length)

/-- Whether a piece is no component. -/
def isVoid (piece : Text) : Bool := piece.isEmpty || piece == ['.']

def component? (piece : Text) : Option Component :=
  if isVoid piece then none else if piece == ['.', '.'] then some .parent else some (.name piece)

def components (p : Path) : List Component :=
  (if isAbsolute p then [.root] else if startsAtCurrent p then [.current] else []) ++
    (pieces p).filterMap component?

/-- Whether two paths have the same components. -/
def same (p q : Path) : Bool := components p == components q

/-- The last component, if it is a name. -/
def fileName? (p : Path) : Option Text :=
  match (components p).getLast? with
  | some (.name n) => some n
  | _ => none

/-- The pieces up to the last one that is a component. -/
def dropVoidEnd (ps : List Text) : List Text := (ps.reverse.dropWhile isVoid).reverse

def slashed (ps : List Text) : Text := Text.join ['/'] ps

/-- Whether a path ends in a slash or in a component `.`. -/
def endsInside (p : Path) : Bool := (pieces p).getLast?.any isVoid

/-- The path without its last component; the root and the empty path have none. -/
def parent? (p : Path) : Option Path :=
  match dropVoidEnd (pieces p) with
  | [] => if startsAtCurrent p then some [] else none
  | ps => some (anchor p ++ slashed (dropVoidEnd ps.dropLast))

/-- A path as seen from a base; an absolute path stays as it is. -/
def join (base p : Path) : Path :=
  if isAbsolute p || base.isEmpty then p
  else if base.getLast? == some '/' then base ++ p
  else base ++ '/' :: p

/-- Takes components off the front of the pieces. -/
def stripPieces : List Component → List Text → Option (List Text)
  | [], ps => some ps
  | _ :: _, [] => none
  | c :: cs, piece :: ps =>
    match component? piece with
    | none => stripPieces (c :: cs) ps
    | some d => if c = d then stripPieces cs ps else none

/-- What remains of a path after the components of `base`. -/
def strip? (base p : Path) : Option Path :=
  match components base with
  | [] => some (anchor p ++ slashed (dropVoidEnd (pieces p)))
  | first :: others =>
    let atAnchor := (first == .root && isAbsolute p) || (first == .current && startsAtCurrent p)
    let wanted :=
      if atAnchor then some others
      else if (anchor p).isEmpty then some (first :: others)
      else none
    (wanted.bind (stripPieces · (pieces p))).map fun ps =>
      slashed (dropVoidEnd (ps.dropWhile isVoid))

/-- A path as reports show it below a root: the root itself is `.`, and a path that is not below
the root stays as it is. -/
def relativeTo (root p : Path) : Path :=
  match strip? root p with
  | some [] => ['.']
  | some rest => rest
  | none => p

/-- The text behind the last dot of a file name, unless the dot is its first character. -/
def extension? (name : Text) : Option Text :=
  match Text.findLast? '.' name with
  | some i => if 0 < i then some (name.drop (i + 1)) else none
  | none => none

end Path

end SourceAtlas
