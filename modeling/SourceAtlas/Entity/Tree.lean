import SourceAtlas.Entity.Basic

/-!
# Trees of entities

The entities of one analysis, each at the position of its number. Children are listed by number,
and so are the ends of dependencies. Each dependency is kept on both of its ends.
-/

namespace SourceAtlas

structure EntityTree where
  root : EntityId
  entities : List Entity
  deriving DecidableEq, Repr

namespace EntityTree

/-- Whether the entity at each position has the position as its number. -/
def numbered (entities : List Entity) : Bool :=
  entities.zipIdx.all fun (e, i) => e.id == i

/-- Gives a child a parent, if there is a child with this number. -/
def adopt? (entities : List Entity) (parent child : EntityId) : Option (List Entity) :=
  if child < entities.length then
    some (entities.modify child fun e => { e with parent := some parent })
  else none

/-- Gives entities their parents, if all children are among them. Each entity in turn becomes the
parent of those that it lists, so that the last one to list a child is its parent. -/
def adoptAll? (entities : List Entity) : Option (List Entity) :=
  entities.foldlM (fun placed d => d.children.foldlM (adopt? · d.id ·) placed) entities

/-- The tree of entities whose numbers are those below their count, in any order. There is none if
the numbers are others, or if the root or a child is not among them. -/
def ofEntities? (root : EntityId) (entities : List Entity) : Option EntityTree :=
  let sorted := entities.mergeSort fun a b => a.id ≤ b.id
  if numbered sorted && root < sorted.length then (adoptAll? sorted).map (EntityTree.mk root)
  else none

def get? (tree : EntityTree) (id : EntityId) : Option Entity := tree.entities[id]?

def size (tree : EntityTree) : Nat := tree.entities.length

def isEmpty (tree : EntityTree) : Bool := tree.entities.isEmpty

/-- Replaces an entity of the tree by what a function makes of it. -/
def modify (tree : EntityTree) (id : EntityId) (f : Entity → Entity) : EntityTree :=
  { tree with entities := tree.entities.modify id f }

def children (tree : EntityTree) (id : EntityId) : List Entity :=
  match tree.get? id with
  | some e => e.children.filterMap tree.get?
  | none => []

/-- An entity and what is below it down to a depth, each one before its children. -/
def below (tree : EntityTree) : Nat → EntityId → List Entity
  | 0, _ => []
  | depth + 1, id =>
    match tree.get? id with
    | some e => e :: e.children.flatMap (tree.below depth)
    | none => []

/-- An entity and all that is below it, in tree order. No way down is longer than the tree has
entities. -/
def walk (tree : EntityTree) (id : EntityId) : List Entity := tree.below tree.size id

/-- The numbers of the code files, in tree order. -/
def codeFiles (tree : EntityTree) : List EntityId :=
  ((tree.walk tree.root).filter Entity.isCode).map Entity.id

def findPath? (tree : EntityTree) (path : Path) : Option Entity :=
  tree.entities.find? fun e => Path.same e.path path

def findName? (tree : EntityTree) (name : Text) : Option Entity :=
  tree.entities.find? (·.name == name)

/-- Whether an edge may be added: both ends are in the tree, and they differ. -/
def admits (tree : EntityTree) (source target : EntityId) : Bool :=
  source != target && source < tree.size && target < tree.size

/-- Adds the facts of an edge to the source, and the edge back to it on the target. An edge that
the tree does not admit changes nothing. -/
def addDependency (tree : EntityTree) (source : EntityId) (edge : Edge) : EntityTree :=
  if tree.admits source edge.entity then
    let tree := tree.modify source fun e =>
      { e with dependencies := Edge.merge edge.entity edge.facts e.dependencies }
    tree.modify edge.entity fun e =>
      { e with dependants := Edge.merge source edge.facts e.dependants }
  else tree

/-- The number of dependency edges of the tree. -/
def edgeCount (tree : EntityTree) : Nat :=
  (tree.entities.map fun e => e.dependencies.length).foldr (· + ·) 0

end EntityTree

end SourceAtlas
