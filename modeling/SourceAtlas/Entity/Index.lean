import SourceAtlas.Entity.Edge

/-!
# The index of identifiers

Every identifier of a run is registered with the entity that declares it. Registering gives it a
key, so that no two identifiers of the run are equal: the first of a name has key 0, and each
later one the largest key so far plus one, where 1 is skipped. Keys have 32 bits; once a name has
used up the largest of them, no further identifier of that name can be registered.
-/

namespace SourceAtlas

/-- The identifiers registered so far: the owner of each, those of each name, and all of them, in
the order of registration. -/
structure IdentifierIndex where
  owners : List (Identifier × EntityId)
  names : List (Text × List Identifier)
  order : List Identifier
  deriving DecidableEq, Repr

namespace IdentifierIndex

def empty : IdentifierIndex := ⟨[], [], []⟩

/-- The identifiers of a name, in the order of registration. -/
def byName (index : IdentifierIndex) (name : Text) : List Identifier :=
  (index.names.lookup name).getD []

def owner? (index : IdentifierIndex) (i : Identifier) : Option EntityId := index.owners.lookup i

/-- All identifiers, in the order of registration. -/
def all (index : IdentifierIndex) : List Identifier := index.order

def size (index : IdentifierIndex) : Nat := index.order.length

def isEmpty (index : IdentifierIndex) : Bool := index.order.isEmpty

/-- The key for the next identifier of a name, given the keys in use. -/
def nextKey (keys : List UInt32) : Option UInt32 :=
  match keys.max? with
  | none => some 0
  | some m => if (max m 1).toNat + 1 < UInt32.size then some (max m 1 + 1) else none

/-- Appends an identifier to those of its name. -/
def appendName (i : Identifier) : List (Text × List Identifier) → List (Text × List Identifier)
  | [] => [(i.name, [i])]
  | (name, is) :: rest =>
    if name = i.name then (name, is ++ [i]) :: rest else (name, is) :: appendName i rest

/-- The index with an identifier that has its key. -/
def insert (index : IdentifierIndex) (owner : EntityId) (keyed : Identifier) : IdentifierIndex :=
  ⟨(keyed, owner) :: index.owners, appendName keyed index.names, index.order ++ [keyed]⟩

/-- Registers an identifier, and returns it with its key. -/
def register (index : IdentifierIndex) (owner : EntityId) (i : Identifier) :
    Option (Identifier × IdentifierIndex) := do
  let key ← nextKey ((index.byName i.name).map Identifier.key)
  let keyed := { i with key }
  return (keyed, index.insert owner keyed)

/-- Registers the identifiers of one owner in order. -/
def registerAll (index : IdentifierIndex) (owner : EntityId) :
    List Identifier → Option (List Identifier × IdentifierIndex)
  | [] => return ([], index)
  | i :: is => do
    let (keyed, index) ← index.register owner i
    let (others, index) ← index.registerAll owner is
    return (keyed :: others, index)

end IdentifierIndex

end SourceAtlas
