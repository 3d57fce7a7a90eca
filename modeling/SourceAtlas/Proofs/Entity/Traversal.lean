import Mathlib.Data.List.Perm.Basic
import SourceAtlas.Proofs.Entity.Grove
import SourceAtlas.Proofs.Entity.Symmetry

/-!
# Walks through trees with edges

Adding edges to a tree leaves its entities under their numbers, with the same paths and children
(`Places`). So a walk through a tree that was made of a grove meets every entity once and depth
first, whatever edges were added.
-/

namespace SourceAtlas

/-- The same entity for all that its place in a tree depends on. -/
structure Entity.StandsFor (placed e : Entity) : Prop where
  id_eq : placed.id = e.id
  name_eq : placed.name = e.name
  path_eq : placed.path = e.path
  isDirectory_eq : placed.isDirectory = e.isDirectory
  children_eq : placed.children = e.children

namespace EntityTree

/-- A tree that has some entities under their numbers and no others. -/
structure Places (tree : EntityTree) (entities : List Entity) : Prop where
  nodup : (entities.map Entity.id).Nodup
  get : ∀ e ∈ entities, ∃ placed, tree.get? e.id = some placed ∧ placed.StandsFor e
  only : ∀ id placed, tree.get? id = some placed → ∃ e ∈ entities, e.id = id

variable {tree : EntityTree} {root : EntityId} {entities : List Entity}

theorem root_ofEntities? (h : ofEntities? root entities = some tree) : tree.root = root := by
  obtain ⟨_, -, -, -, -, rfl⟩ := ofEntities?_eq_some_iff.1 h
  rfl

theorem places_ofEntities? (h : ofEntities? root entities = some tree) : tree.Places entities := by
  refine ⟨nodup_map_id_of_ofEntities? h, ?_, ?_⟩
  · intro e he
    obtain ⟨parent, hget⟩ := exists_get?_ofEntities? h he
    exact ⟨_, hget, rfl, rfl, rfl, rfl, rfl⟩
  · intro id placed hget
    obtain ⟨e, he, hid, -⟩ := exists_mem_of_get?_ofEntities? h hget
    exact ⟨e, he, hid⟩

theorem Places.linkedBy (h : tree.Places entities) (calls : List (EntityId × Edge)) :
    (tree.linkedBy calls).Places entities := by
  refine ⟨h.nodup, ?_, ?_⟩
  · intro e he
    obtain ⟨placed, hget, hsame⟩ := h.get e he
    have hlinked := get?_linkedBy tree calls e.id
    rw [hget, Option.map_some] at hlinked
    exact ⟨_, hlinked, hsame.id_eq, hsame.name_eq, hsame.path_eq, hsame.isDirectory_eq,
      hsame.children_eq⟩
  · intro id placed hget
    rw [get?_linkedBy] at hget
    obtain ⟨before, hbefore, -⟩ := Option.map_eq_some_iff.1 hget
    exact h.only id before hbefore

theorem Places.isNumbered (h : tree.Places entities) : tree.IsNumbered := by
  intro id placed hget
  obtain ⟨e, he, rfl⟩ := h.only id placed hget
  obtain ⟨placed', hget', hsame⟩ := h.get e he
  obtain rfl := Option.some.inj (hget.symm.trans hget')
  exact hsame.id_eq

/-- What a tree has under the number of an entity. -/
def placed (tree : EntityTree) (e : Entity) : Entity := (tree.get? e.id).getD e

namespace Places

variable (h : tree.Places entities) {e : Entity} (he : e ∈ entities)

include h he

theorem get?_placed : tree.get? e.id = some (tree.placed e) := by
  obtain ⟨found, hget, -⟩ := h.get e he
  rw [placed, hget, Option.getD_some]

theorem standsFor_placed : (tree.placed e).StandsFor e := by
  obtain ⟨found, hget, hsame⟩ := h.get e he
  rw [placed, hget, Option.getD_some]
  exact hsame

end Places

theorem Places.mem_entities_iff (h : tree.Places entities) {found : Entity} :
    found ∈ tree.entities ↔ ∃ e ∈ entities, tree.placed e = found := by
  constructor
  · intro hfound
    obtain ⟨id, hget⟩ := List.mem_iff_getElem?.1 hfound
    obtain ⟨e, he, rfl⟩ := h.only id found hget
    exact ⟨e, he, Option.some.inj ((h.get?_placed he).symm.trans hget)⟩
  · rintro ⟨e, he, rfl⟩
    exact List.mem_of_getElem? (h.get?_placed he)

/-- What depends on places alone is told alike of the entities and of the tree. -/
theorem Places.exists_entity_iff (h : tree.Places entities) {P : Entity → Prop}
    (hP : ∀ placed e : Entity, placed.StandsFor e → (P placed ↔ P e)) :
    (∃ e ∈ tree.entities, P e) ↔ ∃ e ∈ entities, P e := by
  constructor
  · rintro ⟨placed, hplaced, hp⟩
    obtain ⟨e, he, rfl⟩ := h.mem_entities_iff.1 hplaced
    exact ⟨e, he, (hP _ e (h.standsFor_placed he)).1 hp⟩
  · rintro ⟨e, he, hp⟩
    exact ⟨_, h.mem_entities_iff.2 ⟨e, he, rfl⟩, (hP _ e (h.standsFor_placed he)).2 hp⟩

theorem IsNumbered.get?_id (h : tree.IsNumbered) {e : Entity} (he : e ∈ tree.entities) :
    tree.get? e.id = some e :=
  getElem?_id_of_numbered (numbered_iff.2 h) he

theorem IsNumbered.nodup (h : tree.IsNumbered) : (tree.entities.map Entity.id).Nodup := by
  rw [numbered_iff_map_id.1 (numbered_iff.2 h)]
  exact List.nodup_range

theorem Places.perm (h : tree.Places entities) :
    (entities.map tree.placed).Perm tree.entities := by
  have hids : (entities.map tree.placed).map Entity.id = entities.map Entity.id := by
    rw [List.map_map]
    exact List.map_congr_left fun e he => (h.standsFor_placed he).id_eq
  have hnodup : (entities.map tree.placed).Nodup := .of_map Entity.id (hids ▸ h.nodup)
  rw [List.perm_ext_iff_of_nodup hnodup (.of_map Entity.id h.isNumbered.nodup)]
  intro found
  rw [List.mem_map, h.mem_entities_iff]

theorem Places.length_eq (h : tree.Places entities) : entities.length = tree.size := by
  rw [size, ← h.perm.length_eq, List.length_map]

section

variable {Joins : Entity → List Entity → Prop} {top : Entity}

theorem Places.walk_eq (h : tree.Places entities) (hgrove : Grove Joins [top] entities)
    (hroot : tree.root = top.id) : tree.walk tree.root = entities.map tree.placed := by
  have hwalk := hgrove.flatMap_below (fun e he => (h.standsFor_placed he).children_eq)
    (fun e he => h.get?_placed he) (Nat.le_of_eq h.length_eq)
  rw [List.map_singleton, List.flatMap_singleton] at hwalk
  rw [hroot, walk, hwalk]

/-- The walk from the root is a visit of all entities, each of them once. -/
theorem Places.visits_walk (h : tree.Places entities) (hgrove : Grove Joins [top] entities)
    (hroot : tree.root = top.id) :
    tree.Visits [tree.root] (tree.walk tree.root) ∧ (tree.walk tree.root).Perm tree.entities := by
  rw [h.walk_eq hgrove hroot, hroot]
  exact ⟨hgrove.visits (fun e he => (h.standsFor_placed he).children_eq)
    (fun e he => h.get?_placed he), h.perm⟩

/-- The children of an entity in the tree are those that it is joined with. -/
theorem Places.exists_children (h : tree.Places entities) (hgrove : Grove Joins [top] entities)
    {e : Entity} (he : e ∈ entities) :
    ∃ children, (∀ child ∈ children, child ∈ entities) ∧ Joins e children ∧
      tree.children e.id = children.map tree.placed := by
  obtain ⟨children, hmem, hchildren, hjoins⟩ := hgrove.exists_children he
  refine ⟨children, hmem, hjoins, ?_⟩
  rw [EntityTree.children, h.get?_placed he]
  simp only
  rw [(h.standsFor_placed he).children_eq, hchildren, List.filterMap_map, ← List.filterMap_eq_map]
  exact List.filterMap_congr fun child hchild => h.get?_placed (hmem child hchild)

end

/-! ## Edges on both ends -/

/-- Both ends of an edge tell the same, if all edges were added between entities of the tree. -/
theorem dependsOn_iff_isNeededBy {calls : List (EntityId × Edge)}
    (h : ∀ call ∈ calls, tree.admits call.1 call.2.entity) (source target : EntityId)
    (facts : List Fact) :
    (tree.linkedBy calls).DependsOn source target facts ↔
      (tree.linkedBy calls).IsNeededBy target source facts := by
  rw [dependsOn_linkedBy, isNeededBy_linkedBy]
  apply and_congr_left
  rintro ⟨⟨call, hcall, rfl, rfl⟩, -⟩
  obtain ⟨-, hsource, htarget⟩ := admits_iff.1 (h call hcall)
  exact iff_of_true hsource htarget

end EntityTree

end SourceAtlas
