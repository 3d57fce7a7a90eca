import SourceAtlas.Proofs.Entity.Grove

/-!
# Entities in pre-order

The entities of a forest are listed in pre-order: each one comes before those below it, and these
come before its next sibling. They are numbered in this order. Such a list always makes a tree, and
of this tree everything about numbers, parents and walks is known.
-/

namespace SourceAtlas

/-- The entities of a forest in pre-order, numbered from `n` on, with the entities at its top. Each
entity lists the numbers of its children, and is related to them by `Joins`. -/
inductive Forest (Joins : Entity → List Entity → Prop) :
    Nat → List Entity → List Entity → Prop
  | nil {n : Nat} : Forest Joins n [] []
  | cons {n : Nat} {e : Entity} {children below roots rest : List Entity}
      (id_eq : e.id = n) (children_eq : e.children = children.map Entity.id)
      (joins : Joins e children) (hbelow : Forest Joins (n + 1) children below)
      (hrest : Forest Joins (n + 1 + below.length) roots rest) :
      Forest Joins n (e :: roots) (e :: (below ++ rest))

namespace Forest

variable {Joins : Entity → List Entity → Prop} {n : Nat} {roots entities : List Entity}

theorem imp {Joins' : Entity → List Entity → Prop}
    (himp : ∀ e children, Joins e children → Joins' e children)
    (h : Forest Joins n roots entities) : Forest Joins' n roots entities := by
  induction h with
  | nil => exact .nil
  | cons id_eq children_eq joins _ _ ihbelow ihrest =>
    exact .cons id_eq children_eq (himp _ _ joins) ihbelow ihrest

theorem map_id (h : Forest Joins n roots entities) :
    entities.map Entity.id = List.range' n entities.length := by
  induction h with
  | nil => rfl
  | @cons n e children below roots rest id_eq children_eq joins hbelow hrest ihbelow ihrest =>
    rw [List.map_cons, List.map_append, id_eq, ihbelow, ihrest, List.range'_append_1,
      List.length_cons, List.length_append, List.range'_succ]

theorem grove (h : Forest Joins n roots entities) : Grove Joins roots entities := by
  induction h with
  | nil => exact .nil
  | cons id_eq children_eq joins _ _ ihbelow ihrest => exact .cons children_eq joins ihbelow ihrest

end Forest

/-! ## The tree of a forest -/

namespace EntityTree

/-- A tree that is listed in pre-order: numbers are positions, and walking from the root meets each
entity once, in the order of the numbers. The parent of an entity is the one that lists it as a
child, no entity is listed twice, and only the root is not listed. -/
structure IsPreordered (tree : EntityTree) : Prop where
  ids : tree.entities.map Entity.id = List.range tree.size
  walk : tree.walk tree.root = tree.entities
  parent : ∀ e ∈ tree.entities, ∀ p,
    e.parent = some p ↔ ∃ d, tree.get? p = some d ∧ e.id ∈ d.children
  root : ∀ e ∈ tree.entities, e.parent = none ↔ e.id = tree.root
  nodup : (tree.entities.flatMap Entity.children).Nodup

theorem IsPreordered.get?_id {tree : EntityTree} (h : tree.IsPreordered) {e : Entity}
    (he : e ∈ tree.entities) : tree.get? e.id = some e :=
  getElem?_id_of_numbered (numbered_iff_map_id.2 h.ids) he

/-- The code files in tree order are all entities that are code, in the order of the numbers. -/
theorem IsPreordered.filterMap_codeFiles {tree : EntityTree} (h : tree.IsPreordered) :
    tree.codeFiles.filterMap tree.get? = tree.entities.filter Entity.isCode := by
  rw [codeFiles, h.walk, List.filterMap_map]
  refine Eq.trans (List.filterMap_congr fun e he => ?_) List.filterMap_some
  exact h.get?_id (List.mem_filter.1 he).1

/-- The tree of some entities below a root, each with its parent. -/
def ofForest (root : Entity) (entities : List Entity) : EntityTree :=
  ⟨root.id, entities.map (withParent entities)⟩

variable {entities : List Entity}

@[simp] theorem id_withParent (e : Entity) : (withParent entities e).id = e.id := rfl

@[simp] theorem path_withParent (e : Entity) : (withParent entities e).path = e.path := rfl

@[simp] theorem children_withParent (e : Entity) :
    (withParent entities e).children = e.children := rfl

theorem parent_withParent {e : Entity} (h : e.parent = none) :
    (withParent entities e).parent = parentOf? entities e.id := by
  rw [withParent, h, Option.or_none]

theorem eq_of_mem_children (hnodup : (entities.flatMap Entity.children).Nodup) {d d' : Entity}
    (hd : d ∈ entities) (hd' : d' ∈ entities) {child : EntityId} (h : child ∈ d.children)
    (h' : child ∈ d'.children) : d = d' := by
  have hsymm : Std.Symm (Function.onFun List.Disjoint Entity.children) :=
    ⟨fun _ _ h _ ha ha' => h ha' ha⟩
  by_contra hne
  exact (List.nodup_flatMap.1 hnodup).2.forall hd hd' hne h h'

/-- Where no child is listed twice, the parent of an entity is the one that lists it. -/
theorem parentOf?_eq_some (hnodup : (entities.flatMap Entity.children).Nodup) {child p : EntityId} :
    parentOf? entities child = some p ↔ ∃ d ∈ entities, d.id = p ∧ child ∈ d.children := by
  rw [parentOf?, Option.map_eq_some_iff]
  constructor
  · rintro ⟨d, hlast, hid⟩
    obtain ⟨hmem, hchild⟩ := List.mem_filter.1 (List.mem_of_getLast? hlast)
    exact ⟨d, hmem, hid, List.contains_iff_mem.1 hchild⟩
  · rintro ⟨d, hmem, hid, hchild⟩
    have hfilter : d ∈ entities.filter (·.children.contains child) :=
      List.mem_filter.2 ⟨hmem, List.contains_iff_mem.2 hchild⟩
    obtain ⟨last, hlast⟩ := Option.isSome_iff_exists.1
      (List.getLast?_isSome.2 (List.ne_nil_of_mem hfilter))
    obtain ⟨hmem', hchild'⟩ := List.mem_filter.1 (List.mem_of_getLast? hlast)
    obtain rfl := eq_of_mem_children hnodup hmem hmem' hchild (List.contains_iff_mem.1 hchild')
    exact ⟨d, hlast, hid⟩

theorem parentOf?_eq_none {child : EntityId} :
    parentOf? entities child = none ↔ child ∉ entities.flatMap Entity.children := by
  rw [parentOf?, Option.map_eq_none_iff, List.getLast?_eq_none_iff, List.filter_eq_nil_iff]
  simp

end EntityTree

namespace Forest

variable {Joins : Entity → List Entity → Prop} {root : Entity} {entities : List Entity}

theorem numbered (h : Forest Joins 0 [root] entities) : EntityTree.numbered entities := by
  rw [EntityTree.numbered_iff_map_id, h.map_id, List.range_eq_range']

theorem nodup_children (h : Forest Joins 0 [root] entities) :
    (root.id :: entities.flatMap Entity.children).Nodup := by
  rw [← List.singleton_append, ← List.map_singleton, h.grove.perm_children.nodup_iff, h.map_id]
  exact List.nodup_range'

/-- The entities of a forest with one top are taken as a tree. -/
theorem ofEntities?_eq (h : Forest Joins 0 [root] entities) :
    EntityTree.ofEntities? root.id entities = some (.ofForest root entities) := by
  have hsorted : entities.mergeSort (fun a b => a.id ≤ b.id) = entities := by
    apply List.mergeSort_of_pairwise
    have hpairwise : (entities.map Entity.id).Pairwise (· < ·) := by
      rw [h.map_id]
      exact List.pairwise_lt_range'
    refine (List.pairwise_map.1 hpairwise).imp fun hlt => ?_
    exact decide_eq_true (Nat.le_of_lt hlt)
  have hmem {k : Nat} (hk : k ∈ root.id :: entities.flatMap Entity.children) :
      k < entities.length := by
    rw [← List.singleton_append, ← List.map_singleton, h.grove.perm_children.mem_iff, h.map_id,
      List.mem_range'_1] at hk
    omega
  refine EntityTree.ofEntities?_eq_some_iff.2
    ⟨entities, hsorted, h.numbered, hmem List.mem_cons_self, fun e he k hk => ?_, rfl⟩
  exact hmem (List.mem_cons_of_mem _ (List.mem_flatMap.2 ⟨e, he, hk⟩))

theorem get?_ofForest (h : Forest Joins 0 [root] entities) {e : Entity} (he : e ∈ entities) :
    (EntityTree.ofForest root entities).get? e.id = some (EntityTree.withParent entities e) := by
  rw [EntityTree.get?, EntityTree.ofForest, List.getElem?_map,
    EntityTree.getElem?_id_of_numbered h.numbered he, Option.map_some]

theorem walk_ofForest (h : Forest Joins 0 [root] entities) :
    (EntityTree.ofForest root entities).walk root.id =
      (EntityTree.ofForest root entities).entities := by
  have hsize : (EntityTree.ofForest root entities).size = entities.length := List.length_map ..
  have hwalk := h.grove.flatMap_below (fun e _ => EntityTree.children_withParent e)
    (fun _ => h.get?_ofForest) (Nat.le_of_eq hsize.symm)
  rw [List.map_singleton, List.flatMap_singleton] at hwalk
  exact hwalk

theorem flatMap_children_ofForest (root : Entity) (entities : List Entity) :
    (EntityTree.ofForest root entities).entities.flatMap Entity.children =
      entities.flatMap Entity.children := by
  rw [EntityTree.ofForest, List.flatMap_map]
  rfl

theorem isPreordered_ofForest (h : Forest Joins 0 [root] entities)
    (hparent : ∀ e ∈ entities, e.parent = none) :
    (EntityTree.ofForest root entities).IsPreordered := by
  obtain ⟨hroot, hnodup⟩ := List.nodup_cons.1 h.nodup_children
  have hentity {e : Entity} (he : e ∈ (EntityTree.ofForest root entities).entities) :
      e.id ∈ root.id :: entities.flatMap Entity.children ∧
        e.parent = EntityTree.parentOf? entities e.id := by
    obtain ⟨e₀, he₀, rfl⟩ := List.mem_map.1 he
    rw [EntityTree.parent_withParent (hparent e₀ he₀), EntityTree.id_withParent]
    exact ⟨h.grove.perm_children.mem_iff.2 (List.mem_map_of_mem he₀), rfl⟩
  refine ⟨?_, h.walk_ofForest, ?_, ?_, ?_⟩
  · have hids : (EntityTree.ofForest root entities).entities.map Entity.id =
        entities.map Entity.id := by
      rw [EntityTree.ofForest, List.map_map]
      rfl
    rw [hids, h.map_id, EntityTree.size, EntityTree.ofForest, List.length_map,
      List.range_eq_range']
  · intro e he p
    rw [(hentity he).2, EntityTree.parentOf?_eq_some hnodup]
    constructor
    · rintro ⟨d, hd, rfl, hchild⟩
      exact ⟨_, h.get?_ofForest hd, hchild⟩
    · rintro ⟨d, hd, hchild⟩
      rw [EntityTree.get?, EntityTree.ofForest, List.getElem?_map] at hd
      obtain ⟨d₀, hd₀, rfl⟩ := Option.map_eq_some_iff.1 hd
      exact ⟨d₀, List.mem_of_getElem? hd₀, EntityTree.numbered_iff.1 h.numbered p d₀ hd₀, hchild⟩
  · intro e he
    obtain ⟨hid, hparent⟩ := hentity he
    rw [hparent, EntityTree.parentOf?_eq_none]
    constructor
    · intro hnot
      exact (List.mem_cons.1 hid).resolve_right hnot
    · intro hid
      rw [hid]
      exact hroot
  · rw [flatMap_children_ofForest]
    exact hnodup

/-- The children of an entity in the tree are those that it is joined with. -/
theorem exists_children_ofForest (h : Forest Joins 0 [root] entities) {e : Entity}
    (he : e ∈ entities) :
    ∃ children, (∀ child ∈ children, child ∈ entities) ∧ Joins e children ∧
      (EntityTree.ofForest root entities).children e.id =
        children.map (EntityTree.withParent entities) := by
  obtain ⟨children, hmem, hchildren, hjoins⟩ := h.grove.exists_children he
  refine ⟨children, hmem, hjoins, ?_⟩
  rw [EntityTree.children, h.get?_ofForest he]
  simp only
  rw [EntityTree.children_withParent, hchildren, List.filterMap_map, ← List.filterMap_eq_map]
  exact List.filterMap_congr fun child hchild => h.get?_ofForest (hmem child hchild)

end Forest

end SourceAtlas
