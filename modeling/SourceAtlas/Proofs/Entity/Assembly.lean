import Mathlib.Data.List.Permutation
import Mathlib.Order.Bounds.Basic
import SourceAtlas.Proofs.Entity.Forest

/-!
# Trees of entities in any order

Whether there is a tree of some entities, and which one, does not depend on the order in which they
are given. There is one exactly if their numbers are those below their count and the root and all
children are among them (`IsComplete`). The parent of an entity is then the one with the greatest
number that lists it.
-/

namespace SourceAtlas.EntityTree

/-- The numbers of entities are those below their count, and the root and all children have such
numbers. -/
structure IsComplete (root : EntityId) (entities : List Entity) : Prop where
  ids : (entities.map Entity.id).Perm (List.range entities.length)
  root : root < entities.length
  children : ∀ e ∈ entities, ∀ child ∈ e.children, child < entities.length

/-- The numbers of the entities that list a child. -/
def listers (entities : List Entity) (child : EntityId) : Set EntityId :=
  {k | ∃ d ∈ entities, d.id = k ∧ child ∈ d.children}

variable {root : EntityId} {entities entities' : List Entity} {tree : EntityTree}

theorem IsComplete.perm (h : IsComplete root entities) (hperm : entities.Perm entities') :
    IsComplete root entities' := by
  have hlength := hperm.length_eq
  refine ⟨?_, hlength ▸ h.root, fun e he => ?_⟩
  · rw [← hlength]
    exact (hperm.map Entity.id).symm.trans h.ids
  · rw [← hlength]
    exact h.children e (hperm.mem_iff.2 he)

/-! ## Sorting -/

theorem pairwise_mergeSort_id (entities : List Entity) :
    (entities.mergeSort fun a b => a.id ≤ b.id).Pairwise fun a b => a.id ≤ b.id := by
  have hsorted : (entities.mergeSort fun a b => a.id ≤ b.id).Pairwise
      fun a b => decide (a.id ≤ b.id) := by
    apply List.pairwise_mergeSort
    · intro a b c hab hbc
      exact decide_eq_true (Nat.le_trans (of_decide_eq_true hab) (of_decide_eq_true hbc))
    · intro a b
      simpa using Nat.le_total a.id b.id
  exact hsorted.imp of_decide_eq_true

theorem numbered_mergeSort_iff :
    numbered (entities.mergeSort fun a b => a.id ≤ b.id) ↔
      (entities.map Entity.id).Perm (List.range entities.length) := by
  have hperm := (List.mergeSort_perm entities fun a b => a.id ≤ b.id).map Entity.id
  rw [numbered_iff_map_id, List.length_mergeSort]
  constructor
  · intro h
    exact h ▸ hperm.symm
  · intro h
    have hsorted := List.pairwise_map.2 (pairwise_mergeSort_id entities)
    have hrange : (List.range entities.length).Pairwise (· ≤ ·) :=
      List.pairwise_lt_range.imp Nat.le_of_lt
    exact (hperm.trans h).eq_of_pairwise (fun a b _ _ => Nat.le_antisymm) hsorted hrange

/-- Entities with different numbers come to the same order, whatever order they are in. -/
theorem mergeSort_eq_of_perm (hnodup : (entities.map Entity.id).Nodup)
    (hperm : entities'.Perm entities) :
    (entities'.mergeSort fun a b => a.id ≤ b.id) = entities.mergeSort fun a b => a.id ≤ b.id := by
  have hsame := ((List.mergeSort_perm entities' fun a b => a.id ≤ b.id).trans hperm).trans
    (List.mergeSort_perm entities fun a b => a.id ≤ b.id).symm
  refine hsame.eq_of_pairwise ?_ (pairwise_mergeSort_id entities') (pairwise_mergeSort_id entities)
  intro a b ha hb hab hba
  have ha : a ∈ entities := hperm.mem_iff.1 (List.mem_mergeSort.1 ha)
  have hb : b ∈ entities := List.mem_mergeSort.1 hb
  exact List.inj_on_of_nodup_map hnodup ha hb (Nat.le_antisymm hab hba)

/-! ## Parents -/

theorem mem_listers {child k : EntityId} :
    k ∈ listers entities child ↔ ∃ d ∈ entities, d.id = k ∧ child ∈ d.children :=
  Iff.rfl

theorem parentOf?_eq_none_iff {child : EntityId} :
    parentOf? entities child = none ↔ listers entities child = ∅ := by
  rw [parentOf?_eq_none, Set.eq_empty_iff_forall_notMem]
  simp only [List.mem_flatMap, mem_listers]
  constructor
  · rintro hnone k ⟨d, hd, -, hchild⟩
    exact hnone ⟨d, hd, hchild⟩
  · rintro hempty ⟨d, hd, hchild⟩
    exact hempty d.id ⟨d, hd, rfl, hchild⟩

/-- Of entities in the order of their numbers, the last one that lists a child has the greatest
number. -/
theorem isGreatest_parentOf? (h : entities.Pairwise fun a b => a.id < b.id) {child p : EntityId}
    (hp : parentOf? entities child = some p) : IsGreatest (listers entities child) p := by
  induction entities with
  | nil => cases hp
  | cons d entities ih =>
    obtain ⟨hd, hentities⟩ := List.pairwise_cons.1 h
    rw [parentOf?_cons] at hp
    cases hlater : parentOf? entities child with
    | some q =>
      rw [hlater, Option.some_or] at hp
      cases hp
      obtain ⟨⟨last, hlast, rfl, hchild⟩, hbound⟩ := ih hentities hlater
      refine ⟨⟨last, List.mem_cons_of_mem _ hlast, rfl, hchild⟩, ?_⟩
      rintro k ⟨e, he, rfl, hlists⟩
      rcases List.mem_cons.1 he with rfl | he
      · exact Nat.le_of_lt (hd last hlast)
      · exact hbound ⟨e, he, rfl, hlists⟩
    | none =>
      rw [hlater, Option.none_or, Option.ite_none_right_eq_some] at hp
      obtain ⟨hchild, heq⟩ := hp
      cases heq
      refine ⟨⟨d, List.mem_cons_self, rfl, hchild⟩, ?_⟩
      rintro k ⟨e, he, rfl, hlists⟩
      rcases List.mem_cons.1 he with rfl | he
      · exact Nat.le_refl _
      · exact absurd (List.mem_flatMap.2 ⟨e, he, hlists⟩) (parentOf?_eq_none.1 hlater)

theorem parentOf?_eq_some_iff_isGreatest (h : entities.Pairwise fun a b => a.id < b.id)
    {child p : EntityId} :
    parentOf? entities child = some p ↔ IsGreatest (listers entities child) p := by
  refine ⟨isGreatest_parentOf? h, fun hp => ?_⟩
  cases hparent : parentOf? entities child with
  | some q => rw [(isGreatest_parentOf? h hparent).unique hp]
  | none =>
    have hempty := parentOf?_eq_none_iff.1 hparent
    exact absurd hp.1 (hempty ▸ Set.notMem_empty p)

/-! ## Trees -/

theorem ofEntities?_isSome_iff :
    (ofEntities? root entities).isSome ↔ IsComplete root entities := by
  rw [Option.isSome_iff_exists]
  constructor
  · rintro ⟨tree, htree⟩
    obtain ⟨sorted, rfl, hnumbered, hroot, hchildren, -⟩ := ofEntities?_eq_some_iff.1 htree
    rw [List.length_mergeSort] at hroot hchildren
    exact ⟨numbered_mergeSort_iff.1 hnumbered, hroot,
      fun e he => hchildren e (List.mem_mergeSort.2 he)⟩
  · intro h
    refine ⟨_, ofEntities?_eq_some_iff.2 ⟨_, rfl, numbered_mergeSort_iff.2 h.ids, ?_, ?_, rfl⟩⟩
    · rw [List.length_mergeSort]
      exact h.root
    · rw [List.length_mergeSort]
      exact fun e he => h.children e (List.mem_mergeSort.1 he)

/-- The order in which entities are given has no part in their tree. -/
theorem ofEntities?_eq_of_perm (root : EntityId) (hperm : entities'.Perm entities) :
    ofEntities? root entities' = ofEntities? root entities := by
  by_cases h : IsComplete root entities
  · have hnodup : (entities.map Entity.id).Nodup := h.ids.nodup_iff.2 List.nodup_range
    unfold ofEntities?
    rw [mergeSort_eq_of_perm hnodup hperm]
  · have h' : ¬ IsComplete root entities' := fun h' => h (h'.perm hperm)
    rw [← ofEntities?_isSome_iff, Option.not_isSome_iff_eq_none] at h h'
    rw [h, h']

theorem exists_sorted_of_ofEntities? (h : ofEntities? root entities = some tree) :
    ∃ sorted, sorted.Perm entities ∧ (sorted.Pairwise fun a b => a.id < b.id) ∧
      numbered sorted ∧ tree = ⟨root, sorted.map (withParent sorted)⟩ := by
  obtain ⟨sorted, rfl, hnumbered, -, -, htree⟩ := ofEntities?_eq_some_iff.1 h
  refine ⟨_, List.mergeSort_perm _ _, ?_, hnumbered, htree⟩
  rw [← List.pairwise_map, numbered_iff_map_id.1 hnumbered]
  exact List.pairwise_lt_range

theorem listers_eq_of_perm (hperm : entities'.Perm entities) (child : EntityId) :
    listers entities' child = listers entities child := by
  ext k
  simp only [mem_listers, hperm.mem_iff]

/-- New entities in whatever order make a tree exactly if they are complete. It has every entity
under its number, as it was given, but with the entity of the greatest number that lists it as its
parent. -/
theorem ofEntities?_determined_by_set (root : EntityId) {entities : List Entity}
    (hnew : ∀ e ∈ entities, e.parent = none) :
    ((ofEntities? root entities).isSome ↔ IsComplete root entities) ∧
    (∀ entities', entities'.Perm entities →
      ofEntities? root entities' = ofEntities? root entities) ∧
    ∀ tree, ofEntities? root entities = some tree →
      tree.root = root ∧ tree.size = entities.length ∧
      ∀ e ∈ entities, ∃ parent, tree.get? e.id = some { e with parent } ∧
        (∀ p, parent = some p ↔ IsGreatest (listers entities e.id) p) ∧
        (parent = none ↔ listers entities e.id = ∅) := by
  refine ⟨ofEntities?_isSome_iff, fun _ => ofEntities?_eq_of_perm root, fun tree htree => ?_⟩
  obtain ⟨sorted, hperm, hsorted, hnumbered, rfl⟩ := exists_sorted_of_ofEntities? htree
  refine ⟨rfl, ?_, fun e he => ⟨parentOf? sorted e.id, ?_, fun p => ?_, ?_⟩⟩
  · rw [size, List.length_map, hperm.length_eq]
  · have hget := getElem?_id_of_numbered hnumbered (hperm.mem_iff.2 he)
    rw [get?, List.getElem?_map, hget, Option.map_some, withParent, hnew e he, Option.or_none]
  · rw [← listers_eq_of_perm hperm, parentOf?_eq_some_iff_isGreatest hsorted]
  · rw [← listers_eq_of_perm hperm, parentOf?_eq_none_iff]

/-- Entities out of order. The last of three is listed by all of them, itself included. -/
theorem ofEntities?_determined_by_set_shared_child :
    let entities : List Entity :=
      [{ Entity.directory 2 ['c'] with children := [2] },
        { Entity.directory 0 ['a'] with children := [2, 1, 2] },
        { Entity.directory 1 ['b'] with children := [2] }]
    (∀ e ∈ entities, e.parent = none) ∧ IsComplete 0 entities ∧
      ∃ tree, ofEntities? 0 entities = some tree ∧
        tree.entities.map Entity.parent = [none, some 0, some 2] ∧
        IsGreatest (listers entities 2) 2 ∧ listers entities 0 = ∅ := by
  intro entities
  have hnew : ∀ e ∈ entities, e.parent = none := by
    simp [entities, Entity.directory, Entity.blank]
  have hsome : (ofEntities? 0 entities).map (fun tree => tree.entities.map Entity.parent) =
      some [none, some 0, some 2] := by
    cbv
  obtain ⟨hcomplete, -, hparts⟩ := ofEntities?_determined_by_set 0 hnew
  obtain ⟨tree, htree, hparents⟩ := Option.map_eq_some_iff.1 hsome
  obtain ⟨-, -, hplaced⟩ := hparts tree htree
  have hparent {e : Entity} {parent : Option EntityId}
      (hget : tree.get? e.id = some { e with parent }) :
      [none, some 0, some 2][e.id]? = some parent := by
    rw [← hparents, List.getElem?_map, ← get?, hget, Option.map_some]
  refine ⟨hnew, hcomplete.1 (htree ▸ rfl), tree, htree, hparents, ?_, ?_⟩
  · obtain ⟨parent, hget, hgreatest, -⟩ := hplaced _ List.mem_cons_self
    exact (hgreatest 2).1 (Option.some.inj (hparent hget)).symm
  · obtain ⟨parent, hget, -, hnone⟩ := hplaced _ (List.mem_cons_of_mem _ List.mem_cons_self)
    exact hnone.1 (Option.some.inj (hparent hget)).symm

end SourceAtlas.EntityTree
