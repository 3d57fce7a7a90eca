import SourceAtlas.Proofs.Entity.Adoption

/-!
# Numbered trees

In a tree that is made of entities each of them is found under its number, as it was given but for
its parent. What is met on a walk is in the tree.
-/

namespace SourceAtlas.EntityTree

/-- The entity at each position has the position as its number. -/
def IsNumbered (tree : EntityTree) : Prop := ∀ k e, tree.get? k = some e → e.id = k

theorem numbered_iff {entities : List Entity} :
    numbered entities ↔ ∀ k (e : Entity), entities[k]? = some e → e.id = k := by
  rw [numbered, List.all_eq_true]
  constructor
  · intro h k e hk
    exact beq_iff_eq.1 (h (e, k) (List.mem_zipIdx_iff_getElem?.2 hk))
  · rintro h ⟨e, k⟩ hmem
    exact beq_iff_eq.2 (h k e (List.mem_zipIdx_iff_getElem?.1 hmem))

theorem numbered_iff_map_id {entities : List Entity} :
    numbered entities ↔ entities.map Entity.id = List.range entities.length := by
  rw [numbered_iff]
  constructor
  · intro h
    apply List.ext_getElem?
    intro k
    rw [List.getElem?_map]
    cases hk : entities[k]? with
    | none => rw [Option.map_none, List.getElem?_eq_none (by simpa using hk)]
    | some e =>
      rw [Option.map_some, h k e hk, List.getElem?_range (List.getElem?_eq_some_iff.1 hk).1]
  · intro h k e hk
    have hid := congrArg (·[k]?) h
    simp only [List.getElem?_map, hk, Option.map_some] at hid
    rw [List.getElem?_range (List.getElem?_eq_some_iff.1 hk).1] at hid
    exact Option.some.inj hid

theorem getElem?_id_of_numbered {entities : List Entity} (h : numbered entities) {e : Entity}
    (he : e ∈ entities) : entities[e.id]? = some e := by
  obtain ⟨k, hk⟩ := List.mem_iff_getElem?.1 he
  rw [numbered_iff.1 h k e hk]
  exact hk

/-! ## Trees of entities -/

/-- An entity with the parent that it has in a list of entities. -/
def withParent (entities : List Entity) (e : Entity) : Entity :=
  { e with parent := (parentOf? entities e.id).or e.parent }

theorem placedBy_parentOf? {entities : List Entity} (h : numbered entities) :
    placedBy (parentOf? entities) entities = entities.map (withParent entities) := by
  apply List.ext_getElem?
  intro k
  rw [getElem?_placedBy, List.getElem?_map]
  cases hk : entities[k]? with
  | none => rfl
  | some e => simp [withParent, numbered_iff.1 h k e hk]

/-- A tree is made of entities whose numbers are their positions once they are in order, if the root
and all children are among them. Each has the last one that lists it as its parent. -/
theorem ofEntities?_eq_some_iff {root : EntityId} {entities : List Entity} {tree : EntityTree} :
    ofEntities? root entities = some tree ↔
      ∃ sorted, entities.mergeSort (fun a b => a.id ≤ b.id) = sorted ∧ numbered sorted ∧
        root < sorted.length ∧ (∀ e ∈ sorted, ∀ child ∈ e.children, child < sorted.length) ∧
        tree = ⟨root, sorted.map (withParent sorted)⟩ := by
  simp only [ofEntities?, exists_eq_left']
  generalize entities.mergeSort (fun a b => a.id ≤ b.id) = sorted
  have hall : (sorted.all fun e => e.children.all (· < sorted.length)) ↔
      ∀ e ∈ sorted, ∀ child ∈ e.children, child < sorted.length := by
    simp
  rw [adoptAll?_eq, ← hall]
  by_cases hnumbered : numbered sorted
  · by_cases hchildren : sorted.all fun e => e.children.all (· < sorted.length)
    · simp [hnumbered, hchildren, placedBy_parentOf? hnumbered, eq_comm]
    · simp [hchildren]
  · simp [hnumbered]

/-- The entities of a tree are the given ones in the order of their numbers, each with a parent. -/
theorem ofEntities?_eq_some {root : EntityId} {entities : List Entity} {tree : EntityTree}
    (h : ofEntities? root entities = some tree) :
    ∃ sorted : List Entity, (∀ e, e ∈ sorted ↔ e ∈ entities) ∧ numbered sorted ∧
      ∃ place : Entity → Entity, (∀ e, ∃ parent, place e = { e with parent }) ∧
        tree.entities = sorted.map place := by
  obtain ⟨sorted, rfl, hnumbered, -, -, rfl⟩ := ofEntities?_eq_some_iff.1 h
  exact ⟨_, fun e => List.mem_mergeSort, hnumbered, _, fun e => ⟨_, rfl⟩, rfl⟩

variable {root : EntityId} {entities : List Entity} {tree : EntityTree}

theorem exists_mem_of_get?_ofEntities? (h : ofEntities? root entities = some tree)
    {k : EntityId} {e : Entity} (hk : tree.get? k = some e) :
    ∃ e₀ ∈ entities, e₀.id = k ∧ ∃ parent, e = { e₀ with parent } := by
  obtain ⟨sorted, hmem, hnumbered, place, hplace, htree⟩ := ofEntities?_eq_some h
  rw [get?, htree, List.getElem?_map] at hk
  obtain ⟨e₀, hk₀, rfl⟩ := Option.map_eq_some_iff.1 hk
  have hmem₀ : e₀ ∈ entities := (hmem e₀).1 (List.mem_of_getElem? hk₀)
  exact ⟨e₀, hmem₀, numbered_iff.1 hnumbered k e₀ hk₀, hplace e₀⟩

theorem exists_get?_ofEntities? (h : ofEntities? root entities = some tree) {e : Entity}
    (he : e ∈ entities) : ∃ parent, tree.get? e.id = some { e with parent } := by
  obtain ⟨sorted, hmem, hnumbered, place, hplace, htree⟩ := ofEntities?_eq_some h
  obtain ⟨k, hk⟩ := List.mem_iff_getElem?.1 ((hmem e).2 he)
  obtain rfl := numbered_iff.1 hnumbered k e hk
  obtain ⟨parent, hparent⟩ := hplace e
  refine ⟨parent, ?_⟩
  rw [get?, htree, List.getElem?_map, hk, Option.map_some, hparent]

/-- A tree is made only of entities with different numbers. -/
theorem nodup_map_id_of_ofEntities? (h : ofEntities? root entities = some tree) :
    (entities.map Entity.id).Nodup := by
  obtain ⟨sorted, rfl, hnumbered, -, -, -⟩ := ofEntities?_eq_some_iff.1 h
  rw [← ((List.mergeSort_perm entities _).map Entity.id).nodup_iff,
    numbered_iff_map_id.1 hnumbered]
  exact List.nodup_range

theorem isNumbered_ofEntities? (h : ofEntities? root entities = some tree) : tree.IsNumbered := by
  intro k e hk
  obtain ⟨e₀, -, rfl, parent, rfl⟩ := exists_mem_of_get?_ofEntities? h hk
  rfl

/-! ## Walks -/

theorem exists_get?_of_mem_below {depth : Nat} {id : EntityId} {e : Entity}
    (h : e ∈ tree.below depth id) : ∃ k, tree.get? k = some e := by
  induction depth generalizing id with
  | zero => cases h
  | succ depth ih =>
    rw [below] at h
    split at h
    · rename_i top htop
      rcases List.mem_cons.1 h with rfl | h
      · exact ⟨id, htop⟩
      · obtain ⟨child, -, hchild⟩ := List.mem_flatMap.1 h
        exact ih hchild
    · cases h

theorem IsNumbered.exists_of_mem_codeFiles (hnumbered : tree.IsNumbered) {id : EntityId}
    (h : id ∈ tree.codeFiles) : ∃ e, tree.get? id = some e ∧ e.isCode := by
  obtain ⟨e, he, rfl⟩ := List.mem_map.1 h
  obtain ⟨hwalk, hcode⟩ := List.mem_filter.1 he
  obtain ⟨k, hk⟩ := exists_get?_of_mem_below hwalk
  obtain rfl := hnumbered k e hk
  exact ⟨e, hk, hcode⟩

end SourceAtlas.EntityTree
