import SourceAtlas.Proofs.Entity.Traversal

/-!
# Subtrees

In a tree that was made of a grove, every entity is the top of a grove of its own. A walk from it
meets what it holds, each entity once, and consists of the entity and of the walks from its
children.
-/

namespace SourceAtlas

/-- Every entity of a grove is the top of one. -/
theorem Grove.exists_subgrove {Joins : Entity → List Entity → Prop} {roots entities : List Entity}
    (h : Grove Joins roots entities) {e : Entity} (he : e ∈ entities) :
    ∃ subtree, Grove Joins [e] subtree ∧ subtree.Sublist entities := by
  induction h with
  | nil => cases he
  | @cons top children below roots rest children_eq joins hbelow hrest ihbelow ihrest =>
    rcases List.mem_cons.1 he with rfl | he
    · refine ⟨_, .cons children_eq joins hbelow .nil, ?_⟩
      exact (List.Sublist.append_left (List.nil_sublist rest) below).cons_cons e
    · rcases List.mem_append.1 he with he | he
      · obtain ⟨subtree, hgrove, hsublist⟩ := ihbelow he
        exact ⟨subtree, hgrove, (hsublist.trans (List.sublist_append_left _ _)).cons top⟩
      · obtain ⟨subtree, hgrove, hsublist⟩ := ihrest he
        exact ⟨subtree, hgrove, (hsublist.trans (List.sublist_append_right _ _)).cons top⟩

namespace EntityTree

/-- An entity is at a number, or at one that is reached from there from children to children. -/
inductive Holds (tree : EntityTree) : EntityId → Entity → Prop
  | self {id : EntityId} {e : Entity} (get : tree.get? id = some e) : Holds tree id e
  | inside {id child : EntityId} {e d : Entity} (get : tree.get? id = some e)
      (mem : child ∈ e.children) (holds : Holds tree child d) : Holds tree id d

variable {tree : EntityTree} {entities : List Entity}

/-- A visit meets exactly what is held. -/
theorem Visits.mem_iff {ids : List EntityId} (h : tree.Visits ids entities) {d : Entity} :
    d ∈ entities ↔ ∃ id ∈ ids, tree.Holds id d := by
  induction h with
  | nil => simp
  | @cons id e ids below rest get hbelow hrest ihbelow ihrest =>
    have htop : tree.Holds id d ↔ d = e ∨ ∃ child ∈ e.children, tree.Holds child d := by
      constructor
      · intro hd
        cases hd with
        | self get' => exact .inl (Option.some.inj (get'.symm.trans get))
        | inside get' mem holds =>
          obtain rfl := Option.some.inj (get'.symm.trans get)
          exact .inr ⟨_, mem, holds⟩
      · rintro (rfl | ⟨child, hchild, hd⟩)
        · exact .self get
        · exact .inside get hchild hd
    simp only [List.mem_cons, List.mem_append, ihbelow, ihrest, exists_eq_or_imp, htop, or_assoc]

/-- A walk from any entity of the tree is a visit that meets no entity twice. It consists of the
entity and of the walks from its children. -/
structure HasSubtrees (tree : EntityTree) : Prop where
  visits : ∀ id e, tree.get? id = some e → tree.Visits [id] (tree.walk id)
  nodup : ∀ id e, tree.get? id = some e → (tree.walk id).Nodup
  walk_eq : ∀ id e, tree.get? id = some e →
    tree.walk id = e :: e.children.flatMap tree.walk

namespace Places

variable {Joins : Entity → List Entity → Prop} {top : Entity}

/-- Walking from the top of a part of the entities meets this part. -/
theorem flatMap_walk (h : tree.Places entities) {roots subtree : List Entity}
    (hgrove : Grove Joins roots subtree) (hsublist : subtree.Sublist entities) :
    (roots.map Entity.id).flatMap tree.walk = subtree.map tree.placed := by
  refine hgrove.flatMap_below (fun e he => ?_) (fun e he => ?_) ?_
  · exact (h.standsFor_placed (hsublist.subset he)).children_eq
  · exact h.get?_placed (hsublist.subset he)
  · exact h.length_eq ▸ hsublist.length_le

/-- Every entity of the tree is the top of a part of the entities. -/
theorem exists_subtree (h : tree.Places entities) (hgrove : Grove Joins [top] entities)
    {id : EntityId} {placed : Entity} (hget : tree.get? id = some placed) :
    ∃ e subtree, Grove Joins [e] subtree ∧ subtree.Sublist entities ∧ e.id = id ∧
      tree.placed e = placed ∧ tree.walk id = subtree.map tree.placed := by
  obtain ⟨e, he, rfl⟩ := h.only id placed hget
  obtain ⟨subtree, hsub, hsublist⟩ := hgrove.exists_subgrove he
  refine ⟨e, subtree, hsub, hsublist, rfl, ?_, ?_⟩
  · exact Option.some.inj ((h.get?_placed he).symm.trans hget)
  · simpa using h.flatMap_walk hsub hsublist

theorem hasSubtrees (h : tree.Places entities) (hgrove : Grove Joins [top] entities) :
    tree.HasSubtrees := by
  refine ⟨fun id placed hget => ?_, fun id placed hget => ?_, fun id placed hget => ?_⟩
  all_goals
    obtain ⟨e, subtree, hsub, hsublist, rfl, rfl, hwalk⟩ := h.exists_subtree hgrove hget
    rw [hwalk]
  · exact hsub.visits (fun e he => (h.standsFor_placed (hsublist.subset he)).children_eq)
      fun e he => h.get?_placed (hsublist.subset he)
  · have hids : (subtree.map tree.placed).map Entity.id = subtree.map Entity.id := by
      rw [List.map_map]
      exact List.map_congr_left fun e he => (h.standsFor_placed (hsublist.subset he)).id_eq
    exact .of_map Entity.id (hids ▸ h.nodup.sublist (hsublist.map Entity.id))
  · cases hsub with
    | @cons _ children below _ _ children_eq joins hbelow hrest =>
      cases hrest
      rw [List.append_nil] at hsublist ⊢
      have hinside := h.flatMap_walk hbelow ((List.sublist_cons_self e below).trans hsublist)
      have hstands := h.standsFor_placed (hsublist.subset List.mem_cons_self)
      rw [hstands.children_eq, children_eq, hinside, List.map_cons]

end Places

end EntityTree

end SourceAtlas
