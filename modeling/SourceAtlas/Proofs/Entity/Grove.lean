import Mathlib.Data.List.Nodup
import Mathlib.Data.List.Pairwise
import SourceAtlas.Proofs.Entity.Tree

/-!
# Entities listed depth first

The entities of a grove are listed depth first: each one comes before those below it, and these come
before its next sibling. Nothing is said of their numbers. A tree that has these entities under
their numbers is walked in the order of the list.
-/

namespace SourceAtlas

/-- The entities of a grove, depth first, with the entities at its top. Each entity lists the
numbers of its children, and is related to them by `Joins`. -/
inductive Grove (Joins : Entity → List Entity → Prop) : List Entity → List Entity → Prop
  | nil : Grove Joins [] []
  | cons {e : Entity} {children below roots rest : List Entity}
      (children_eq : e.children = children.map Entity.id) (joins : Joins e children)
      (hbelow : Grove Joins children below) (hrest : Grove Joins roots rest) :
      Grove Joins (e :: roots) (e :: (below ++ rest))

/-- What is met when the entities under some numbers are visited in order, each one before those
below it. -/
inductive EntityTree.Visits (tree : EntityTree) : List EntityId → List Entity → Prop
  | nil : Visits tree [] []
  | cons {id : EntityId} {e : Entity} {ids : List EntityId} {below rest : List Entity}
      (get : tree.get? id = some e) (hbelow : Visits tree e.children below)
      (hrest : Visits tree ids rest) : Visits tree (id :: ids) (e :: (below ++ rest))

namespace Grove

variable {Joins : Entity → List Entity → Prop} {roots entities : List Entity}

/-- Every entity is at the top or the child of one entity, and of one only. -/
theorem perm_children (h : Grove Joins roots entities) :
    (roots.map Entity.id ++ entities.flatMap Entity.children).Perm (entities.map Entity.id) := by
  induction h with
  | nil => exact .nil
  | @cons e children below roots rest children_eq joins hbelow hrest ihbelow ihrest =>
    rw [List.map_cons, List.cons_append, List.map_cons, List.map_append, List.flatMap_cons,
      List.flatMap_append, children_eq, ← List.append_assoc (children.map Entity.id)]
    refine List.Perm.cons _ ((List.perm_append_comm_assoc _ _ _).trans ?_)
    exact ihbelow.append ihrest

theorem mem_of_mem_roots (h : Grove Joins roots entities) {e : Entity} (he : e ∈ roots) :
    e ∈ entities := by
  induction h with
  | nil => exact he
  | cons children_eq joins hbelow hrest ihbelow ihrest =>
    rcases List.mem_cons.1 he with rfl | he
    · exact List.mem_cons_self
    · exact List.mem_cons_of_mem _ (List.mem_append_right _ (ihrest he))

theorem exists_children (h : Grove Joins roots entities) {e : Entity} (he : e ∈ entities) :
    ∃ children, (∀ child ∈ children, child ∈ entities) ∧ e.children = children.map Entity.id ∧
      Joins e children := by
  induction h with
  | nil => cases he
  | @cons top children below roots rest children_eq joins hbelow hrest ihbelow ihrest =>
    rcases List.mem_cons.1 he with rfl | he
    · refine ⟨children, fun child hchild => ?_, children_eq, joins⟩
      exact List.mem_cons_of_mem _ (List.mem_append_left _ (hbelow.mem_of_mem_roots hchild))
    · rcases List.mem_append.1 he with he | he
      · obtain ⟨children', hmem, hrest'⟩ := ihbelow he
        refine ⟨children', fun child hchild => ?_, hrest'⟩
        exact List.mem_cons_of_mem _ (List.mem_append_left _ (hmem child hchild))
      · obtain ⟨children', hmem, hrest'⟩ := ihrest he
        refine ⟨children', fun child hchild => ?_, hrest'⟩
        exact List.mem_cons_of_mem _ (List.mem_append_right _ (hmem child hchild))

/-- Every entity is at the top or among the children of another. -/
theorem mem_roots_or_child (h : Grove Joins roots entities) {e : Entity} (he : e ∈ entities) :
    e ∈ roots ∨ ∃ d ∈ entities, ∃ children, Joins d children ∧ e ∈ children := by
  induction h with
  | nil => cases he
  | @cons top children below roots rest children_eq joins hbelow hrest ihbelow ihrest =>
    rcases List.mem_cons.1 he with rfl | he
    · exact .inl List.mem_cons_self
    · rcases List.mem_append.1 he with he | he
      · rcases ihbelow he with hchild | ⟨d, hd, hjoins⟩
        · exact .inr ⟨top, List.mem_cons_self, children, joins, hchild⟩
        · exact .inr ⟨d, List.mem_cons_of_mem _ (List.mem_append_left _ hd), hjoins⟩
      · rcases ihrest he with hroot | ⟨d, hd, hjoins⟩
        · exact .inl (List.mem_cons_of_mem _ hroot)
        · exact .inr ⟨d, List.mem_cons_of_mem _ (List.mem_append_right _ hd), hjoins⟩

/-- What holds at the top and passes from every entity to its children holds of all entities. -/
theorem forall_of_children (h : Grove Joins roots entities) {P : Entity → Prop}
    (hroots : ∀ root ∈ roots, P root)
    (hchildren : ∀ e children, Joins e children → P e → ∀ child ∈ children, P child) :
    ∀ e ∈ entities, P e := by
  induction h with
  | nil => exact hroots
  | @cons top children below roots rest children_eq joins hbelow hrest ihbelow ihrest =>
    obtain ⟨htop, hroots⟩ := List.forall_mem_cons.1 hroots
    refine List.forall_mem_cons.2 ⟨htop, List.forall_mem_append.2 ⟨?_, ihrest hroots⟩⟩
    exact ihbelow (hchildren top children joins htop)

/-! ## Walks -/

section

variable {tree : EntityTree} {place : Entity → Entity}

theorem visits (h : Grove Joins roots entities)
    (hplace : ∀ e ∈ entities, (place e).children = e.children)
    (hget : ∀ e ∈ entities, tree.get? e.id = some (place e)) :
    tree.Visits (roots.map Entity.id) (entities.map place) := by
  induction h with
  | nil => exact .nil
  | @cons e children below roots rest children_eq joins hbelow hrest ihbelow ihrest =>
    obtain ⟨hplacee, hplace⟩ := List.forall_mem_cons.1 hplace
    obtain ⟨hgete, hget⟩ := List.forall_mem_cons.1 hget
    obtain ⟨hplacebelow, hplacerest⟩ := List.forall_mem_append.1 hplace
    obtain ⟨hgetbelow, hgetrest⟩ := List.forall_mem_append.1 hget
    rw [List.map_cons, List.map_cons, List.map_append]
    refine .cons hgete ?_ (ihrest hplacerest hgetrest)
    rw [hplacee, children_eq]
    exact ihbelow hplacebelow hgetbelow

/-- Walking down from the top meets all entities in order. -/
theorem flatMap_below (h : Grove Joins roots entities)
    (hplace : ∀ e ∈ entities, (place e).children = e.children)
    (hget : ∀ e ∈ entities, tree.get? e.id = some (place e)) {depth : Nat}
    (hdepth : entities.length ≤ depth) :
    (roots.map Entity.id).flatMap (tree.below depth) = entities.map place := by
  induction h generalizing depth with
  | nil => rfl
  | @cons e children below roots rest children_eq joins hbelow hrest ihbelow ihrest =>
    rw [List.length_cons, List.length_append] at hdepth
    obtain ⟨depth, rfl⟩ : ∃ d, depth = d + 1 := ⟨depth - 1, by omega⟩
    obtain ⟨hplacee, hplace⟩ := List.forall_mem_cons.1 hplace
    obtain ⟨hgete, hget⟩ := List.forall_mem_cons.1 hget
    obtain ⟨hplacebelow, hplacerest⟩ := List.forall_mem_append.1 hplace
    obtain ⟨hgetbelow, hgetrest⟩ := List.forall_mem_append.1 hget
    rw [List.map_cons, List.flatMap_cons, ihrest hplacerest hgetrest (by omega), EntityTree.below,
      hgete]
    simp only
    rw [hplacee, children_eq, ihbelow hplacebelow hgetbelow (by omega), List.map_cons,
      List.map_append, List.cons_append]

end

/-! ## Keys that grow downwards -/

/-- Neither of two lists begins with the other. -/
def Diverge {κ : Type} (a b : List κ) : Prop := ¬ a <+: b ∧ ¬ b <+: a

theorem diverge_concat {κ : Type} (front : List κ) {a b : κ} (h : a ≠ b) :
    Diverge (front ++ [a]) (front ++ [b]) := by
  constructor
  · intro hstart
    simpa [h] using (List.prefix_append_right_inj front).1 hstart
  · intro hstart
    simpa [h.symm] using (List.prefix_append_right_inj front).1 hstart

theorem not_diverge {κ : Type} {a b l : List κ} (ha : a <+: l) (hb : b <+: l) :
    ¬ Diverge a b := by
  rintro ⟨hab, hba⟩
  rcases List.prefix_or_prefix_of_prefix ha hb with h | h
  · exact hab h
  · exact hba h

variable {κ : Type} {key : Entity → List κ}

/-- If the keys of children go on from the key of their parent, each with another step, then
different entities have different keys. -/
theorem nodup_keys (h : Grove Joins roots entities)
    (hkeys : ∀ e children, Joins e children →
      ∃ steps : List κ, steps.Nodup ∧ children.map key = steps.map fun step => key e ++ [step])
    (hroots : (roots.map key).Pairwise Diverge) :
    (entities.map key).Nodup ∧ ∀ e ∈ entities, ∃ root ∈ roots, key root <+: key e := by
  induction h with
  | nil => exact ⟨.nil, by simp⟩
  | @cons top children below roots rest children_eq joins hbelow hrest ihbelow ihrest =>
    obtain ⟨steps, hsteps, hchildren⟩ := hkeys top children joins
    have hdiverge : (children.map key).Pairwise Diverge := by
      rw [hchildren, List.pairwise_map]
      exact hsteps.imp fun hne => diverge_concat _ hne
    obtain ⟨htop, hroots⟩ := List.pairwise_cons.1 hroots
    obtain ⟨hnodup, hunder⟩ := ihbelow hdiverge
    obtain ⟨hnodup', hunder'⟩ := ihrest hroots
    have hlonger {e : Entity} (he : e ∈ below) : key top <+: key e ∧ key e ≠ key top := by
      obtain ⟨child, hchild, hstart⟩ := hunder e he
      obtain ⟨step, -, hstep⟩ := List.mem_map.1 (hchildren ▸ List.mem_map_of_mem hchild)
      rw [← hstep] at hstart
      refine ⟨(List.prefix_append _ _).trans hstart, ?_⟩
      intro heq
      have hlength := hstart.length_le
      rw [heq, List.length_append, List.length_singleton] at hlength
      omega
    have hapart {e : Entity} (he : e ∈ rest) {l : List κ} (hl : key top <+: l) : key e ≠ l := by
      obtain ⟨root, hroot, hstart⟩ := hunder' e he
      rintro rfl
      exact not_diverge hl hstart (htop _ (List.mem_map_of_mem hroot))
    constructor
    · rw [List.map_cons, List.map_append, List.nodup_cons, List.nodup_append]
      refine ⟨?_, hnodup, hnodup', ?_⟩
      · intro hmem
        rcases List.mem_append.1 hmem with hmem | hmem
        · obtain ⟨e, he, heq⟩ := List.mem_map.1 hmem
          exact (hlonger he).2 heq
        · obtain ⟨e, he, heq⟩ := List.mem_map.1 hmem
          exact hapart he (List.prefix_refl _) heq
      · rintro _ hmem _ hmem' rfl
        obtain ⟨e, he, heq⟩ := List.mem_map.1 hmem
        obtain ⟨e', he', heq'⟩ := List.mem_map.1 hmem'
        exact hapart he' (hlonger he).1 (heq'.trans heq.symm)
    · intro e he
      rcases List.mem_cons.1 he with rfl | he
      · exact ⟨_, List.mem_cons_self, List.prefix_refl _⟩
      · rcases List.mem_append.1 he with he | he
        · exact ⟨top, List.mem_cons_self, (hlonger he).1⟩
        · obtain ⟨root, hroot, hstart⟩ := hunder' e he
          exact ⟨root, List.mem_cons_of_mem _ hroot, hstart⟩

end Grove

end SourceAtlas
