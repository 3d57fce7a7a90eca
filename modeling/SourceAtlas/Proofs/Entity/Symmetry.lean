import Mathlib.Data.List.Basic
import SourceAtlas.Entity.Tree
import SourceAtlas.Proofs.Entity.Merging

/-!
# Dependencies on both of their ends

A tree that starts without edges is, after any sequence of calls that add some, determined by the
calls that it admitted: each entity has the merged facts of the admitted calls from it as its
dependencies, and those of the admitted calls to it as its dependants. So the two ends of a
dependency always tell the same, and nothing else in the tree has changed.
-/

namespace SourceAtlas

/-- An entity without its edges. -/
def Entity.unlinked (e : Entity) : Entity := { e with dependencies := [], dependants := [] }

namespace EntityTree

/-- Adds edges, each from its source, one after the other. The calls that the tree admitted are
returned too. -/
def addAll (tree : EntityTree) :
    List (EntityId × Edge) → EntityTree × List (EntityId × Edge)
  | [] => (tree, [])
  | call :: calls =>
    let (after, admitted) := (tree.addDependency call.1 call.2).addAll calls
    (after, if tree.admits call.1 call.2.entity then call :: admitted else admitted)

/-- The source has an edge with these facts towards the target. -/
def DependsOn (tree : EntityTree) (source target : EntityId) (facts : List Fact) : Prop :=
  ∃ e, tree.get? source = some e ∧ ⟨target, facts⟩ ∈ e.dependencies

/-- The target has an edge with these facts from the source. -/
def IsNeededBy (tree : EntityTree) (target source : EntityId) (facts : List Fact) : Prop :=
  ∃ e, tree.get? target = some e ∧ ⟨source, facts⟩ ∈ e.dependants

/-- The facts of the calls from a source to a target, in the order of the calls. -/
def factsBetween (calls : List (EntityId × Edge)) (source target : EntityId) : List Fact :=
  (calls.filter fun call => call.1 == source && call.2.entity == target).flatMap (·.2.facts)

/-! ## The tree that calls lead to -/

/-- What the calls from a source say of their targets. -/
def outgoing (calls : List (EntityId × Edge)) (source : EntityId) : List (EntityId × List Fact) :=
  (calls.filter (·.1 == source)).map fun call => (call.2.entity, call.2.facts)

/-- What the calls to a target say of their sources. -/
def incoming (calls : List (EntityId × Edge)) (target : EntityId) : List (EntityId × List Fact) :=
  (calls.filter (·.2.entity == target)).map fun call => (call.1, call.2.facts)

theorem mem_outgoing {calls : List (EntityId × Edge)} {source target : EntityId}
    {facts : List Fact} :
    (target, facts) ∈ outgoing calls source ↔ (source, ⟨target, facts⟩) ∈ calls := by
  rw [outgoing, List.mem_map]
  constructor
  · rintro ⟨⟨_, _⟩, hcall, heq⟩
    cases heq
    obtain ⟨hmem, hsource⟩ := List.mem_filter.1 hcall
    rwa [← beq_iff_eq.1 hsource]
  · intro hcall
    exact ⟨_, List.mem_filter.2 ⟨hcall, beq_self_eq_true source⟩, rfl⟩

theorem outgoing_concat (calls : List (EntityId × Edge)) (call : EntityId × Edge)
    (source : EntityId) :
    Edge.collect (outgoing (calls ++ [call]) source) =
      if call.1 = source then
        Edge.merge call.2.entity call.2.facts (Edge.collect (outgoing calls source))
      else Edge.collect (outgoing calls source) := by
  rw [outgoing, List.filter_append, List.map_append]
  by_cases h : call.1 = source
  · simp [h, Edge.collect_concat, outgoing]
  · simp [h, outgoing]

theorem incoming_concat (calls : List (EntityId × Edge)) (call : EntityId × Edge)
    (target : EntityId) :
    Edge.collect (incoming (calls ++ [call]) target) =
      if call.2.entity = target then
        Edge.merge call.1 call.2.facts (Edge.collect (incoming calls target))
      else Edge.collect (incoming calls target) := by
  rw [incoming, List.filter_append, List.map_append]
  by_cases h : call.2.entity = target
  · simp [h, Edge.collect_concat, incoming]
  · simp [h, incoming]

/-- The tree with the edges of some calls, in place of those it has. -/
def linkedBy (tree : EntityTree) (calls : List (EntityId × Edge)) : EntityTree :=
  { tree with
    entities := tree.entities.mapIdx fun k e =>
      { e with
        dependencies := Edge.collect (outgoing calls k)
        dependants := Edge.collect (incoming calls k) } }

theorem size_linkedBy (tree : EntityTree) (calls : List (EntityId × Edge)) :
    (tree.linkedBy calls).size = tree.size := List.length_mapIdx

theorem admits_linkedBy (tree : EntityTree) (calls : List (EntityId × Edge))
    (source target : EntityId) :
    (tree.linkedBy calls).admits source target = tree.admits source target := by
  rw [admits, size_linkedBy, admits]

theorem get?_linkedBy (tree : EntityTree) (calls : List (EntityId × Edge)) (k : EntityId) :
    (tree.linkedBy calls).get? k =
      (tree.get? k).map fun e =>
        { e with
          dependencies := Edge.collect (outgoing calls k)
          dependants := Edge.collect (incoming calls k) } := by
  rw [get?, linkedBy, List.getElem?_mapIdx]
  rfl

theorem addDependency_of_not_admits {tree : EntityTree} {source : EntityId} {edge : Edge}
    (h : tree.admits source edge.entity = false) : tree.addDependency source edge = tree := by
  rw [addDependency, h]
  rfl

/-- One more admitted call. -/
theorem addDependency_linkedBy {tree : EntityTree} {call : EntityId × Edge}
    (h : tree.admits call.1 call.2.entity) (calls : List (EntityId × Edge)) :
    (tree.linkedBy calls).addDependency call.1 call.2 = tree.linkedBy (calls ++ [call]) := by
  rw [addDependency, admits_linkedBy, if_pos h]
  refine congrArg (EntityTree.mk tree.root) (List.ext_getElem? fun k => ?_)
  simp only [modify, linkedBy, List.getElem?_modify, List.getElem?_mapIdx, outgoing_concat,
    incoming_concat]
  cases tree.entities[k]? with
  | none => rfl
  | some e =>
    by_cases hs : call.1 = k <;> by_cases ht : call.2.entity = k <;> simp [hs, ht]

theorem addAll_linkedBy (tree : EntityTree) (prior calls : List (EntityId × Edge)) :
    (tree.linkedBy prior).addAll calls =
      (tree.linkedBy (prior ++ calls.filter fun call => tree.admits call.1 call.2.entity),
        calls.filter fun call => tree.admits call.1 call.2.entity) := by
  induction calls generalizing prior with
  | nil => rw [List.filter_nil, List.append_nil, addAll]
  | cons call calls ih =>
    rw [addAll, admits_linkedBy]
    by_cases h : tree.admits call.1 call.2.entity
    · rw [addDependency_linkedBy h, ih]
      simp [h]
    · rw [addDependency_of_not_admits (by rw [admits_linkedBy]; simpa using h), ih]
      simp [h]

/-- A tree without edges. -/
def IsUnlinked (tree : EntityTree) : Prop :=
  ∀ e ∈ tree.entities, e.dependencies = [] ∧ e.dependants = []

theorem IsUnlinked.unlinked_eq {tree : EntityTree} (h : tree.IsUnlinked) {e : Entity}
    (he : e ∈ tree.entities) : e.unlinked = e := by
  obtain ⟨hdependencies, hdependants⟩ := h e he
  obtain ⟨⟩ := e
  cases hdependencies
  cases hdependants
  rfl

theorem linkedBy_nil {tree : EntityTree} (h : tree.IsUnlinked) : tree.linkedBy [] = tree := by
  refine congrArg (EntityTree.mk tree.root) (List.ext_getElem? fun k => ?_)
  rw [List.getElem?_mapIdx]
  cases hk : tree.entities[k]? with
  | none => rfl
  | some e => exact congrArg some (h.unlinked_eq (List.mem_of_getElem? hk))

theorem unlinked_linkedBy {tree : EntityTree} (h : tree.IsUnlinked)
    (calls : List (EntityId × Edge)) :
    (tree.linkedBy calls).entities.map Entity.unlinked = tree.entities := by
  refine List.ext_getElem? fun k => ?_
  rw [linkedBy, List.getElem?_map, List.getElem?_mapIdx, Option.map_map]
  cases hk : tree.entities[k]? with
  | none => rfl
  | some e => exact congrArg some (h.unlinked_eq (List.mem_of_getElem? hk))

/-- The calls that were admitted determine the tree. -/
theorem addAll_eq {tree : EntityTree} (h : tree.IsUnlinked) (calls : List (EntityId × Edge)) :
    (tree.addAll calls).1 = tree.linkedBy (tree.addAll calls).2 ∧
      (tree.addAll calls).2 = calls.filter fun call => tree.admits call.1 call.2.entity := by
  have hall := addAll_linkedBy tree [] calls
  rw [linkedBy_nil h, List.nil_append] at hall
  rw [hall]
  exact ⟨rfl, rfl⟩

/-! ## What the edges say -/

theorem factsOf_outgoing (calls : List (EntityId × Edge)) (source target : EntityId) :
    Edge.factsOf target (outgoing calls source) = factsBetween calls source target := by
  simp only [Edge.factsOf, outgoing, factsBetween, List.filter_map, List.filter_filter,
    List.flatMap_map, Function.comp_def]
  rw [List.filter_congr fun call _ => Bool.and_comm _ _]

theorem factsOf_incoming (calls : List (EntityId × Edge)) (source target : EntityId) :
    Edge.factsOf source (incoming calls target) = factsBetween calls source target := by
  simp only [Edge.factsOf, incoming, factsBetween, List.filter_map, List.filter_filter,
    List.flatMap_map, Function.comp_def]

/-- What holds of an entity whatever it was before, if it is in the tree. -/
theorem exists_map_get? {tree : EntityTree} {k : EntityId} {f : Entity → Entity}
    {P : Entity → Prop} {Q : Prop} (h : ∀ e, P (f e) ↔ Q) :
    (∃ e, (tree.get? k).map f = some e ∧ P e) ↔ k < tree.size ∧ Q := by
  constructor
  · rintro ⟨e, hget, hp⟩
    obtain ⟨e₀, hget₀, rfl⟩ := Option.map_eq_some_iff.1 hget
    exact ⟨(List.getElem?_eq_some_iff.1 hget₀).1, (h e₀).1 hp⟩
  · rintro ⟨hlt, hq⟩
    exact ⟨_, Option.map_eq_some_iff.2 ⟨_, List.getElem?_eq_getElem hlt, rfl⟩, (h _).2 hq⟩

theorem dependsOn_linkedBy {tree : EntityTree} {calls : List (EntityId × Edge)}
    {source target : EntityId} {facts : List Fact} :
    (tree.linkedBy calls).DependsOn source target facts ↔
      source < tree.size ∧ (∃ call ∈ calls, call.1 = source ∧ call.2.entity = target) ∧
        facts = (factsBetween calls source target).eraseDups := by
  have hmem : target ∈ (outgoing calls source).map Prod.fst ↔
      ∃ call ∈ calls, call.1 = source ∧ call.2.entity = target := by
    simp [outgoing, and_assoc]
  have hedge : (⟨target, facts⟩ : Edge) ∈ Edge.collect (outgoing calls source) ↔
      (∃ call ∈ calls, call.1 = source ∧ call.2.entity = target) ∧
        facts = (factsBetween calls source target).eraseDups := by
    rw [Edge.mem_collect, hmem, factsOf_outgoing]
  rw [DependsOn, get?_linkedBy, ← hedge]
  exact exists_map_get? fun _ => Iff.rfl

theorem isNeededBy_linkedBy {tree : EntityTree} {calls : List (EntityId × Edge)}
    {source target : EntityId} {facts : List Fact} :
    (tree.linkedBy calls).IsNeededBy target source facts ↔
      target < tree.size ∧ (∃ call ∈ calls, call.1 = source ∧ call.2.entity = target) ∧
        facts = (factsBetween calls source target).eraseDups := by
  have hmem : source ∈ (incoming calls target).map Prod.fst ↔
      ∃ call ∈ calls, call.1 = source ∧ call.2.entity = target := by
    simp only [incoming, List.map_map, List.mem_map, List.mem_filter, Function.comp_apply,
      beq_iff_eq]
    exact ⟨fun ⟨call, ⟨hc, ht⟩, hs⟩ => ⟨call, hc, hs, ht⟩,
      fun ⟨call, hc, hs, ht⟩ => ⟨call, ⟨hc, ht⟩, hs⟩⟩
  have hedge : (⟨source, facts⟩ : Edge) ∈ Edge.collect (incoming calls target) ↔
      (∃ call ∈ calls, call.1 = source ∧ call.2.entity = target) ∧
        facts = (factsBetween calls source target).eraseDups := by
    rw [Edge.mem_collect, hmem, factsOf_incoming]
  rw [IsNeededBy, get?_linkedBy, ← hedge]
  exact exists_map_get? fun _ => Iff.rfl

theorem admits_iff {tree : EntityTree} {source target : EntityId} :
    tree.admits source target ↔ source ≠ target ∧ source < tree.size ∧ target < tree.size := by
  simp [admits, and_assoc]

/-- Both ends of a dependency tell the same after any calls, namely the facts of the admitted calls
without repetition. -/
theorem dependencies_mirrored {tree : EntityTree} (h : tree.IsUnlinked)
    (calls : List (EntityId × Edge)) :
    let after := (tree.addAll calls).1
    let admitted := (tree.addAll calls).2
    (∀ e ∈ after.entities,
      (e.dependencies.map Edge.entity).Nodup ∧ (e.dependants.map Edge.entity).Nodup) ∧
    (∀ source target facts,
      after.DependsOn source target facts ↔ after.IsNeededBy target source facts) ∧
    (∀ source target facts, after.DependsOn source target facts →
      source ≠ target ∧ target < after.size) ∧
    (∀ source target facts, after.DependsOn source target facts ↔
      (∃ call ∈ admitted, call.1 = source ∧ call.2.entity = target) ∧
        facts = (factsBetween admitted source target).eraseDups) ∧
    (∀ source edge, after.admits source edge.entity = false →
      after.addDependency source edge = after) ∧
    after.root = tree.root ∧ after.entities.map Entity.unlinked = tree.entities := by
  intro after admitted
  have hafter : after = tree.linkedBy admitted := (addAll_eq h calls).1
  -- Every admitted call joins two different entities of the tree.
  have hends : ∀ call ∈ admitted,
      call.1 ≠ call.2.entity ∧ call.1 < tree.size ∧ call.2.entity < tree.size := by
    intro call hcall
    have hfilter : call ∈ calls.filter fun call => tree.admits call.1 call.2.entity :=
      (addAll_eq h calls).2 ▸ hcall
    exact admits_iff.1 (List.mem_filter.1 hfilter).2
  have hout (source target : EntityId) (facts : List Fact) :
      after.DependsOn source target facts ↔
        (∃ call ∈ admitted, call.1 = source ∧ call.2.entity = target) ∧
          facts = (factsBetween admitted source target).eraseDups := by
    rw [hafter, dependsOn_linkedBy, and_iff_right_iff_imp]
    rintro ⟨⟨call, hcall, rfl, -⟩, -⟩
    exact (hends call hcall).2.1
  have hin (source target : EntityId) (facts : List Fact) :
      after.IsNeededBy target source facts ↔
        (∃ call ∈ admitted, call.1 = source ∧ call.2.entity = target) ∧
          facts = (factsBetween admitted source target).eraseDups := by
    rw [hafter, isNeededBy_linkedBy, and_iff_right_iff_imp]
    rintro ⟨⟨call, hcall, -, rfl⟩, -⟩
    exact (hends call hcall).2.2
  refine ⟨?_, fun s t fs => (hout s t fs).trans (hin s t fs).symm, ?_, hout,
    fun s edge => addDependency_of_not_admits, ?_, ?_⟩
  · intro e he
    rw [hafter] at he
    obtain ⟨k, hk, rfl⟩ := List.mem_mapIdx.1 he
    exact ⟨Edge.nodup_collect _, Edge.nodup_collect _⟩
  · intro s t fs hdepends
    obtain ⟨⟨call, hcall, rfl, rfl⟩, -⟩ := (hout s t fs).1 hdepends
    obtain ⟨hne, -, hlt⟩ := hends call hcall
    rw [hafter, size_linkedBy]
    exact ⟨hne, hlt⟩
  · rw [hafter]
    rfl
  · rw [hafter]
    exact unlinked_linkedBy h admitted

/-- Two files, a repeated fact, a call from a file to itself and edges in both directions. -/
theorem dependencies_mirrored_two_files :
    let tree : EntityTree := ⟨0, [Entity.file 0 ['a'], Entity.file 1 ['b']]⟩
    let fact (name : Text) : Fact := ⟨⟨name, ['r'], 0, false⟩, ['d'], true⟩
    let calls : List (EntityId × Edge) :=
      [(0, ⟨1, [fact ['x'], fact ['x']]⟩), (0, ⟨0, [fact ['z']]⟩), (1, ⟨0, []⟩),
        (0, ⟨1, [fact ['y'], fact ['x']]⟩)]
    tree.IsUnlinked ∧ (tree.addAll calls).1.IsNeededBy 1 0 [fact ['x'], fact ['y']] := by
  intro tree fact calls
  have hunlinked : tree.IsUnlinked := by
    intro e he
    rcases List.mem_cons.1 he with rfl | he
    · exact ⟨rfl, rfl⟩
    · obtain rfl := List.mem_singleton.1 he
      exact ⟨rfl, rfl⟩
  refine ⟨hunlinked, ((dependencies_mirrored hunlinked calls).2.1 0 1 _).1 ?_⟩
  exact ⟨_, rfl, by decide⟩

end EntityTree

end SourceAtlas
