import Mathlib.Algebra.BigOperators.Group.List.Basic
import Mathlib.Algebra.GroupWithZero.Nat
import Mathlib.Data.Prod.Basic
import SourceAtlas.Proofs.Report.Picture

/-!
# Edges in reports

A report has the number of edges of its tree, and lists edges with its entries, once with their
sources and once with their targets. The two lists are of the same length, since every edge has two
ends (`perm_edgesAt`). The number of edges is larger than this length by the edges that have hidden
facts only, unless hidden facts are shown.
-/

namespace SourceAtlas

namespace EntityTree

/-- The edges on one side of the entities, each with the number of its entity. -/
def edgesAt (tree : EntityTree) (side : Entity → List Edge) : List (EntityId × Edge) :=
  tree.entities.flatMap fun e => (side e).map (e.id, ·)

/-- An edge as its other end tells it. -/
def turned (told : EntityId × Edge) : EntityId × Edge := (told.2.entity, ⟨told.1, told.2.facts⟩)

/-- The number of edges that have hidden facts only. -/
def hiddenEdgeCount (tree : EntityTree) : Nat :=
  (tree.edgesAt Entity.dependencies).countP fun told => told.2.facts.all Fact.hidden

variable {tree : EntityTree} {side : Entity → List Edge}

theorem edgeCount_eq (tree : EntityTree) :
    tree.edgeCount = (tree.edgesAt Entity.dependencies).length := by
  rw [edgeCount, edgesAt, ← List.sum_eq_foldr, List.length_flatMap]
  simp only [List.length_map]

theorem countP_edgesAt (p : EntityId × Edge → Bool) :
    (tree.edgesAt side).countP p =
      (tree.entities.map fun e => (side e).countP fun edge => p (e.id, edge)).sum := by
  rw [edgesAt, List.countP_flatMap]
  simp only [Function.comp_def, List.countP_map]

theorem mem_edgesAt (h : tree.IsNumbered) {id : EntityId} {edge : Edge} :
    (id, edge) ∈ tree.edgesAt side ↔ ∃ e, tree.get? id = some e ∧ edge ∈ side e := by
  simp only [edgesAt, List.mem_flatMap, List.mem_map, Prod.mk.injEq]
  constructor
  · rintro ⟨e, he, _, hedge, rfl, rfl⟩
    exact ⟨e, h.get?_id he, hedge⟩
  · rintro ⟨e, hget, hedge⟩
    exact ⟨e, List.mem_of_getElem? hget, edge, hedge, h id e hget, rfl⟩

theorem nodup_edgesAt (h : tree.IsNumbered)
    (hside : ∀ e ∈ tree.entities, ((side e).map Edge.entity).Nodup) :
    (tree.edgesAt side).Nodup := by
  rw [edgesAt, List.nodup_flatMap]
  constructor
  · intro e he
    exact (hside e he).of_map.map (Prod.mk_right_injective e.id)
  · refine (List.pairwise_map.1 h.nodup).imp ?_
    intro e e' hne told htold htold'
    obtain ⟨edge, -, rfl⟩ := List.mem_map.1 htold
    obtain ⟨edge', -, heq⟩ := List.mem_map.1 htold'
    exact hne (congrArg Prod.fst heq).symm

theorem turned_injective : Function.Injective turned := by
  rintro ⟨source, ⟨target, facts⟩⟩ ⟨source', ⟨target', facts'⟩⟩ heq
  cases heq
  rfl

/-- The dependants tell of the same edges as the dependencies, each of them once. -/
theorem perm_edgesAt (h : tree.IsNumbered)
    (hnodup : ∀ e ∈ tree.entities,
      (e.dependencies.map Edge.entity).Nodup ∧ (e.dependants.map Edge.entity).Nodup)
    (hmirrored : ∀ source target facts,
      tree.DependsOn source target facts ↔ tree.IsNeededBy target source facts) :
    (tree.edgesAt Entity.dependencies).Perm ((tree.edgesAt Entity.dependants).map turned) := by
  have hdependencies := nodup_edgesAt h fun e he => (hnodup e he).1
  have hdependants := nodup_edgesAt h fun e he => (hnodup e he).2
  rw [List.perm_ext_iff_of_nodup hdependencies (hdependants.map turned_injective)]
  rintro ⟨source, ⟨target, facts⟩⟩
  calc
    (source, ⟨target, facts⟩) ∈ tree.edgesAt Entity.dependencies
      ↔ tree.DependsOn source target facts := mem_edgesAt h
    _ ↔ tree.IsNeededBy target source facts := hmirrored source target facts
    _ ↔ (target, (⟨source, facts⟩ : Edge)) ∈ tree.edgesAt Entity.dependants :=
      (mem_edgesAt h).symm
    _ ↔ (source, ⟨target, facts⟩) ∈ (tree.edgesAt Entity.dependants).map turned :=
      (List.mem_map_of_injective turned_injective).symm

/-- What counts of edges rest on: a walk from the root meets every entity once, both ends tell of
the same edges, and no edge is without facts. -/
structure EdgesAgree (tree : EntityTree) : Prop where
  walk : (tree.walk tree.root).Perm tree.entities
  ends : (tree.edgesAt Entity.dependencies).Perm ((tree.edgesAt Entity.dependants).map turned)
  facts : ∀ e ∈ tree.entities, ∀ edge ∈ e.dependencies, edge.facts ≠ []

end EntityTree

namespace Report

/-- The number of edges that are listed on one side of the entries. -/
def listed (report : Report) (side : Entry → List Edge) : Nat :=
  (report.entries.map fun entry => (side entry).length).sum

/-- Whether some fact of an edge is shown. -/
def isListed (showHidden : Bool) (edge : SourceAtlas.Edge) : Bool :=
  edge.facts.any fun fact => showHidden || !fact.hidden

variable {tree : EntityTree} {showHidden : Bool}

theorem length_ofEdges (edges : List SourceAtlas.Edge) :
    (ofEdges tree showHidden edges).length = edges.countP (isListed showHidden) := by
  rw [ofEdges, List.length_filterMap_eq_countP]
  refine List.countP_congr fun edge _ => ?_
  cases hshown : shownFacts showHidden edge with
  | nil =>
    have hnone : isListed showHidden edge = false :=
      List.any_eq_false.2 (List.filter_eq_nil_iff.1 hshown)
    simp [hnone]
  | cons fact others =>
    have hfact : fact ∈ shownFacts showHidden edge := hshown ▸ List.mem_cons_self
    have hsome : isListed showHidden edge = true :=
      List.any_eq_true.2 ⟨fact, List.mem_filter.1 hfact⟩
    simp [hsome]

/-- The edges that are listed are those of the tree that have a fact to show, on either side. -/
theorem listed_ofTree (h : tree.EdgesAgree) {shown : Entry → List Edge}
    {side : Entity → List SourceAtlas.Edge}
    (hside : ∀ e, shown (ofEntity tree showHidden e) = ofEdges tree showHidden (side e)) :
    (ofTree tree showHidden).listed shown =
      (tree.edgesAt side).countP fun told => isListed showHidden told.2 := by
  rw [EntityTree.countP_edgesAt, ← (h.walk.map _).sum_eq, listed, ofTree, List.map_map]
  refine congrArg List.sum (List.map_congr_left fun e _ => ?_)
  rw [Function.comp_apply, hside, length_ofEdges]

/-- As many edges are listed with their targets as with their sources. -/
theorem listed_dependants_ofTree (h : tree.EdgesAgree) :
    (ofTree tree showHidden).listed Entry.dependants =
      (ofTree tree showHidden).listed Entry.dependencies := by
  rw [listed_ofTree h fun _ => rfl, listed_ofTree h fun _ => rfl, h.ends.countP_eq,
    List.countP_map]
  rfl

/-- The edges that are not listed are those with hidden facts only, if hidden facts are not
shown. -/
theorem countP_not_isListed (h : tree.EdgesAgree) :
    (tree.edgesAt Entity.dependencies).countP (fun told => !isListed showHidden told.2) =
      if showHidden then 0 else tree.hiddenEdgeCount := by
  cases showHidden with
  | false => simp [isListed, EntityTree.hiddenEdgeCount, List.all_eq_not_any_not]
  | true =>
    rw [if_pos rfl, List.countP_eq_zero]
    intro told htold
    obtain ⟨e, he, htold⟩ := List.mem_flatMap.1 htold
    obtain ⟨edge, hedge, rfl⟩ := List.mem_map.1 htold
    obtain ⟨fact, hfact⟩ := List.exists_mem_of_ne_nil _ (h.facts e he edge hedge)
    simpa [isListed] using ⟨fact, hfact⟩

/-- Every edge is counted, whether it is listed or not. -/
theorem edges_ofTree (h : tree.EdgesAgree) :
    (ofTree tree showHidden).edges =
      (ofTree tree showHidden).listed Entry.dependencies +
        if showHidden then 0 else tree.hiddenEdgeCount := by
  calc
    tree.edgeCount
      = (tree.edgesAt Entity.dependencies).length := tree.edgeCount_eq
    _ = (tree.edgesAt Entity.dependencies).countP (fun told => isListed showHidden told.2) +
        (tree.edgesAt Entity.dependencies).countP (fun told => !isListed showHidden told.2) := by
      rw [List.length_eq_countP_add_countP fun told => isListed showHidden told.2]
      simp only [Bool.not_eq_true, Bool.decide_eq_false]
    _ = (ofTree tree showHidden).listed Entry.dependencies +
        if showHidden then 0 else tree.hiddenEdgeCount := by
      rw [listed_ofTree h fun _ => rfl, countP_not_isListed h]

end Report

end SourceAtlas
