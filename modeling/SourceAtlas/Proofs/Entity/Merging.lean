import Mathlib.Data.List.Induction
import Mathlib.Data.List.Nodup
import SourceAtlas.Entity.Edge

/-!
# Merged edges

Facts that arrive in portions, each for some entity, are merged into edges. The result is known in
closed form: there is one edge for each entity, in the order in which the entities first occur, and
it holds the facts of the entity in the order in which they first occur.
-/

namespace SourceAtlas.Edge

section EraseDups

variable {α : Type} [BEq α] [LawfulBEq α]

theorem eraseDups_concat [DecidableEq α] (xs : List α) (x : α) :
    (xs ++ [x]).eraseDups = if x ∈ xs then xs.eraseDups else xs.eraseDups ++ [x] := by
  rw [List.eraseDups_append]
  split
  · rename_i hx
    simp [List.removeAll, hx]
  · rename_i hx
    simp [List.removeAll, hx, List.eraseDups_cons]

theorem nodup_eraseDups [DecidableEq α] (xs : List α) : xs.eraseDups.Nodup := by
  induction xs using List.reverseRecOn with
  | nil => simp
  | append_singleton xs x ih =>
    rw [eraseDups_concat]
    split
    · exact ih
    · rename_i hx
      rw [List.nodup_append_comm, List.singleton_append, List.nodup_cons, List.mem_eraseDups]
      exact ⟨hx, ih⟩

end EraseDups

/-! ## The facts of one edge -/

theorem addFact_eq (entity : EntityId) (seen : List Fact) (fact : Fact) :
    addFact ⟨entity, seen.eraseDups⟩ fact = ⟨entity, (seen ++ [fact]).eraseDups⟩ := by
  rw [eraseDups_concat, addFact]
  by_cases hseen : fact ∈ seen <;> simp [hseen]

/-- An edge that holds some facts without repetition goes on doing so. -/
theorem addFacts_eq (entity : EntityId) (seen facts : List Fact) :
    addFacts ⟨entity, seen.eraseDups⟩ facts = ⟨entity, (seen ++ facts).eraseDups⟩ := by
  induction facts generalizing seen with
  | nil =>
    rw [List.append_nil]
    rfl
  | cons fact facts ih =>
    have hrest := ih (seen ++ [fact])
    rw [List.append_assoc, List.singleton_append] at hrest
    rw [← hrest, ← addFact_eq]
    rfl

/-! ## Edges of several entities -/

/-- The facts of an entity among portions of facts, in order. -/
def factsOf (entity : EntityId) (portions : List (EntityId × List Fact)) : List Fact :=
  (portions.filter (·.1 == entity)).flatMap Prod.snd

/-- The edges that portions of facts merge into. -/
def collect (portions : List (EntityId × List Fact)) : List Edge :=
  portions.foldl (fun edges portion => merge portion.1 portion.2 edges) []

theorem collect_concat (portions : List (EntityId × List Fact)) (portion : EntityId × List Fact) :
    collect (portions ++ [portion]) = merge portion.1 portion.2 (collect portions) := by
  rw [collect, List.foldl_concat]
  rfl

theorem factsOf_concat (entity : EntityId) (portions : List (EntityId × List Fact))
    (portion : EntityId × List Fact) :
    factsOf entity (portions ++ [portion]) =
      factsOf entity portions ++ if portion.1 = entity then portion.2 else [] := by
  rw [factsOf, List.filter_append, List.flatMap_append]
  by_cases h : portion.1 = entity <;> simp [factsOf, h]

theorem factsOf_eq_nil {entity : EntityId} {portions : List (EntityId × List Fact)}
    (h : entity ∉ portions.map Prod.fst) : factsOf entity portions = [] := by
  have hfilter : portions.filter (·.1 == entity) = [] := by
    rw [List.filter_eq_nil_iff]
    intro portion hmem heq
    exact h (List.mem_map.2 ⟨portion, hmem, beq_iff_eq.1 heq⟩)
  rw [factsOf, hfilter]
  rfl

theorem mem_factsOf {entity : EntityId} {portions : List (EntityId × List Fact)} {fact : Fact} :
    fact ∈ factsOf entity portions ↔ ∃ facts, (entity, facts) ∈ portions ∧ fact ∈ facts := by
  simp [factsOf]

/-- Merging into edges that are listed by their entities: the edge of the entity is changed in its
place, or a new one is put behind the others. -/
theorem merge_map {entities : List EntityId} (hn : entities.Nodup) (g : EntityId → List Fact)
    (entity : EntityId) (facts : List Fact) :
    merge entity facts (entities.map fun u => ⟨u, g u⟩) =
      if entity ∈ entities then
        entities.map fun u => if u = entity then addFacts ⟨u, g u⟩ facts else ⟨u, g u⟩
      else (entities.map fun u => ⟨u, g u⟩) ++ [addFacts ⟨entity, []⟩ facts] := by
  induction entities with
  | nil => rfl
  | cons u us ih =>
    obtain ⟨hu, hus⟩ := List.nodup_cons.1 hn
    rw [List.map_cons, merge]
    by_cases h : u = entity
    · subst h
      have hrest : (us.map fun v => if v = u then addFacts ⟨v, g v⟩ facts else ⟨v, g v⟩) =
          us.map fun v => ⟨v, g v⟩ := by
        refine List.map_congr_left fun v hv => if_neg ?_
        rintro rfl
        exact hu hv
      rw [if_pos rfl, if_pos List.mem_cons_self, List.map_cons, if_pos rfl, hrest]
    · rw [if_neg h, ih hus]
      by_cases hmem : entity ∈ us
      · rw [if_pos hmem, if_pos (List.mem_cons_of_mem _ hmem), List.map_cons, if_neg h]
      · have hcons : entity ∉ u :: us := by
          rw [List.mem_cons, not_or]
          exact ⟨fun heq => h heq.symm, hmem⟩
        rw [if_neg hmem, if_neg hcons]
        rfl

/-- The edges in closed form. -/
theorem collect_eq (portions : List (EntityId × List Fact)) :
    collect portions =
      (portions.map Prod.fst).eraseDups.map fun entity =>
        ⟨entity, (factsOf entity portions).eraseDups⟩ := by
  induction portions using List.reverseRecOn with
  | nil => rfl
  | append_singleton portions portion ih =>
    obtain ⟨entity, facts⟩ := portion
    rw [collect_concat, ih, merge_map (nodup_eraseDups _), List.map_append, List.map_singleton,
      eraseDups_concat]
    by_cases hmem : entity ∈ portions.map Prod.fst
    · rw [if_pos (List.mem_eraseDups.2 hmem), if_pos hmem]
      refine List.map_congr_left fun u _ => ?_
      rw [factsOf_concat]
      by_cases h : u = entity
      · subst h
        rw [if_pos rfl, if_pos rfl, addFacts_eq]
      · rw [if_neg h, if_neg fun heq => h heq.symm, List.append_nil]
    · have hnew : addFacts ⟨entity, []⟩ facts = ⟨entity, facts.eraseDups⟩ :=
        addFacts_eq entity [] facts
      have hold : ((portions.map Prod.fst).eraseDups.map fun u =>
            (⟨u, (factsOf u (portions ++ [(entity, facts)])).eraseDups⟩ : Edge)) =
          (portions.map Prod.fst).eraseDups.map fun u => ⟨u, (factsOf u portions).eraseDups⟩ := by
        refine List.map_congr_left fun u hu => ?_
        have hne : entity ≠ u := by
          rintro rfl
          exact hmem (List.mem_eraseDups.1 hu)
        rw [factsOf_concat, if_neg hne, List.append_nil]
      rw [if_neg fun h => hmem (List.mem_eraseDups.1 h), if_neg hmem, List.map_append, hold,
        List.map_singleton, factsOf_concat, if_pos rfl, factsOf_eq_nil hmem, List.nil_append, hnew]

theorem nodup_collect (portions : List (EntityId × List Fact)) :
    ((collect portions).map Edge.entity).Nodup := by
  rw [collect_eq, List.map_map]
  exact (List.map_id (portions.map Prod.fst).eraseDups).symm ▸ nodup_eraseDups _

theorem mem_collect {portions : List (EntityId × List Fact)} {edge : Edge} :
    edge ∈ collect portions ↔
      edge.entity ∈ portions.map Prod.fst ∧
        edge.facts = (factsOf edge.entity portions).eraseDups := by
  obtain ⟨entity, facts⟩ := edge
  rw [collect_eq, List.mem_map]
  constructor
  · rintro ⟨u, hu, heq⟩
    cases heq
    exact ⟨List.mem_eraseDups.1 hu, rfl⟩
  · rintro ⟨hmem, hfacts⟩
    exact ⟨entity, List.mem_eraseDups.2 hmem, congrArg (Edge.mk entity) hfacts.symm⟩

end SourceAtlas.Edge
