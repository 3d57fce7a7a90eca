import SourceAtlas.Proofs.Entity.Traversal
import SourceAtlas.Report.Basic

/-!
# Reports as pictures of trees

A report names entities by their paths alone. It is a picture of its tree if it lists each entity
once, if no two paths in it are the same, and if it tells of each edge on both of its ends with the
same facts.
-/

namespace SourceAtlas.Report

/-- What makes a report a picture of a tree. -/
structure Pictures (report : Report) (tree : EntityTree) (showHidden : Bool) : Prop where
  entries : ∃ visited, tree.Visits [tree.root] visited ∧ visited.Perm tree.entities ∧
    report.entries = visited.map (ofEntity tree showHidden)
  count : report.files + report.directories = report.entries.length
  root : (report.entries.map Entry.path).head? = some ['.']
  distinct : (report.entries.map Entry.path).Nodup
  symmetric : ∀ source target facts,
    (∃ entry ∈ report.entries, entry.path = source ∧ ⟨target, facts⟩ ∈ entry.dependencies) ↔
      ∃ entry ∈ report.entries, entry.path = target ∧ ⟨source, facts⟩ ∈ entry.dependants

variable {tree : EntityTree} {showHidden : Bool}

theorem mem_ofEdges {edges : List SourceAtlas.Edge} {path : Path} {facts : List Fact} :
    ⟨path, facts⟩ ∈ ofEdges tree showHidden edges ↔
      ∃ edge ∈ edges, tree.shownPath edge.entity = path ∧ shownFacts showHidden edge ≠ [] ∧
        (shownFacts showHidden edge).map ofFact = facts := by
  rw [ofEdges, List.mem_filterMap]
  apply exists_congr
  intro edge
  apply and_congr_right
  intro _
  cases hshown : shownFacts showHidden edge with
  | nil => simp
  | cons fact others => simp

theorem shownPath_of_get? {id : EntityId} {e : Entity} (h : tree.get? id = some e) :
    tree.shownPath id = Path.relativeTo tree.rootPath e.path := by
  rw [EntityTree.shownPath, h]

/-- If every edge has one with the same facts at its other end, so has every edge that is shown. -/
theorem exists_shown_back (hnumbered : tree.IsNumbered)
    {edges back : Entity → List SourceAtlas.Edge}
    (hback : ∀ id e, tree.get? id = some e → ∀ edge ∈ edges e,
      ∃ other, tree.get? edge.entity = some other ∧ ⟨id, edge.facts⟩ ∈ back other)
    {e : Entity} (he : e ∈ tree.entities) {path : Path} {facts : List Fact}
    (h : ⟨path, facts⟩ ∈ ofEdges tree showHidden (edges e)) :
    ∃ other ∈ tree.entities, (ofEntity tree showHidden other).path = path ∧
      ⟨(ofEntity tree showHidden e).path, facts⟩ ∈ ofEdges tree showHidden (back other) := by
  obtain ⟨edge, hedge, hpath, hne, hfacts⟩ := mem_ofEdges.1 h
  have hget := hnumbered.get?_id he
  obtain ⟨other, hother, hmem⟩ := hback e.id e hget edge hedge
  refine ⟨other, List.mem_of_getElem? hother, ?_, mem_ofEdges.2 ⟨_, hmem, ?_, hne, hfacts⟩⟩
  · rw [← hpath, shownPath_of_get? hother]
    rfl
  · exact shownPath_of_get? hget

/-- The report on a tree is a picture of it, if a walk meets every entity once, the paths below the
root are different, and both ends of every edge tell the same. -/
theorem pictures_ofTree (showHidden : Bool)
    (hvisits : tree.Visits [tree.root] (tree.walk tree.root))
    (hperm : (tree.walk tree.root).Perm tree.entities) (hnumbered : tree.IsNumbered)
    (hroot : Path.relativeTo tree.rootPath tree.rootPath = ['.'])
    (hpaths : ((tree.walk tree.root).map fun e => Path.relativeTo tree.rootPath e.path).Nodup)
    (hmirrored : ∀ source target facts,
      tree.DependsOn source target facts ↔ tree.IsNeededBy target source facts) :
    (ofTree tree showHidden).Pictures tree showHidden := by
  have hentry {entry : Entry} : entry ∈ (ofTree tree showHidden).entries ↔
      ∃ e ∈ tree.entities, ofEntity tree showHidden e = entry := by
    rw [ofTree, List.mem_map]
    simp only [hperm.mem_iff]
  have hshown : (ofTree tree showHidden).entries.map Entry.path =
      (tree.walk tree.root).map fun e => Path.relativeTo tree.rootPath e.path := List.map_map
  refine ⟨⟨_, hvisits, hperm, rfl⟩, ?_, ?_, ?_, ?_⟩
  · calc
      tree.fileCount + tree.directoryCount
        = tree.directoryCount + tree.fileCount := Nat.add_comm _ _
      _ = tree.entities.length := by
        rw [EntityTree.directoryCount, EntityTree.fileCount,
          List.length_eq_countP_add_countP Entity.isDirectory]
        simp
      _ = (ofTree tree showHidden).entries.length := by
        rw [ofTree, List.length_map, hperm.length_eq]
  · rw [hshown]
    -- The walk starts with the root.
    generalize tree.walk tree.root = visited at hvisits
    cases hvisits with
    | @cons _ e _ _ _ get _ _ =>
      rw [List.map_cons, List.head?_cons, ← hroot]
      rw [EntityTree.rootPath, get, Option.map_some, Option.getD_some]
  · rw [hshown]
    exact hpaths
  · intro source target facts
    constructor
    · rintro ⟨entry, hmem, rfl, hedge⟩
      obtain ⟨e, he, rfl⟩ := hentry.1 hmem
      obtain ⟨other, hother, hpath, hback⟩ := exists_shown_back hnumbered
        (fun id e hget edge hedge => (hmirrored id edge.entity edge.facts).1 ⟨e, hget, hedge⟩)
        he hedge
      exact ⟨_, hentry.2 ⟨other, hother, rfl⟩, hpath, hback⟩
    · rintro ⟨entry, hmem, rfl, hedge⟩
      obtain ⟨e, he, rfl⟩ := hentry.1 hmem
      obtain ⟨other, hother, hpath, hback⟩ := exists_shown_back hnumbered
        (fun id e hget edge hedge => (hmirrored edge.entity id edge.facts).2 ⟨e, hget, hedge⟩)
        he hedge
      exact ⟨_, hentry.2 ⟨other, hother, rfl⟩, hpath, hback⟩

end SourceAtlas.Report
