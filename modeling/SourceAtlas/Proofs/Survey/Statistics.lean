import Mathlib.Data.List.Flatten
import SourceAtlas.Proofs.Entity.Statistics
import SourceAtlas.Proofs.Entity.Subtree
import SourceAtlas.Proofs.Survey.Picture

/-!
# Statistics of surveys

The statistics of an entity in a scanned tree tell of all files at and below it, each of them
counted once. So those of a directory are the sums of those of its children.
-/

namespace SourceAtlas

open TypeTotals (amountOf)

namespace EntityTree

/-- What the statistics of an entity tell. A walk from it meets what it holds, each entity once, and
the rows describe what is met. Of a directory, every amount is the sum of those of its children. -/
structure HasStatistics (tree : EntityTree) (id : EntityId) (e : Entity) : Prop where
  visits : tree.Visits [id] (tree.walk id)
  nodup : (tree.walk id).Nodup
  holds : ∀ d, d ∈ tree.walk id ↔ tree.Holds id d
  rows : TypeTotals.Describe (tree.statistics id) (tree.walk id)
  rowSums : e.isDirectory → ∀ (m : Measure) (label : Text),
    amountOf m label (tree.statistics id) =
      (e.children.map fun child => amountOf m label (tree.statistics child)).sum
  totalSums : e.isDirectory → ∀ m : Measure,
    (m.ofRow (.total (tree.statistics id))).toNat =
      (e.children.map fun child => (m.ofRow (.total (tree.statistics child))).toNat).sum

namespace HasSubtrees

variable {tree : EntityTree} (h : tree.HasSubtrees) {id : EntityId} {e : Entity}
  (hget : tree.get? id = some e) (m : Measure)

include h hget

/-- What is not counted of an entity itself is counted of its children. -/
theorem ofFiles_walk {p : Entity → Bool} (hp : ¬ p e) :
    m.ofFiles ((tree.walk id).filter p) =
      (e.children.map fun child => m.ofFiles ((tree.walk child).filter p)).sum := by
  rw [h.walk_eq id e hget, List.filter_cons_of_neg hp, List.filter_flatMap, m.ofFiles_flatMap]

theorem ofFiles_walk_child_le {child : EntityId} (hchild : child ∈ e.children) :
    m.ofFiles ((tree.walk child).filter Entity.isLabelled) ≤
      m.ofFiles ((tree.walk id).filter Entity.isLabelled) := by
  have hsublist : (tree.walk child).Sublist (e.children.flatMap tree.walk) := by
    simpa using (List.singleton_sublist.2 hchild).flatMap tree.walk
  apply m.ofFiles_le_of_sublist
  rw [h.walk_eq id e hget]
  exact (hsublist.cons e).filter Entity.isLabelled

theorem hasStatistics
    (hfits : ∀ m : Measure,
      m.ofFiles ((tree.walk id).filter Entity.isLabelled) < UInt64.size) :
    tree.HasStatistics id e := by
  have htallies (id : EntityId) := TypeTotals.tallies_ofEntities (tree.walk id)
  -- The sums over the files of one child are no larger, so that its amounts are exact as well.
  have hchildren (m : Measure) (child : EntityId) (hchild : child ∈ e.children) :=
    (h.ofFiles_walk_child_le hget m hchild).trans_lt (hfits m)
  refine ⟨h.visits id e hget, h.nodup id e hget, fun d => ?_, (htallies id).describe hfits, ?_, ?_⟩
  · simpa using (h.visits id e hget).mem_iff
  · intro hdirectory m label
    have hnot : ¬ e.hasLabel label := by simp [Entity.hasLabel, hdirectory]
    calc
      amountOf m label (tree.statistics id) =
          m.ofFiles ((tree.walk id).filter (·.hasLabel label)) :=
        (htallies id).amountOf_eq (hfits m) label
      _ = (e.children.map fun child =>
          m.ofFiles ((tree.walk child).filter (·.hasLabel label))).sum :=
        h.ofFiles_walk hget m hnot
      _ = (e.children.map fun child => amountOf m label (tree.statistics child)).sum := by
        refine congrArg List.sum (List.map_congr_left fun child hchild => ?_)
        exact ((htallies child).amountOf_eq (hchildren m child hchild) label).symm
  · intro hdirectory m
    have hnot : ¬ e.isLabelled := by simp [Entity.isLabelled, hdirectory]
    calc
      (m.ofRow (.total (tree.statistics id))).toNat =
          m.ofFiles ((tree.walk id).filter Entity.isLabelled) :=
        (htallies id).toNat_total (hfits m)
      _ = (e.children.map fun child =>
          m.ofFiles ((tree.walk child).filter Entity.isLabelled)).sum :=
        h.ofFiles_walk hget m hnot
      _ = (e.children.map fun child =>
          (m.ofRow (.total (tree.statistics child))).toNat).sum := by
        refine congrArg List.sum (List.map_congr_left fun child hchild => ?_)
        exact ((htallies child).toNat_total (hchildren m child hchild)).symm

end HasSubtrees

end EntityTree

namespace Survey

theorem ScansTo.hasSubtrees {env : Environment} {library : RuleLibrary} {listing : Listing}
    {tree : EntityTree} {index : IdentifierIndex} (h : ScansTo env library listing tree index) :
    tree.HasSubtrees := by
  obtain ⟨top, entities, hgrove, hplaces, -⟩ :=
    h.exists_grove_stems (fun _ => True) (fun _ _ _ _ _ _ => trivial) trivial
  exact hplaces.hasSubtrees hgrove

/-- Statistics tell the truth on any part of a scanned tree, however many workers have made it, as
long as no sum over the files of the part is too large to be counted. -/
theorem scanned_statistics_exact (env : Environment) (options : SurveyOptions) (root : Path)
    (s : Session) :
    (∀ found, scan env options root s = .ok found →
      ∃ listing, rootListing env options root = .ok listing ∧
        ScansTo env s.library listing found.tree found.index) ∧
    ∀ library listing tree index, ScansTo env library listing tree index →
      ∀ id e, tree.get? id = some e →
        (∀ m : Measure,
          m.ofFiles ((tree.walk id).filter Entity.isLabelled) < UInt64.size) →
        tree.HasStatistics id e := by
  refine ⟨fun found hscan => ?_, fun library listing tree index hscans id e hget hfits => ?_⟩
  · obtain ⟨listing, hroot, hscans, -⟩ := scansTo_scan hscan
    exact ⟨listing, hroot, hscans⟩
  · exact hscans.hasSubtrees.hasStatistics hget hfits

namespace Nested

def project : Environment :=
  ⟨fun _ => .ok fun _ => none, ⟨.directory
      [("a.y".toList, .file [120, 10, 120]),
        (['d'], .directory [("b.x".toList, .file [120]), ("c.y".toList, .file [120]),
          (['e'], .file [120])])], ['/']⟩,
    ⟨[(['X'], ⟨['X'], [['x']], Entity.defaultColor, true⟩),
        (['Y'], ⟨['Y'], [['y']], Entity.defaultColor, true⟩)],
      [(['x'], ['X']), (['y'], ['Y'])]⟩, unstopped⟩

def session : Session := Session.start ⟨['/'], []⟩ (.ofCapacity 1)

/-- Whether the root is a directory, the amounts of all files with a label, and the size that the
statistics of the root tell of one label. -/
def counts : Option (Option Bool × List Nat × Nat) :=
  (scan project ⟨fun _ => false, false⟩ ['/'] session).toOption.map fun found =>
    ((found.tree.get? 0).map Entity.isDirectory,
      [Measure.files, .lines, .size].map fun m =>
        m.ofFiles ((found.tree.walk 0).filter Entity.isLabelled),
      amountOf .size ['Y'] (found.tree.statistics 0))

end Nested

section

open Nested

/-- Files of one type at the root and in a directory, next to files of another type and of none. -/
theorem scanned_statistics_exact_nested :
    ∃ found e, scan project ⟨fun _ => false, false⟩ ['/'] session = .ok found ∧
      found.tree.get? 0 = some e ∧ e.isDirectory ∧ found.tree.HasStatistics 0 e ∧
      amountOf .size ['Y'] (found.tree.statistics 0) = 4 := by
  have hcounts : counts = some (some true, [3, 4, 5], 4) := by
    set_option maxRecDepth 2000 in cbv
  obtain ⟨hscans, hstatistics⟩ :=
    scanned_statistics_exact project ⟨fun _ => false, false⟩ ['/'] session
  rw [counts] at hcounts
  cases hscan : scan project ⟨fun _ => false, false⟩ ['/'] session with
  | error error => simp [hscan, Except.toOption] at hcounts
  | ok found =>
    rw [hscan] at hcounts
    simp only [Except.toOption, Option.map_some, Option.some.injEq, Prod.mk.injEq, List.map_cons,
      List.map_nil, List.cons.injEq, and_true, Option.map_eq_some_iff] at hcounts
    obtain ⟨⟨e, hget, hdirectory⟩, ⟨hfiles, hlines, hsize⟩, hamount⟩ := hcounts
    obtain ⟨listing, -, htree⟩ := hscans found hscan
    refine ⟨found, e, rfl, hget, hdirectory, ?_, hamount⟩
    refine hstatistics _ _ _ _ htree 0 e hget fun m => ?_
    cases m
    · rw [hfiles]; decide
    · rw [hlines]; decide
    · rw [hsize]; decide

end

end Survey

end SourceAtlas
