import SourceAtlas.Proofs.Report.EdgeCount
import SourceAtlas.Proofs.Survey.Soundness

/-!
# Edges in reports on surveys

As many edges are listed with their sources as with their targets in the report on a survey. These
are all edges that the report counts, or all but those that only hidden rules have found. This does
not depend on how many workers there are and in which order they find edges, nor on the file system.
-/

namespace SourceAtlas

/-- Merging leaves no edge without facts. -/
theorem Edge.facts_ne_nil_of_mem_collect {portions : List (EntityId × List Fact)}
    (h : ∀ portion ∈ portions, portion.2 ≠ []) {edge : Edge} (hedge : edge ∈ collect portions) :
    edge.facts ≠ [] := by
  obtain ⟨hentity, hfacts⟩ := mem_collect.1 hedge
  obtain ⟨⟨entity, facts⟩, hportion, rfl⟩ := List.mem_map.1 hentity
  obtain ⟨fact, hfact⟩ := List.exists_mem_of_ne_nil facts (h _ hportion)
  rw [hfacts]
  exact List.ne_nil_of_mem (List.mem_eraseDups.2 (mem_factsOf.2 ⟨facts, hportion, hfact⟩))

namespace Survey

variable {env : Environment} {options : SurveyOptions} {root : Path} {library : RuleLibrary}
  {tree : EntityTree}

theorem IsFound.facts_ne_nil {scanned : EntityTree} {index : IdentifierIndex}
    {call : EntityId × Edge} (h : IsFound env scanned index call)
    (hnumbered : scanned.IsNumbered) : call.2.facts ≠ [] := by
  obtain ⟨session, s, h⟩ := h
  rw [edgesFrom] at h
  split at h
  · cases h
  · rename_i e hget
    split at h
    · cases h
    · exact (Extraction.justifies_dependencies hnumbered hget call.2 h).ne_nil

theorem SurveysTo.edgesAgree (h : SurveysTo env options root library (IsFound env) tree) :
    tree.EdgesAgree := by
  obtain ⟨listing, scanned, index, admitted, -, hscans, rfl, hadmitted⟩ := h.exists_linkedBy
  -- That there is a grove is enough here, whatever was listed.
  obtain ⟨top, entities, hgrove, hscanned, hid, -⟩ :=
    hscans.exists_grove_stems (fun _ => True) (fun _ _ _ _ _ _ => trivial) trivial
  have hplaces := hscanned.linkedBy admitted
  refine ⟨(hplaces.visits_walk hgrove hid).2, EntityTree.perm_edgesAt hplaces.isNumbered ?_
    (EntityTree.dependsOn_iff_isNeededBy fun call hcall => (hadmitted call hcall).2), ?_⟩
  · intro e he
    obtain ⟨k, hk, rfl⟩ := List.mem_mapIdx.1 he
    exact ⟨Edge.nodup_collect _, Edge.nodup_collect _⟩
  · intro e he edge hedge
    obtain ⟨k, hk, rfl⟩ := List.mem_mapIdx.1 he
    refine Edge.facts_ne_nil_of_mem_collect ?_ hedge
    rintro ⟨target, facts⟩ hportion
    exact (hadmitted _ (EntityTree.mem_outgoing.1 hportion)).1.facts_ne_nil hscanned.isNumbered

/-- The report on a survey lists as many edges with their targets as with their sources, and counts
more than these by the edges with hidden facts only, unless hidden facts are shown. This is so for
every tree that workers may come to, by whatever rules they find edges, and so for that of a
run. -/
theorem report_edges_listed (env : Environment) (options : SurveyOptions) (root : Path)
    (s : Session) (showHidden : Bool) :
    (∀ tree s', run env options root s = .ok (tree, s') →
      SurveysTo env options root s.library (IsFound env) tree) ∧
    ∀ library tree, SurveysTo env options root library (IsFound env) tree →
      let report := Report.ofTree tree showHidden
      report.listed Report.Entry.dependants = report.listed Report.Entry.dependencies ∧
        report.edges = report.listed Report.Entry.dependencies +
          if showHidden then 0 else tree.hiddenEdgeCount := by
  refine ⟨fun tree s' h => ?_, fun library tree h => ?_⟩
  · exact (linksTo_run h).mono fun _ _ _ hfound => hfound.isFound
  · have hagree := h.edgesAgree
    exact ⟨Report.listed_dependants_ofTree hagree, Report.edges_ofTree hagree⟩

namespace Muted

/-- A hidden rule for uses, and one that is not hidden. -/
def rules : RuleSet :=
  ⟨[], [], [⟨['r'], .identifiers, .pattern ['+'], [], none, false, false⟩,
    ⟨['u'], .dependencies, .pattern ['-'], [], none, true, false⟩,
    ⟨['v'], .dependencies, .pattern ['*'], [], none, false, false⟩]⟩

def project (files : List (Text × Node)) : Environment :=
  ⟨.beginnings, ⟨.directory files, ['/']⟩,
    ⟨[(['L'], ⟨['L'], [[]], Entity.defaultColor, true⟩)], [([], ['L'])]⟩, unstopped⟩

def session : Session := Session.start ⟨['/'], [(['L'], rules)]⟩ (.ofCapacity 1)

/-- The edges that the report on files counts, and those that it lists on each side. -/
def counts (files : List (Text × Node)) : Option (Nat × Nat × Nat) :=
  (run (project files) ⟨fun _ => false, false⟩ ['/'] session).toOption.map fun result =>
    let report := Report.ofTree result.1 false
    (report.edges, report.listed Report.Entry.dependencies, report.listed Report.Entry.dependants)

theorem exists_run {files : List (Text × Node)} {edges dependencies dependants : Nat}
    (h : counts files = some (edges, dependencies, dependants)) :
    ∃ tree s', run (project files) ⟨fun _ => false, false⟩ ['/'] session = .ok (tree, s') ∧
      (Report.ofTree tree false).edges = edges ∧
      (Report.ofTree tree false).listed Report.Entry.dependencies = dependencies ∧
      (Report.ofTree tree false).listed Report.Entry.dependants = dependants := by
  rw [counts] at h
  cases hrun : run (project files) ⟨fun _ => false, false⟩ ['/'] session with
  | error error =>
    rw [hrun] at h
    cases h
  | ok result =>
    obtain ⟨tree, s'⟩ := result
    rw [hrun] at h
    cases h
    exact ⟨tree, s', rfl, rfl, rfl, rfl⟩

end Muted

section

open Muted

/-- One file uses another one by the hidden rule alone. The report counts the edge and lists it on
neither end. -/
theorem hidden_edge_counted_not_listed :
    ∃ tree s', run (project [(['a'], .file [43, 120]), (['b'], .file [45, 120])])
        ⟨fun _ => false, false⟩ ['/'] session = .ok (tree, s') ∧
      (Report.ofTree tree false).edges = 1 ∧
      (Report.ofTree tree false).listed Report.Entry.dependencies = 0 ∧
      (Report.ofTree tree false).listed Report.Entry.dependants = 0 := by
  refine exists_run ?_
  set_option maxRecDepth 2000 in cbv

/-- A second file uses it by both rules, so that this edge is listed. -/
theorem report_edges_listed_both_rules :
    ∃ tree s', run (project [(['a'], .file [43, 120]), (['b'], .file [45, 120]),
        (['c'], .file [45, 120, 10, 42, 120])]) ⟨fun _ => false, false⟩ ['/'] session =
          .ok (tree, s') ∧
      (Report.ofTree tree false).edges = 2 ∧
      (Report.ofTree tree false).listed Report.Entry.dependants = 1 ∧
      tree.hiddenEdgeCount = 1 ∧
      (Report.ofTree tree true).listed Report.Entry.dependants = 2 := by
  have hcounts : counts [(['a'], .file [43, 120]), (['b'], .file [45, 120]),
      (['c'], .file [45, 120, 10, 42, 120])] = some (2, 1, 1) := by
    set_option maxRecDepth 2000 in cbv
  obtain ⟨tree, s', hrun, hedges, hdependencies, hdependants⟩ := exists_run hcounts
  refine ⟨tree, s', hrun, hedges, hdependants, ?_⟩
  obtain ⟨hlinks, hcounted⟩ := report_edges_listed _ _ _ session false
  obtain ⟨-, hshown⟩ := report_edges_listed _ _ _ session true
  obtain ⟨-, hhidden⟩ := hcounted _ tree (hlinks tree s' hrun)
  obtain ⟨hboth, hall⟩ := hshown _ tree (hlinks tree s' hrun)
  rw [hedges, hdependencies] at hhidden
  have htwo : (Report.ofTree tree true).edges = 2 := hedges
  rw [htwo, if_pos rfl, Nat.add_zero] at hall
  exact ⟨(Nat.add_left_cancel hhidden).symm, hboth.trans hall.symm⟩

end

end Survey

end SourceAtlas
