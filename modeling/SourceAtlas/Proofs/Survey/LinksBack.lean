import SourceAtlas.Proofs.Extraction.RuleMarks
import SourceAtlas.Proofs.Survey.Resolution
import SourceAtlas.Survey.Basic

/-!
# Links from the target

A rule may be made to depend on a link the other way, from the target to the source. The files of a
survey are linked one by one, though, and each of them starts with no record of the others. So such
a condition never holds, not even if the target was linked before and does depend on the source.
-/

namespace SourceAtlas.Survey

open Extraction
open Pattern.Language (beginnings)

section

variable {env : Environment} {library : RuleLibrary} {listing : Listing} {tree : EntityTree}
  {index : IdentifierIndex}

/-- In a tree that was scanned by any number of workers, no dependency pass ever finds that the
target is linked to the source, whatever the other passes have recorded. Hence no rule on this
condition is recorded, and its negation always holds. -/
theorem target_mark_never_holds (h : ScansTo env library listing tree index) {source : EntityId}
    {e : Entity} (he : tree.get? source = some e) (set : RuleSet) {name : Text}
    (hspace : ∀ c ∈ name, ¬ Text.isSpace c) (hmark : ¬ Marker.target.delimiter <:+: name)
    (hvars : ∀ v ∈ e.vars, v.name ≠ Marker.target.wrap name) :
    let s : Surroundings := ⟨env.patterns, e, tree, index⟩
    ∃ applications, s.Performs env.files set applications ∧
      (dependencies env.patterns env.files set tree index source).1.state = s.after applications ∧
      (∀ earlier a later, s.history .empty applications = earlier ++ a :: later →
        Condition.evaluate s.language (s.contextAt earlier a) (Marker.target.wrap name) = false ∧
          (name ≠ [] → Condition.evaluate s.language (s.contextAt earlier a)
            ("not ".toList ++ Marker.target.wrap name))) ∧
      ∀ b ∈ s.records applications, Marker.target.wrap name ∉ b.rule.conditions := by
  intro s
  obtain ⟨applications, hperforms⟩ := s.exists_performs env.files set
  have hmoment : ∀ earlier a later, s.history .empty applications = earlier ++ a :: later →
      a.target.id ≠ s.source.id := by
    intro earlier a later hsplit
    have ha : a ∈ s.history .empty applications := by simp [hsplit]
    exact Surroundings.candidate?_ne_source h.isNumbered (Surroundings.mem_history ha).2
  refine ⟨applications, hperforms, hperforms.state source he, ?_, ?_⟩
  · intro earlier a later hsplit
    have hdiffers := hmoment earlier a later hsplit
    exact ⟨Surroundings.evaluate_target_wrap hdiffers hspace hmark hvars,
      fun hne => Surroundings.evaluate_not_target_wrap hdiffers hne hspace hmark hvars⟩
  · intro b hb hcondition
    obtain ⟨earlier, later, hsplit, hpasses⟩ := Surroundings.exists_moment_of_mem_recorded hb
    have hfails : Condition.evaluate s.language (s.contextAt earlier b)
        (Marker.target.wrap name) = false :=
      Surroundings.evaluate_target_wrap (hmoment earlier b later hsplit) hspace hmark hvars
    have hpasses := Surroundings.failure?_eq_none.1 (Option.isNone_iff_eq_none.1 hpasses)
    exact Bool.eq_false_iff.1 hfails (hpasses _ hcondition)

end

/-! ## Two files that depend on each other -/

namespace Mutual

/-- A rule for uses, and a second one for uses of files that use the source. -/
def rules : RuleSet :=
  ⟨[], [], [⟨['r'], .identifiers, .pattern ['+'], [], none, false, false⟩,
    ⟨['u'], .dependencies, .pattern ['-'], [], none, false, false⟩,
    ⟨['v'], .dependencies, .pattern ['*'], ["!!u!!".toList], none, false, false⟩]⟩

/-- The first file declares `x` and uses `y`, and the second one declares `y` and uses `x`. -/
def files : FileSystem :=
  ⟨.directory [(['a'], .file [43, 120, 10, 45, 121]), (['b'], .file [43, 121, 10, 42, 120])], ['/']⟩

def env : Environment :=
  ⟨beginnings, files, ⟨[(['L'], ⟨['L'], [[]], Entity.defaultColor, true⟩)], [([], ['L'])]⟩,
    unstopped⟩

def session : Session := Session.start ⟨['/'], [(['L'], rules)]⟩ (.ofCapacity 1)

def around (found : Scan) (e : Entity) : Surroundings := ⟨beginnings, e, found.tree, found.index⟩

/-- All that is tried for an entity. -/
def tried (found : Scan) (e : Entity) : List Attempt :=
  (around found e).history .empty
    (Pass.file beginnings files rules .dependencies (dependencySink (around found e)).traced
      (.empty, []) e.path).1.state.2

/-- What is to be seen of the scan: the order of linking, what is found and recorded for the first
file, and what is found and tried for the second one. -/
theorem exists_scan :
    ∃ found e, scan env ⟨fun _ => false, false⟩ ['/'] session = .ok found ∧
      found.tree.codeFiles = [1, 2] ∧
      (edgesFrom env found 1 found.session).1.map Edge.entity = [2] ∧
      (edgesFrom env found 2 found.session).1.map Edge.entity = [] ∧
      (dependencies beginnings files rules found.tree found.index 1).1.state.applied.contains
        1 ['u'] 2 ∧
      found.tree.get? 2 = some e ∧ e.vars = [] ∧
      (tried found e).map (fun a => (a.target.id, Condition.evaluate beginnings
        ((around found e).contextAt [] a) (Marker.target.wrap ['u']))) = [(1, false)] := by
  have hscan : (scan env ⟨fun _ => false, false⟩ ['/'] session).toOption.map (fun found =>
      (found.tree.codeFiles, (edgesFrom env found 1 found.session).1.map Edge.entity,
        (edgesFrom env found 2 found.session).1.map Edge.entity,
        (dependencies beginnings files rules found.tree found.index 1).1.state.applied.contains
          1 ['u'] 2,
        (found.tree.get? 2).map fun e => (e.vars, (tried found e).map fun a =>
          (a.target.id, Condition.evaluate beginnings ((around found e).contextAt [] a)
            (Marker.target.wrap ['u']))))) =
      some ([1, 2], [2], [], true, some ([], [(1, false)])) := by
    set_option maxRecDepth 2000 in cbv
  cases h : scan env ⟨fun _ => false, false⟩ ['/'] session with
  | error error =>
    rw [h] at hscan
    cases hscan
  | ok found =>
    rw [h] at hscan
    simp only [Except.toOption, Option.map_some, Option.some.injEq, Prod.mk.injEq] at hscan
    obtain ⟨hcode, hfirst, hnone, hrecord, hsecond⟩ := hscan
    obtain ⟨e, he, heq⟩ := Option.map_eq_some_iff.1 hsecond
    obtain ⟨hvars, htried⟩ := Prod.mk.inj heq
    exact ⟨found, e, rfl, hcode, hfirst, hnone, hrecord, he, hvars, htried⟩

end Mutual

section

open Mutual

/-- The first file is linked first, and by a rule that the second one asks for when it is tried on
the first. The condition does not hold all the same. -/
theorem target_mark_misses_earlier_link :
    ∃ found e a applications, scan env ⟨fun _ => false, false⟩ ['/'] session = .ok found ∧
      found.tree.codeFiles = [1, 2] ∧
      (edgesFrom env found 1 found.session).1.map Edge.entity = [2] ∧
      (edgesFrom env found 2 found.session).1.map Edge.entity = [] ∧
      (dependencies beginnings files rules found.tree found.index 1).1.state.applied.contains
        1 ['u'] 2 ∧
      found.tree.get? 2 = some e ∧ e.vars = [] ∧
      (around found e).Performs files rules applications ∧
      (around found e).history .empty applications = [a] ∧ a.target.id = 1 ∧
      Condition.evaluate beginnings ((around found e).contextAt [] a)
        (Marker.target.wrap ['u']) = false := by
  obtain ⟨found, e, hscan, hcode, hfirst, hnone, hrecord, he, hvars, htried⟩ := exists_scan
  obtain ⟨applications, hperforms⟩ := (around found e).exists_performs files rules
  obtain ⟨a, ha, heq⟩ := List.map_eq_singleton_iff.1 htried
  obtain ⟨htarget, hevaluate⟩ := Prod.mk.inj heq
  refine ⟨found, e, a, applications, hscan, hcode, hfirst, hnone, hrecord, he, hvars, hperforms, ?_,
    htarget, hevaluate⟩
  rw [← hperforms.carriesOut.traced]
  exact ha

/-- The second file has no link by the rule that asks for a link back. -/
theorem target_mark_never_holds_mutual :
    ∃ found e applications, scan env ⟨fun _ => false, false⟩ ['/'] session = .ok found ∧
      found.tree.get? 2 = some e ∧ (∀ v ∈ e.vars, v.name ≠ Marker.target.wrap ['u']) ∧
      (dependencies beginnings files rules found.tree found.index 2).1.state =
        (around found e).after applications ∧
      ∀ b ∈ (around found e).records applications,
        Marker.target.wrap ['u'] ∉ b.rule.conditions := by
  obtain ⟨found, e, hscan, -, -, -, -, he, hvars, -⟩ := exists_scan
  have hnone : ∀ v ∈ e.vars, v.name ≠ Marker.target.wrap ['u'] := by
    rw [hvars]
    exact List.forall_mem_nil _
  obtain ⟨listing, -, hscans, -⟩ := scansTo_scan hscan
  obtain ⟨applications, -, hstate, -, hrecords⟩ :=
    target_mark_never_holds hscans he rules (List.forall_mem_singleton.2 (by decide)) (by decide)
      hnone
  exact ⟨found, e, applications, hscan, he, hnone, hstate, hrecords⟩

end

end SourceAtlas.Survey
