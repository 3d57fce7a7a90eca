import SourceAtlas.Proofs.Extraction.Resolution
import SourceAtlas.Proofs.Survey.Indexing

/-!
# Resolution in a scanned tree

What is needed to resolve names is true of every scan, whatever the workers did first: the index
lists the identifiers of each name in the order of registration, and tells the owner of each.
-/

namespace SourceAtlas.Survey

open Extraction

variable {env : Environment} {library : RuleLibrary} {listing : Listing} {tree : EntityTree}
  {index : IdentifierIndex}

theorem ScansTo.wellFormed (h : ScansTo env library listing tree index) : index.WellFormed := by
  obtain ⟨events, branch, count, -, hhappens, -⟩ := h
  exact (IdentifierIndex.isKeyed_empty.registers hhappens.registerEach_eq).keyed.toWellFormed

theorem ScansTo.isSound (h : ScansTo env library listing tree index) {source : EntityId}
    {e : Entity} (he : tree.get? source = some e) (language : Pattern.Language) :
    Surroundings.IsSound ⟨language, e, tree, index⟩ := by
  obtain rfl : e.id = source := h.isNumbered source e he
  exact ⟨h.isNumbered, h.wellFormed.byName, fun i hi => (h.isIndexedBy.owner e.id e he i).2 hi⟩

/-- In a tree that was scanned by any number of workers, a dependency pass resolves every name that
a rule captures to its first match. -/
theorem dependencies_resolve_to_first (h : ScansTo env library listing tree index)
    {source : EntityId} {e : Entity} (he : tree.get? source = some e)
    (language : Pattern.Language) (fs : FileSystem) (set : RuleSet) :
    let s : Surroundings := ⟨language, e, tree, index⟩
    ∃ applications, Pass.CarriesOut language fs set .dependencies (dependencySink s) .empty e.path
        applications ∧
      (dependencies language fs set tree index source).1.state = s.after applications ∧
      s.source.id = source ∧ s.ResolvesToFirst applications := by
  intro s
  obtain ⟨applications, happs⟩ :=
    Pass.exists_carriesOut language fs set .dependencies (dependencySink s) .empty e.path
  refine ⟨applications, happs, ?_, h.isNumbered source e he,
    (h.isSound he language).resolvesToFirst applications⟩
  rw [dependencies, he]
  exact happs.state

/-- Three files declare one name, and the second uses it twice, with a rule that links it to no file
twice. The first use resolves to the first file. The second one passes over the first file, which is
linked by then, and over the own identifier of the source. -/
theorem dependencies_resolve_to_first_twice :
    let patterns := Pattern.Language.beginnings
    let rules : RuleSet :=
      ⟨[], [], [⟨['r'], .identifiers, .pattern ['+'], [], none, true, false⟩,
        ⟨['u'], .dependencies, .pattern ['-'], ["not ||u||".toList], none, false, false⟩]⟩
    let files : FileSystem :=
      ⟨.directory [(['a'], .file [43, 120]), (['b'], .file [43, 120, 10, 45, 120, 44, 120]),
        (['c'], .file [43, 120])], ['/']⟩
    let types : FileTypes := ⟨[(['L'], ⟨['L'], [[]], Entity.defaultColor, true⟩)], [([], ['L'])]⟩
    let env : Environment := ⟨patterns, files, types, unstopped⟩
    let session := Session.start ⟨['/'], [(['L'], rules)]⟩ (.ofCapacity 1)
    ∃ found e applications, scan env ⟨fun _ => false, false⟩ ['/'] session = .ok found ∧
      found.tree.get? 2 = some e ∧
      (dependencies patterns files rules found.tree found.index 2).1.state.edges.map
        (fun edge => (edge.entity, edge.facts.map (·.identifier.key))) = [(1, [0]), (3, [3])] ∧
      (dependencies patterns files rules found.tree found.index 2).1.state =
        Surroundings.after ⟨patterns, e, found.tree, found.index⟩ applications ∧
      Surroundings.ResolvesToFirst ⟨patterns, e, found.tree, found.index⟩ applications := by
  intro patterns rules files types env session
  have hsome : (scan env ⟨fun _ => false, false⟩ ['/'] session).toOption.map
      (fun found => ((found.tree.get? 2).isSome,
        (dependencies patterns files rules found.tree found.index 2).1.state.edges.map
          fun edge => (edge.entity, edge.facts.map (·.identifier.key)))) =
        some (true, [(1, [0]), (3, [3])]) := by
    set_option maxRecDepth 2000 in cbv
  cases hscan : scan env ⟨fun _ => false, false⟩ ['/'] session with
  | error error =>
    rw [hscan] at hsome
    cases hsome
  | ok found =>
    rw [hscan] at hsome
    obtain ⟨hget, hedges⟩ := Prod.mk.inj (Option.some.inj hsome)
    obtain ⟨e, he⟩ := Option.isSome_iff_exists.1 hget
    obtain ⟨listing, -, hscans, -⟩ := scansTo_scan hscan
    obtain ⟨applications, -, hstate, -, hresolves⟩ :=
      dependencies_resolve_to_first hscans he patterns files rules
    exact ⟨found, e, applications, rfl, he, hedges, hstate, hresolves⟩

end SourceAtlas.Survey
