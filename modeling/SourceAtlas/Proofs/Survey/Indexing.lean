import SourceAtlas.Proofs.Survey.Scans

/-!
# Scans and their index

The identifiers of a scan are kept twice, with the entities that declare them and in the index. Both
tell the same, however many workers have taken part. With one worker the index has the identifiers
in the order of the code files.
-/

namespace SourceAtlas

/-- An index that tells of each entity of a tree which identifiers it has, in the order in which
they were registered, and that has identifiers of code files only. -/
structure EntityTree.IsIndexedBy (tree : EntityTree) (index : IdentifierIndex) : Prop where
  identifiers : ∀ id e, tree.get? id = some e →
    e.identifiers = index.all.filter (index.owner? · == some id)
  code : ∀ i ∈ index.all, ∃ id e, index.owner? i = some id ∧ tree.get? id = some e ∧ e.isCode
  owner : ∀ id e, tree.get? id = some e → ∀ i, index.owner? i = some id ↔ e.hasIdentifier i

theorem EntityTree.IsIndexedBy.isCode {tree : EntityTree} {index : IdentifierIndex}
    (h : tree.IsIndexedBy index) {id : EntityId} {e : Entity} (hget : tree.get? id = some e)
    (hne : e.identifiers ≠ []) : e.isCode := by
  obtain ⟨i, hi⟩ := List.exists_mem_of_ne_nil _ hne
  rw [h.identifiers id e hget, List.mem_filter, beq_iff_eq] at hi
  obtain ⟨id', e', howner, hget', hcode⟩ := h.code i hi.1
  obtain rfl := Option.some.inj (hi.2.symm.trans howner)
  obtain rfl := Option.some.inj (hget.symm.trans hget')
  exact hcode

namespace Survey

variable {env : Environment} {library : RuleLibrary} {listing : Listing} {tree : EntityTree}
  {index : IdentifierIndex}

/-! ## Any number of workers -/

theorem ScansTo.isIndexedBy (h : ScansTo env library listing tree index) :
    tree.IsIndexedBy index := by
  obtain ⟨events, branch, count, hworks, hhappens, htree⟩ := h
  obtain ⟨hall, howner, hnone⟩ := hhappens.index_eq
  have hentities : [branch].flatMap Branch.entities = branch.entities := List.flatMap_singleton ..
  have hidentifiers : ∀ id e, tree.get? id = some e →
      e.identifiers = index.all.filter (index.owner? · == some id) := by
    intro id e hget
    obtain ⟨e₀, he₀, rfl, parent, rfl⟩ := EntityTree.exists_mem_of_get?_ofEntities? htree hget
    have hnodup := EntityTree.nodup_map_id_of_ofEntities? htree
    rw [← hentities] at he₀ hnodup
    rw [hworks.identifiers_eq hnodup he₀, hall, List.filter_map, answers]
    congr 1
    apply List.filter_congr
    intro r hr
    simp [howner r hr]
  refine ⟨hidentifiers, ?_, ?_⟩
  · intro i hi
    rw [hall] at hi
    obtain ⟨r, hr, rfl⟩ := List.mem_map.1 hi
    obtain ⟨e, he, hid, hcode⟩ := hworks.exists_owner hr
    rw [hentities] at he
    obtain ⟨parent, hget⟩ := EntityTree.exists_get?_ofEntities? htree he
    rw [hid] at hget
    exact ⟨r.owner, _, howner r hr, hget, hcode⟩
  · intro id e hget i
    rw [Entity.hasIdentifier, List.contains_iff_mem, hidentifiers id e hget, List.mem_filter,
      beq_iff_eq]
    constructor
    · intro hid
      refine ⟨?_, hid⟩
      by_contra hi
      rw [hnone i hi] at hid
      cases hid
    · exact And.right

/-! ## One worker -/

theorem flatMap_filter_eq {α β : Type} {p : α → Bool} {f : α → List β} {l : List α}
    (h : ∀ a ∈ l, f a ≠ [] → p a) : (l.filter p).flatMap f = l.flatMap f := by
  induction l with
  | nil => rfl
  | cons a l ih =>
    obtain ⟨ha, hl⟩ := List.forall_mem_cons.1 h
    rw [List.flatMap_cons, List.filter_cons, ← ih hl]
    split
    · rw [List.flatMap_cons]
    · rename_i hp
      rw [not_not.1 fun hne => hp (ha hne), List.nil_append]

theorem flatMap_identifiers_codeFiles (htree : tree.IsPreordered) (h : tree.IsIndexedBy index) :
    (tree.codeFiles.filterMap tree.get?).flatMap Entity.identifiers =
      tree.entities.flatMap Entity.identifiers := by
  rw [htree.filterMap_codeFiles]
  apply flatMap_filter_eq
  intro e he hne
  exact h.isCode (htree.get?_id he) hne

/-- However many workers scan a root, the entities of the tree have the identifiers that the index
tells, in the order of registration, and only code files have any. With one worker the index lists
the identifiers of the code files one after the other, in tree order. -/
theorem scan_isIndexedBy (env : Environment) (options : SurveyOptions) (root : Path)
    (s : Session) :
    (∀ library listing tree index, ScansTo env library listing tree index →
      tree.IsIndexedBy index) ∧
    ∀ found, scan env options root s = .ok found →
      (∃ listing, rootListing env options root = .ok listing ∧
        ScansTo env s.library listing found.tree found.index) ∧
      found.tree.IsIndexedBy found.index ∧
      found.index.all =
        (found.tree.codeFiles.filterMap found.tree.get?).flatMap Entity.identifiers := by
  refine ⟨fun library listing tree index h => h.isIndexedBy, fun found h => ?_⟩
  obtain ⟨listing, hroot, hscans, htree, hall⟩ := scansTo_scan h
  refine ⟨⟨listing, hroot, hscans⟩, hscans.isIndexedBy, ?_⟩
  rw [hall, flatMap_identifiers_codeFiles htree hscans.isIndexedBy]

/-- Two files declare one name, and a third one is no code. Reading a fourth one fails after its
first line, and what this line declares is kept. -/
theorem scan_isIndexedBy_two_files :
    let patterns := Pattern.Language.beginnings
    let rules : RuleSet :=
      ⟨[], [], [⟨['r'], .identifiers, .pattern ['+'], [], none, true, false⟩]⟩
    let files : FileSystem :=
      ⟨.directory [(['b'], .file [43, 120, 10, 43, 121]), (['a'], .file [43, 120]),
        (['c', '.', 't'], .file [43, 120]),
        (['d'], .regular ⟨8, .ok ⟨[43, 122, 10, 43, 119], some .permissionDenied⟩⟩)], ['/']⟩
    let types : FileTypes := ⟨[(['L'], ⟨['L'], [[]], Entity.defaultColor, true⟩)], [([], ['L'])]⟩
    let env : Environment := ⟨patterns, files, types, unstopped⟩
    let session := Session.start ⟨['/'], [(['L'], rules)]⟩ (.ofCapacity 1)
    ∃ found, scan env ⟨fun _ => false, false⟩ ['/'] session = .ok found ∧
      (∃ listing, ScansTo env session.library listing found.tree found.index) ∧
      found.tree.IsIndexedBy found.index ∧
      found.index.all =
        (found.tree.codeFiles.filterMap found.tree.get?).flatMap Entity.identifiers ∧
      found.index.all.map (fun i => (i.name, i.key)) =
        [(['x'], 0), (['x'], 2), (['y'], 0), (['z'], 0)] := by
  intro patterns rules files types env session
  have hsome : (scan env ⟨fun _ => false, false⟩ ['/'] session).toOption.map
      (fun found => found.index.all.map fun i => (i.name, i.key)) =
        some [(['x'], 0), (['x'], 2), (['y'], 0), (['z'], 0)] := by
    set_option maxRecDepth 2000 in cbv
  cases hscan : scan env ⟨fun _ => false, false⟩ ['/'] session with
  | error error =>
    rw [hscan] at hsome
    cases hsome
  | ok found =>
    rw [hscan] at hsome
    obtain ⟨hworkers, hone⟩ := scan_isIndexedBy env ⟨fun _ => false, false⟩ ['/'] session
    obtain ⟨⟨listing, -, hscans⟩, -, hall⟩ := hone found hscan
    exact ⟨found, rfl, ⟨listing, hscans⟩, hworkers _ listing _ _ hscans, hall,
      Option.some.inj hsome⟩

end Survey

end SourceAtlas
