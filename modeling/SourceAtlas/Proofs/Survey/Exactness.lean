import SourceAtlas.Proofs.Survey.Faithfulness
import SourceAtlas.Proofs.Survey.Scans
import SourceAtlas.Proofs.Text.ByteOrder

/-!
# What is in a scan

The tree of a scan has an entity for the root, and below every directory one for each entry that
belongs in the survey, and no others. Only what a listing misses by a fault is left out, and a
directory that cannot be listed is one without children. Different entities have different paths,
whatever links there are, and the children of a directory are in the byte order of their names. All
this is so however many workers scan.
-/

namespace SourceAtlas

/-! ## Entities of faithful listings -/

namespace Survey

open Listing (IsFaithful)

variable {fs : FileSystem} {options : SurveyOptions} {e : Entity} {children : List Entity}

theorem Stems.isDirectory_iff (h : Stems (IsFaithful fs options) e children) :
    e.isDirectory ↔ fs.IsDirectoryAt e.path := by
  obtain ⟨file, hfile, hkind, -⟩ | ⟨entries, faults, hdirectory, hkind, -⟩ := h.listed
  · cases hfile with
    | file node =>
      rw [hkind]
      constructor
      · intro hdirectory
        cases hdirectory
      · rintro ⟨entries, faults, hdirectory⟩
        rw [node] at hdirectory
        cases hdirectory
  · cases hdirectory with
    | directory lists _ => exact iff_of_true hkind lists.isDirectory

theorem Stems.mem_iff (h : Stems (IsFaithful fs options) e children) (path : Path) :
    path ∈ children.map Entity.path ↔
      e.isDirectory ∧ fs.Shows e.path path ∧ options.Admits fs e.path path := by
  obtain ⟨file, -, hkind, rfl⟩ | ⟨entries, faults, hdirectory, hkind, hplaces⟩ := h.listed
  · simp [hkind]
  · cases hdirectory with
    | directory lists _ => rw [hplaces, lists.mem_iff, hkind, eq_self, true_and]

theorem Stems.exists_names (h : Stems (IsFaithful fs options) e children) :
    ∃ names : List Text, names.Pairwise (· < ·) ∧
      children.map Entity.path = names.map (Path.join e.path) ∧
      ∀ name ∈ names, Path.IsFileName name ∧
        Path.components (Path.join e.path name) = Path.components e.path ++ [.name name] := by
  obtain ⟨file, -, -, rfl⟩ | ⟨entries, faults, hdirectory, -, hplaces⟩ := h.listed
  · exact ⟨[], .nil, rfl, by simp⟩
  · cases hdirectory with
    | directory lists _ =>
      rw [hplaces]
      exact lists.inOrder

end Survey

/-! ## Trees of what belongs in a survey -/

/-- A tree that has exactly what belongs in a survey from a path on: the path itself, and below each
directory the entries that it shows and that are admitted, in the byte order of their names. -/
structure EntityTree.IsExact (tree : EntityTree) (fs : FileSystem) (options : SurveyOptions)
    (top : Path) : Prop where
  mem_iff : ∀ path, (∃ e ∈ tree.entities, e.path = path) ↔
    path = top ∨ ∃ d ∈ tree.entities, d.isDirectory ∧ fs.Shows d.path path ∧
      options.Admits fs d.path path
  distinct : tree.entities.Pairwise fun e e' => ¬ Path.same e.path e'.path
  isDirectory_iff : ∀ e ∈ tree.entities, e.isDirectory ↔ fs.IsDirectoryAt e.path
  mem_children_iff : ∀ e ∈ tree.entities, ∀ path,
    (∃ child ∈ tree.children e.id, child.path = path) ↔
      e.isDirectory ∧ fs.Shows e.path path ∧ options.Admits fs e.path path
  path_child : ∀ e ∈ tree.entities, ∀ child ∈ tree.children e.id,
    child.path = Path.join e.path child.name
  inOrder : ∀ e ∈ tree.entities,
    ((tree.children e.id).map fun child => Text.encode child.name).Pairwise (· < ·)

/-- If all its directories can be listed, such a tree has all that is admitted. -/
theorem EntityTree.IsExact.mem_iff_admits {tree : EntityTree} {fs : FileSystem}
    {options : SurveyOptions} {top : Path} (h : tree.IsExact fs options top)
    (hlistable : ∀ d ∈ tree.entities, d.isDirectory → fs.IsListable d.path) (path : Path) :
    (∃ e ∈ tree.entities, e.path = path) ↔
      path = top ∨ ∃ d ∈ tree.entities, d.isDirectory ∧ options.Admits fs d.path path := by
  rw [h.mem_iff]
  apply or_congr_right
  apply exists_congr
  intro d
  constructor
  · rintro ⟨hd, hkind, -, hadmits⟩
    exact ⟨hd, hkind, hadmits⟩
  · rintro ⟨hd, hkind, hadmits⟩
    exact ⟨hd, hkind, (hlistable d hd hkind).shows path, hadmits⟩

namespace Survey

open Listing (IsFaithful)

section Grove

variable {fs : FileSystem} {options : SurveyOptions} {top : Entity} {entities : List Entity}

theorem pairwise_not_same (h : Grove (Stems (IsFaithful fs options)) [top] entities) :
    entities.Pairwise fun e e' => ¬ Path.same e.path e'.path := by
  have hkeys : (entities.map fun e => Path.components e.path).Nodup := by
    refine (h.nodup_keys ?_ (List.pairwise_singleton _ _)).1
    intro e children hstems
    obtain ⟨names, hordered, hpaths, hproper⟩ := hstems.exists_names
    refine ⟨names.map .name, ?_, ?_⟩
    · have hnodup : names.Nodup := by
        apply hordered.imp
        rintro a _ hlt rfl
        exact List.lt_irrefl a hlt
      exact hnodup.map fun a b heq => Path.Component.name.inj heq
    · calc
        children.map (fun e => Path.components e.path)
          = (children.map Entity.path).map Path.components := by rw [List.map_map]; rfl
        _ = (names.map (Path.join e.path)).map Path.components := by rw [hpaths]
        _ = (names.map .name).map (Path.components e.path ++ [·]) := by
            rw [List.map_map, List.map_map]
            exact List.map_congr_left fun name hname => (hproper name hname).2
  apply (List.pairwise_map.1 hkeys).imp
  intro e e' hne hsame
  exact hne (beq_iff_eq.1 hsame)

theorem mem_grove_iff (h : Grove (Stems (IsFaithful fs options)) [top] entities) (path : Path) :
    (∃ e ∈ entities, e.path = path) ↔
      path = top.path ∨ ∃ d ∈ entities, d.isDirectory ∧ fs.Shows d.path path ∧
        options.Admits fs d.path path := by
  constructor
  · rintro ⟨e, he, rfl⟩
    rcases h.mem_roots_or_child he with hroot | ⟨d, hd, children, hstems, hchild⟩
    · rw [List.mem_singleton.1 hroot]
      exact .inl rfl
    · exact .inr ⟨d, hd, (hstems.mem_iff e.path).1 (List.mem_map_of_mem hchild)⟩
  · rintro (rfl | ⟨d, hd, hadmitted⟩)
    · exact ⟨top, h.mem_of_mem_roots (List.mem_singleton_self top), rfl⟩
    · obtain ⟨children, hmem, -, hstems⟩ := h.exists_children hd
      obtain ⟨child, hchild, rfl⟩ := List.mem_map.1 ((hstems.mem_iff path).2 hadmitted)
      exact ⟨child, hmem child hchild, rfl⟩

/-- The names of children, which lead to them, are in byte order. -/
theorem names_children (h : Grove (Stems (IsFaithful fs options)) [top] entities)
    {e : Entity} {children : List Entity} (hstems : Stems (IsFaithful fs options) e children)
    (hmem : ∀ child ∈ children, child ∈ entities) :
    children.map Entity.path = (children.map Entity.name).map (Path.join e.path) ∧
      (children.map fun child => Text.encode child.name).Pairwise (· < ·) := by
  obtain ⟨names, hordered, hpaths, hproper⟩ := hstems.exists_names
  have hnames : children.map Entity.name = names := by
    apply map_name_eq _ hpaths fun name hname => (hproper name hname).1
    intro child hchild
    obtain ⟨_, _, _, hstems⟩ := h.exists_children (hmem child hchild)
    exact hstems.name_eq
  rw [hnames]
  refine ⟨hpaths, ?_⟩
  have hencoded : (names.map Text.encode).Pairwise (· < ·) :=
    List.pairwise_map.2 (hordered.imp Text.encode_lt_encode)
  rwa [← hnames, List.map_map] at hencoded

/-- A tree of what is faithfully listed is exact, whatever the numbers of its entities are. -/
theorem isExact_of_grove {tree : EntityTree} (hplaces : tree.Places entities)
    (h : Grove (Stems (IsFaithful fs options)) [top] entities) :
    tree.IsExact fs options top.path := by
  have hentity {placed : Entity} (hplaced : placed ∈ tree.entities) :
      ∃ e children, placed.StandsFor e ∧ (∀ child ∈ children, child ∈ entities) ∧
        Stems (IsFaithful fs options) e children ∧
        tree.children placed.id = children.map tree.placed := by
    obtain ⟨e, he, rfl⟩ := hplaces.mem_entities_iff.1 hplaced
    obtain ⟨children, hmem, hstems, hchildren⟩ := hplaces.exists_children h he
    have hstands := hplaces.standsFor_placed he
    exact ⟨e, children, hstands, hmem, hstems, hstands.id_eq ▸ hchildren⟩
  refine ⟨?_, ?_, ?_, ?_, ?_, ?_⟩
  · intro path
    rw [hplaces.exists_entity_iff, hplaces.exists_entity_iff, mem_grove_iff h path]
    · intro placed e hstands
      rw [hstands.isDirectory_eq, hstands.path_eq]
    · intro placed e hstands
      rw [hstands.path_eq]
  · have hsymm {e e' : Entity} (hne : ¬ Path.same e.path e'.path) :
        ¬ Path.same e'.path e.path := by
      rw [Path.same, beq_iff_eq] at hne ⊢
      exact Ne.symm hne
    apply (hplaces.perm.pairwise_iff hsymm).1
    apply List.pairwise_map.2
    apply (pairwise_not_same h).imp_of_mem
    intro e e' he he' hne
    rwa [(hplaces.standsFor_placed he).path_eq, (hplaces.standsFor_placed he').path_eq]
  · intro placed hplaced
    obtain ⟨e, children, hstands, -, hstems, -⟩ := hentity hplaced
    rw [hstands.isDirectory_eq, hstands.path_eq]
    exact hstems.isDirectory_iff
  · intro placed hplaced path
    obtain ⟨e, children, hstands, hmem, hstems, hchildren⟩ := hentity hplaced
    rw [hchildren, hstands.isDirectory_eq, hstands.path_eq, ← hstems.mem_iff path]
    simp only [List.mem_map, exists_exists_and_eq_and]
    apply exists_congr
    intro child
    apply and_congr_right
    intro hchild
    rw [(hplaces.standsFor_placed (hmem child hchild)).path_eq]
  · intro placed hplaced child hchild
    obtain ⟨e, children, hstands, hmem, hstems, hchildren⟩ := hentity hplaced
    rw [hchildren] at hchild
    obtain ⟨child, hlisted, rfl⟩ := List.mem_map.1 hchild
    have hplaced := hplaces.standsFor_placed (hmem child hlisted)
    have hpaths := (names_children h hstems hmem).1
    rw [List.map_map] at hpaths
    rw [hplaced.path_eq, hplaced.name_eq, hstands.path_eq]
    exact List.map_inj_left.1 hpaths child hlisted
  · intro placed hplaced
    obtain ⟨e, children, -, hmem, hstems, hchildren⟩ := hentity hplaced
    have hnames : (tree.children placed.id).map (fun child => Text.encode child.name) =
        children.map fun child => Text.encode child.name := by
      rw [hchildren, List.map_map]
      apply List.map_congr_left
      intro child hchild
      rw [Function.comp_apply, (hplaces.standsFor_placed (hmem child hchild)).name_eq]
    rw [hnames]
    exact (names_children h hstems hmem).2

end Grove

/-! ## Scans by any number of workers -/

variable {env : Environment} {options : SurveyOptions} {root : Path} {library : RuleLibrary}
  {listing : Listing} {tree : EntityTree} {index : IdentifierIndex}

theorem ScansTo.exists_grove (h : ScansTo env library listing tree index)
    (hlisting : IsFaithful env.files options listing) :
    ∃ top entities, Grove (Stems (IsFaithful env.files options)) [top] entities ∧
      tree.Places entities ∧ tree.root = top.id ∧ top.path = listing.path := by
  refine h.exists_grove_stems (IsFaithful env.files options) ?_ hlisting
  intro path entries faults hdirectory
  cases hdirectory with
  | directory _ below => exact below

/-- In a well-formed file system, what is listed at the root is what is there. -/
theorem isFaithful_rootListing (hfs : env.files.IsWellFormed)
    (h : rootListing env options root = .ok listing) :
    IsFaithful env.files options listing ∧ env.files.canonical root = .ok listing.path ∧
      ∃ names, (∀ name ∈ names, Path.IsFileName name) ∧ listing.path = Path.ofNames names := by
  obtain ⟨top, node, htop, hnode, rfl⟩ := rootListing_eq_ok h
  obtain ⟨trail, htrail, rfl⟩ := FileSystem.exists_trail_of_canonical htop
  rw [FileSystem.node_pathOf hfs htrail] at hnode
  cases hnode
  rw [Listing.path_ofNode]
  refine ⟨Listing.isFaithful_ofNode hfs (htrail.isWellFormed hfs).1 htrail rfl, htop, _,
    htrail.isFileName hfs, ?_⟩
  rw [FileSystem.pathOf_eq]

/-- Every tree that workers may come to has exactly what belongs in it, from the root on, which is
never left out; a scan is the case of one worker. Where each directory can be listed, this is all
that the options admit. -/
theorem scan_isExact (env : Environment) (hfs : env.files.IsWellFormed)
    (options : SurveyOptions) (root : Path) (s : Session) :
    (∀ found, scan env options root s = .ok found →
      ∃ listing, rootListing env options root = .ok listing ∧
        ScansTo env s.library listing found.tree found.index) ∧
    ∀ library listing tree index, rootListing env options root = .ok listing →
      ScansTo env library listing tree index →
      ∃ top, env.files.canonical root = .ok top ∧ tree.IsExact env.files options top ∧
        ((∀ d ∈ tree.entities, d.isDirectory → env.files.IsListable d.path) →
          ∀ path, (∃ e ∈ tree.entities, e.path = path) ↔
            path = top ∨
              ∃ d ∈ tree.entities, d.isDirectory ∧ options.Admits env.files d.path path) := by
  constructor
  · intro found hscan
    obtain ⟨listing, hroot, hscans, -⟩ := scansTo_scan hscan
    exact ⟨listing, hroot, hscans⟩
  · intro library listing tree index hroot hscans
    obtain ⟨hfaithful, htop, -⟩ := isFaithful_rootListing hfs hroot
    obtain ⟨top, entities, hgrove, hplaces, -, hpath⟩ := hscans.exists_grove hfaithful
    have hexact := isExact_of_grove hplaces hgrove
    rw [hpath] at hexact
    exact ⟨listing.path, htop, hexact, hexact.mem_iff_admits⟩

/-- A hidden file, a directory that is left out with what is in it, one that cannot be listed, and
links: to a directory, to a file, and to nothing. -/
theorem scan_isExact_links :
    let files : FileSystem :=
      ⟨.directory [(['ü'], .file []), (['a'], .directory [(['x'], .file [120])]),
        (['l'], .link ['a']), (['m'], .link ['ü']), (['n'], .link ['z']), (['u'], .unreadable),
        (['.', 'h'], .file []), (['e'], .directory [(['y'], .file [])]),
        (['s'], .directory [(['t'], .file [])] [⟨.permissionDenied, [['t']]⟩])], ['/']⟩
    let env : Environment := ⟨fun _ => .ok fun _ => none, files, ⟨[], []⟩, unstopped⟩
    let options : SurveyOptions := ⟨fun path => path == ['/', 'e'], true⟩
    let session := Session.start ⟨['/'], []⟩ (.ofCapacity 1)
    files.IsWellFormed ∧ ∃ found, scan env options ['/'] session = .ok found ∧
      found.tree.IsExact files options ['/'] ∧
      options.Admits files ['/', 's'] ['/', 's', '/', 't'] ∧
      found.tree.entities.map (fun e => (e.path, e.isDirectory)) =
        [(['/'], true), (['/', 'a'], true), (['/', 'a', '/', 'x'], false), (['/', 'm'], false),
          (['/', 's'], true), (['/', 'ü'], false)] := by
  intro files env options session
  have hfs : files.IsWellFormed := by
    have hinner (name : Text) (content : Text.Bytes) (faults : List ListingFault)
        (hname : Path.IsFileName name) :
        Node.IsWellFormed (.directory [(name, .file content)] faults) :=
      .directory (by simpa using hname) (by simp) (List.forall_mem_singleton.2 .regular)
    refine ⟨rfl, .directory (by decide) (by decide) ?_⟩
    simp only [List.forall_mem_cons]
    exact ⟨.regular, hinner _ _ _ (by decide), .link, .link, .link, .unreadable, .regular,
      hinner _ _ _ (by decide), hinner _ _ _ (by decide), by simp⟩
  have hadmits : options.Admits files ['/', 's'] ['/', 's', '/', 't'] := by
    have hnode : files.node ['/', 's'] =
        .ok (.directory [(['t'], .file [])] [⟨.permissionDenied, [['t']]⟩]) := by cbv
    refine ⟨⟨['t'], .file [], ⟨_, _, hnode, List.mem_singleton_self _⟩, rfl, ?_⟩, rfl,
      .inl ⟨.ofBytes [], by cbv⟩⟩
    rintro ⟨target, heq⟩
    cases heq
  have hsome : (scan env options ['/'] session).toOption.map
      (fun found => found.tree.entities.map fun e => (e.path, e.isDirectory)) =
        some [(['/'], true), (['/', 'a'], true), (['/', 'a', '/', 'x'], false),
          (['/', 'm'], false), (['/', 's'], true), (['/', 'ü'], false)] := by
    set_option maxRecDepth 2000 in cbv
  refine ⟨hfs, ?_⟩
  cases hscan : scan env options ['/'] session with
  | error error =>
    rw [hscan] at hsome
    cases hsome
  | ok found =>
    rw [hscan] at hsome
    obtain ⟨hone, hworkers⟩ := scan_isExact env hfs options ['/'] session
    obtain ⟨listing, hroot, hscans⟩ := hone found hscan
    obtain ⟨top, htop, hexact, -⟩ := hworkers _ listing _ _ hroot hscans
    have hcanonical : files.canonical ['/'] = .ok ['/'] := by cbv
    obtain rfl := Except.ok.inj (hcanonical.symm.trans htop)
    exact ⟨found, rfl, hexact, hadmits, Option.some.inj hsome⟩

end Survey

end SourceAtlas
