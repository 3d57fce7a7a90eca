import SourceAtlas.Proofs.FileSystem.Relative
import SourceAtlas.Proofs.Report.Picture
import SourceAtlas.Proofs.Survey.Exactness
import SourceAtlas.Proofs.Survey.Soundness

/-!
# Reports on surveys

The report on a survey is a picture of its tree. This does not depend on how many workers there are,
nor on the edges that they add and when: whatever numbers the workers hand out, the entities are
listed depth first, and their paths are told apart by the names below the root.
-/

namespace SourceAtlas.Survey

open Listing (IsFaithful)

/-! ## Paths below the root -/

section

variable {fs : FileSystem} {options : SurveyOptions} {top : Entity} {entities : List Entity}
  {names : List Text}

/-- Every entity is found along proper names from the top. -/
theorem exists_names_below (h : Grove (Stems (IsFaithful fs options)) [top] entities)
    (hnames : ∀ name ∈ names, Path.IsFileName name) (htop : top.path = Path.ofNames names) :
    ∀ e ∈ entities, ∃ below, (∀ name ∈ below, Path.IsFileName name) ∧
      e.path = Path.ofNames (names ++ below) := by
  refine h.forall_of_children ?_ ?_
  · intro root hroot
    obtain rfl := List.mem_singleton.1 hroot
    exact ⟨[], List.forall_mem_nil _, by rw [List.append_nil, htop]⟩
  · rintro e children hstems ⟨below, hbelow, hpath⟩ child hchild
    obtain ⟨steps, -, hpaths, hsteps⟩ := hstems.exists_names
    obtain ⟨step, hstep, hjoin⟩ := List.mem_map.1 (hpaths ▸ List.mem_map_of_mem hchild)
    have hstep := (hsteps step hstep).1
    refine ⟨below ++ [step], ?_, ?_⟩
    · exact List.forall_mem_append.2 ⟨hbelow, List.forall_mem_singleton.2 hstep⟩
    · rw [← hjoin, hpath, Path.join_ofNames (List.forall_mem_append.2 ⟨hnames, hbelow⟩) hstep,
        List.append_assoc]

/-- Entities are told apart by their paths as seen from the top. -/
theorem nodup_relativeTo (h : Grove (Stems (IsFaithful fs options)) [top] entities)
    (hnames : ∀ name ∈ names, Path.IsFileName name) (htop : top.path = Path.ofNames names) :
    (entities.map fun e => Path.relativeTo top.path e.path).Nodup := by
  have hbelow := exists_names_below h hnames htop
  refine List.pairwise_map.2 ((pairwise_not_same h).imp_of_mem ?_)
  intro e e' he he' hdiffers hsame
  obtain ⟨below, hproper, hpath⟩ := hbelow e he
  obtain ⟨below', hproper', hpath'⟩ := hbelow e' he'
  rw [htop, hpath, hpath', Path.relativeTo_ofNames hnames hproper,
    Path.relativeTo_ofNames hnames hproper'] at hsame
  obtain rfl := Path.eq_of_shown_eq hproper hproper' hsame
  apply hdiffers
  rw [hpath, hpath', Path.same, beq_self_eq_true]

end

/-! ## Whole surveys -/

/-- A tree of a grove shows its entities under the paths that they have as seen from the top. -/
theorem map_relativeTo_walk {tree : EntityTree} {Joins : Entity → List Entity → Prop}
    {top : Entity} {entities : List Entity} (hplaces : tree.Places entities)
    (hgrove : Grove Joins [top] entities) (hroot : tree.root = top.id) :
    tree.rootPath = top.path ∧
      ((tree.walk tree.root).map fun e => Path.relativeTo tree.rootPath e.path) =
        entities.map fun e => Path.relativeTo top.path e.path := by
  have htop : top ∈ entities := hgrove.mem_of_mem_roots (List.mem_singleton_self top)
  have hpath : tree.rootPath = top.path := by
    rw [EntityTree.rootPath, hroot, hplaces.get?_placed htop, Option.map_some, Option.getD_some]
    exact (hplaces.standsFor_placed htop).path_eq
  refine ⟨hpath, ?_⟩
  rw [hpath, hplaces.walk_eq hgrove hroot, List.map_map]
  exact List.map_congr_left fun e he =>
    congrArg (Path.relativeTo top.path) (hplaces.standsFor_placed he).path_eq

/-- The report on a survey is a picture of the tree, with hidden facts or without. This is so for
every tree that workers may come to, whatever edges they add, and so for that of a run. -/
theorem report_pictures_survey (env : Environment) (hfs : env.files.IsWellFormed)
    (options : SurveyOptions) (root : Path) (s : Session) (showHidden : Bool) :
    (∀ tree s', run env options root s = .ok (tree, s') →
      LinksTo env options root s.library tree) ∧
    ∀ library P tree, SurveysTo env options root library P tree →
      (Report.ofTree tree showHidden).Pictures tree showHidden := by
  refine ⟨fun _ _ h => linksTo_run h, ?_⟩
  intro library P tree h
  obtain ⟨listing, scanned, index, admitted, hroot, hscans, rfl, hadmitted⟩ := h.exists_linkedBy
  obtain ⟨hlisting, -, names, hnames, hpath⟩ := isFaithful_rootListing hfs hroot
  obtain ⟨top, entities, hgrove, hscanned, hid, htop⟩ := hscans.exists_grove hlisting
  rw [hpath] at htop
  -- Edges have no part in where the entities are.
  have hplaces := hscanned.linkedBy admitted
  obtain ⟨hvisits, hperm⟩ := hplaces.visits_walk hgrove hid
  obtain ⟨hrootPath, hshown⟩ := map_relativeTo_walk hplaces hgrove hid
  refine Report.pictures_ofTree showHidden hvisits hperm hplaces.isNumbered ?_ ?_
    (EntityTree.dependsOn_iff_isNeededBy fun call hcall => (hadmitted call hcall).2)
  · have hself := Path.relativeTo_ofNames hnames (List.forall_mem_nil Path.IsFileName)
    rw [List.append_nil, ← htop] at hself
    rw [hrootPath, hself]
    rfl
  · rw [hshown]
    exact nodup_relativeTo hgrove hnames htop

/-- Of two facts for one edge, the one that a hidden rule has found is shown on neither end. -/
theorem report_pictures_survey_hidden_fact :
    let patterns := Pattern.Language.beginnings
    let rules : RuleSet :=
      ⟨[], [], [⟨['r'], .identifiers, .pattern ['+'], [], none, true, false⟩,
        ⟨['u'], .dependencies, .pattern ['-'], [], none, false, false⟩,
        ⟨['v'], .dependencies, .pattern ['-'], [], none, true, false⟩]⟩
    let files : FileSystem :=
      ⟨.directory [(['d'], .directory [(['b'], .file [45, 120]), (['a'], .file [43, 120])])], ['/']⟩
    let types : FileTypes := ⟨[(['L'], ⟨['L'], [[]], Entity.defaultColor, true⟩)], [([], ['L'])]⟩
    let env : Environment := ⟨patterns, files, types, unstopped⟩
    let session := Session.start ⟨['/'], [(['L'], rules)]⟩ (.ofCapacity 1)
    files.IsWellFormed ∧
      ∃ tree s', run env ⟨fun _ => false, false⟩ ['d'] session = .ok (tree, s') ∧
        (Report.ofTree tree false).Pictures tree false ∧
        (Report.ofTree tree false).entries.map (fun entry =>
          (entry.path, entry.dependencies, entry.dependants)) =
          [(['.'], [], []), (['a'], [], [⟨['b'], [⟨['x'], 0, ['u']⟩]⟩]),
            (['b'], [⟨['a'], [⟨['x'], 0, ['u']⟩]⟩], [])] := by
  intro patterns rules files types env session
  have hfs : env.files.IsWellFormed := by
    refine ⟨rfl, .directory (by decide) (by decide) (List.forall_mem_singleton.2 ?_)⟩
    refine .directory (by decide) (by decide) ?_
    simp only [List.forall_mem_cons]
    exact ⟨.regular, .regular, List.forall_mem_nil _⟩
  have hsome : (run env ⟨fun _ => false, false⟩ ['d'] session).toOption.map
      (fun result => (Report.ofTree result.1 false).entries.map fun entry =>
        (entry.path, entry.dependencies, entry.dependants)) =
        some [(['.'], [], []), (['a'], [], [⟨['b'], [⟨['x'], 0, ['u']⟩]⟩]),
          (['b'], [⟨['a'], [⟨['x'], 0, ['u']⟩]⟩], [])] := by
    set_option maxRecDepth 2000 in cbv
  refine ⟨hfs, ?_⟩
  cases hrun : run env ⟨fun _ => false, false⟩ ['d'] session with
  | error error =>
    rw [hrun] at hsome
    cases hsome
  | ok result =>
    obtain ⟨tree, s'⟩ := result
    rw [hrun] at hsome
    obtain ⟨hlinks, hpictures⟩ :=
      report_pictures_survey env hfs ⟨fun _ => false, false⟩ ['d'] session false
    exact ⟨tree, s', rfl, hpictures _ _ tree (hlinks tree s' hrun), Option.some.inj hsome⟩

end SourceAtlas.Survey
