import SourceAtlas.Proofs.Extraction.Links
import SourceAtlas.Proofs.Survey.Indexing
import SourceAtlas.Survey.Basic

/-!
# Edges of a survey

Every edge of a survey has a reason. However many workers scan a root, the index that they fill
tells which file of their tree has an identifier; each edge that is then found is justified by that
index and by the rules of the source; and adding the edges to the tree merges their facts and
changes nothing else.
-/

namespace SourceAtlas.Survey

open RuleFile (bind_eq_ok)

/-! ## Surveys by any number of workers -/

/-- A tree that a survey of a root may end with, however many workers there are: the tree that they
make of what is listed at the root, with edges that satisfy `P`, in the order in which they come to
add them. -/
def SurveysTo (env : Environment) (options : SurveyOptions) (root : Path) (library : RuleLibrary)
    (P : EntityTree → IdentifierIndex → EntityId × Edge → Prop) (tree : EntityTree) : Prop :=
  ∃ listing scanned index calls, rootListing env options root = .ok listing ∧
    ScansTo env library listing scanned index ∧
    (∀ call ∈ calls, P scanned index call) ∧ tree = (scanned.addAll calls).1

/-- An edge that is found from an entity of a tree, whatever the rules are. -/
def IsFound (env : Environment) (scanned : EntityTree) (index : IdentifierIndex)
    (call : EntityId × Edge) : Prop :=
  ∃ session s, call.2 ∈ (edgesFrom env ⟨scanned, index, session⟩ call.1 s).1

/-- An edge that is found from a code file of a tree by the rules of a library. -/
def IsFoundBy (env : Environment) (library : RuleLibrary) (scanned : EntityTree)
    (index : IdentifierIndex) (call : EntityId × Edge) : Prop :=
  call.1 ∈ scanned.codeFiles ∧
    ∃ session s, RuleLibrary.SameRules env.patterns env.files library s.library ∧
      call.2 ∈ (edgesFrom env ⟨scanned, index, session⟩ call.1 s).1

/-- A tree that a survey may end with if the edges are found from code files by the rules of the
library, as workers do. -/
def LinksTo (env : Environment) (options : SurveyOptions) (root : Path) (library : RuleLibrary)
    (tree : EntityTree) : Prop :=
  SurveysTo env options root library (IsFoundBy env library) tree

variable {env : Environment} {options : SurveyOptions} {root : Path} {library : RuleLibrary}
  {tree : EntityTree}

theorem SurveysTo.mono {P Q : EntityTree → IdentifierIndex → EntityId × Edge → Prop}
    (h : SurveysTo env options root library P tree)
    (himp : ∀ scanned index call, P scanned index call → Q scanned index call) :
    SurveysTo env options root library Q tree := by
  obtain ⟨listing, scanned, index, calls, hroot, hscans, hfound, htree⟩ := h
  exact ⟨listing, scanned, index, calls, hroot, hscans,
    fun call hcall => himp scanned index call (hfound call hcall), htree⟩

theorem IsFoundBy.isFound {scanned : EntityTree} {index : IdentifierIndex}
    {call : EntityId × Edge} (h : IsFoundBy env library scanned index call) :
    IsFound env scanned index call := by
  obtain ⟨-, session, s, -, hedge⟩ := h
  exact ⟨session, s, hedge⟩

/-- A survey leaves a tree without edges that is linked by the edges that it admits. -/
theorem SurveysTo.exists_linkedBy {P : EntityTree → IdentifierIndex → EntityId × Edge → Prop}
    (h : SurveysTo env options root library P tree) :
    ∃ listing scanned index admitted, rootListing env options root = .ok listing ∧
      ScansTo env library listing scanned index ∧ tree = scanned.linkedBy admitted ∧
      ∀ call ∈ admitted, P scanned index call ∧ scanned.admits call.1 call.2.entity := by
  obtain ⟨listing, scanned, index, calls, hroot, hscans, hfound, rfl⟩ := h
  obtain ⟨hlinked, hadmitted⟩ := EntityTree.addAll_eq hscans.isUnlinked calls
  refine ⟨listing, scanned, index, _, hroot, hscans, hlinked, ?_⟩
  intro call hcall
  rw [hadmitted] at hcall
  obtain ⟨hmem, hadmits⟩ := List.mem_filter.1 hcall
  exact ⟨hfound call hmem, hadmits⟩

/-! ## The edges that are found -/

/-- The dependency rules that a library has for the type of an entity. -/
def dependencyRules (env : Environment) (library : RuleLibrary) (e : Entity) : List Rule :=
  match e.fileType with
  | some label => (library.load env.patterns env.files label).set.rulesOf .dependencies
  | none => []

/-- An edge from a code file of a tree that the rules of a library may justify. -/
def IsJustified (env : Environment) (library : RuleLibrary) (scanned : EntityTree)
    (index : IdentifierIndex) (id : EntityId) (edge : Edge) : Prop :=
  ∃ e, scanned.get? id = some e ∧ e.isCode ∧
    Extraction.Surroundings.Justifies ⟨env.patterns, e, scanned, index⟩
      (dependencyRules env library e) edge

variable {scanned : EntityTree} {index : IdentifierIndex}

theorem IsFoundBy.isJustified (hnumbered : scanned.IsNumbered) {call : EntityId × Edge}
    (h : IsFoundBy env library scanned index call) :
    IsJustified env library scanned index call.1 call.2 := by
  obtain ⟨hid, session, s, hsame, hedge⟩ := h
  obtain ⟨e, hget, hcode⟩ := hnumbered.exists_of_mem_codeFiles hid
  refine ⟨e, hget, hcode, ?_⟩
  simp only [edgesFrom, hget] at hedge
  split at hedge
  · cases hedge
  · rename_i label htype
    rw [dependencyRules, htype]
    simp only
    rw [← hsame label]
    exact Extraction.justifies_dependencies hnumbered hget call.2 hedge

/-- An edge that is merged from justified edges of one source is justified. -/
theorem isJustified_of_mem_collect {calls : List (EntityId × Edge)}
    (h : ∀ call ∈ calls, IsJustified env library scanned index call.1 call.2) {id : EntityId}
    {edge : Edge} (hedge : edge ∈ Edge.collect (EntityTree.outgoing calls id)) :
    IsJustified env library scanned index id edge := by
  obtain ⟨hentity, hfacts⟩ := Edge.mem_collect.1 hedge
  obtain ⟨⟨target, facts⟩, hportion, rfl⟩ := List.mem_map.1 hentity
  obtain ⟨e, hget, hcode, hjustified⟩ := h _ (EntityTree.mem_outgoing.1 hportion)
  have hmem {fact : Fact} : fact ∈ edge.facts ↔
      ∃ facts, (edge.entity, facts) ∈ EntityTree.outgoing calls id ∧ fact ∈ facts := by
    rw [hfacts, List.mem_eraseDups, Edge.mem_factsOf]
  refine ⟨e, hget, hcode, ?_, ?_⟩
  · obtain ⟨fact, hfact⟩ := List.exists_mem_of_ne_nil _ hjustified.ne_nil
    exact List.ne_nil_of_mem (hmem.2 ⟨facts, hportion, hfact⟩)
  · intro fact hfact
    obtain ⟨others, hother, hfact⟩ := hmem.1 hfact
    obtain ⟨e', hget', -, hjustified'⟩ := h _ (EntityTree.mem_outgoing.1 hother)
    obtain rfl := Option.some.inj (hget.symm.trans hget')
    exact hjustified'.supports fact hfact

/-- If the index tells of each entity which identifiers it has, the target of a supported fact is
another code file of the same type, and the identifier is one of its own and none of the source. -/
theorem exists_target (hnumbered : scanned.IsNumbered) (hindexed : scanned.IsIndexedBy index)
    {id target : EntityId} {e : Entity} {rules : List Rule} {fact : Fact}
    (he : scanned.get? id = some e)
    (h : Extraction.Surroundings.Supports ⟨env.patterns, e, scanned, index⟩ rules target fact) :
    id ≠ target ∧ ∃ e', scanned.get? target = some e' ∧ e'.isCode ∧
      e'.fileType = e.fileType ∧ fact.identifier ∈ e'.identifiers ∧
      fact.identifier ∉ e.identifiers := by
  have hdiffers : id ≠ target := by
    rw [← hnumbered id e he]
    exact h.differs.symm
  obtain ⟨e', he', htype⟩ := h.fileType
  have hmem : fact.identifier ∈ e'.identifiers :=
    List.contains_iff_mem.1 ((hindexed.owner target e' he' _).1 h.owner)
  refine ⟨hdiffers, e', he', hindexed.isCode he' (List.ne_nil_of_mem hmem), htype, hmem, ?_⟩
  intro hown
  have howner := (hindexed.owner id e he fact.identifier).2 (List.contains_iff_mem.2 hown)
  exact hdiffers (Option.some.inj (howner.symm.trans h.owner))

theorem fileType_of_mem_dependencyRules {e : Entity} {rule : Rule}
    (h : rule ∈ dependencyRules env library e) :
    ∃ label, e.fileType = some label ∧
      rule ∈ (library.load env.patterns env.files label).set.rulesOf .dependencies := by
  unfold dependencyRules at h
  split at h
  · rename_i label htype
    exact ⟨label, htype, h⟩
  · cases h

/-! ## Adding edges -/

/-- The edges that were found, each with its source. -/
def calls (edges : List (EntityId × List Edge)) : List (EntityId × Edge) :=
  edges.flatMap fun entry => entry.2.map (entry.1, ·)

/-- Edges are added one after the other, and those that the tree admits are counted. -/
theorem attach_eq (tree : EntityTree) (edges : List (EntityId × List Edge)) :
    attach tree edges =
      ((tree.addAll (calls edges)).1, (tree.addAll (calls edges)).2.length) := by
  have hcalls (calls : List (EntityId × Edge)) (tree : EntityTree) (added : Nat) :
      calls.foldl (fun linked call => attachEdge call.1 linked call.2) (tree, added) =
        ((tree.addAll calls).1, added + (tree.addAll calls).2.length) := by
    induction calls generalizing tree added with
    | nil => rfl
    | cons call calls ih =>
      rw [List.foldl_cons, attachEdge, EntityTree.addAll]
      by_cases h : tree.admits call.1 call.2.entity
      · rw [if_pos h, ih]
        simp only [if_pos h, List.length_cons, Nat.add_assoc, Nat.add_comm 1]
      · rw [if_neg h, ih, EntityTree.addDependency_of_not_admits (by simpa using h)]
        simp only [if_neg h]
  rw [← Nat.zero_add (tree.addAll (calls edges)).2.length, ← hcalls (calls edges) tree 0, calls,
    List.foldl_flatMap, attach]
  simp only [List.foldl_map]

theorem mem_calls {edges : List (EntityId × List Edge)} {call : EntityId × Edge} :
    call ∈ calls edges ↔ ∃ entry ∈ edges, entry.1 = call.1 ∧ call.2 ∈ entry.2 := by
  obtain ⟨source, edge⟩ := call
  simp only [calls, List.mem_flatMap, List.mem_map, Prod.mk.injEq]
  constructor
  · rintro ⟨entry, hentry, found, hfound, hsource, rfl⟩
    exact ⟨entry, hentry, hsource, hfound⟩
  · rintro ⟨entry, hentry, hsource, hedge⟩
    exact ⟨entry, hentry, edge, hedge, hsource, rfl⟩

/-! ## One worker -/

theorem sameRules_edgesFrom (found : Scan) (id : EntityId) (s : Session) :
    RuleLibrary.SameRules env.patterns env.files s.library
      (edgesFrom env found id s).2.library := by
  rw [edgesFrom]
  split
  · exact .refl _
  · split
    · exact .refl _
    · exact RuleLibrary.sameRules_load s.library _

/-- The edges of some entities are found one after the other, by the same rules. -/
theorem exists_edgesFrom {found : Scan} {ids : List EntityId} {s s' : Session}
    {edges : List (EntityId × List Edge)} (h : edgesFromAll env found s ids = .ok (edges, s'))
    (hsame : RuleLibrary.SameRules env.patterns env.files library s.library) :
    ∀ entry ∈ edges, entry.1 ∈ ids ∧
      ∃ s, RuleLibrary.SameRules env.patterns env.files library s.library ∧
        entry.2 = (edgesFrom env found entry.1 s).1 := by
  induction ids generalizing s edges with
  | nil =>
    cases h
    exact List.forall_mem_nil _
  | cons id ids ih =>
    obtain ⟨s₁, hlook, h⟩ := bind_eq_ok h
    obtain ⟨⟨others, s₂⟩, hothers, h⟩ := bind_eq_ok h
    cases h
    have hlooked := hsame.trans (sameRules_look hlook)
    have hrest := ih hothers (hlooked.trans (sameRules_edgesFrom found id s₁))
    refine List.forall_mem_cons.2 ⟨⟨List.mem_cons_self, s₁, hlooked, rfl⟩, ?_⟩
    exact fun entry hentry =>
      ⟨List.mem_cons_of_mem _ (hrest entry hentry).1, (hrest entry hentry).2⟩

/-- A run is what one worker does. -/
theorem linksTo_run {s s' : Session} (h : run env options root s = .ok (tree, s')) :
    LinksTo env options root s.library tree := by
  obtain ⟨found, hscan, h⟩ := bind_eq_ok h
  obtain ⟨linked, hlink, h⟩ := bind_eq_ok h
  cases h
  obtain ⟨⟨edges, session⟩, hedges, h⟩ := bind_eq_ok hlink
  cases h
  obtain ⟨listing, hroot, hscans, -⟩ := scansTo_scan hscan
  refine ⟨listing, found.tree, found.index, calls edges, hroot, hscans, ?_,
    congrArg Prod.fst (attach_eq found.tree edges)⟩
  intro call hcall
  have hrules := sameRules_scan hscan
  obtain ⟨entry, hentry, hsource, hedge⟩ := mem_calls.1 hcall
  obtain ⟨hid, s₁, hsame, hfound⟩ := exists_edgesFrom hedges hrules entry hentry
  rw [hfound, hsource] at hedge
  exact ⟨hsource ▸ hid, _, s₁, hsame, hedge⟩

/-! ## Whole surveys -/

/-- Every edge of a survey leads from a code file to another one of the same type. It holds facts,
all different, and each of them tells of an identifier that the target has and the source has not,
and of a dependency rule of their type. This is so for every tree that workers may come to, and so
for that of a run. -/
theorem survey_edge_sound (env : Environment) (options : SurveyOptions) (root : Path)
    (s : Session) :
    (∀ tree s', run env options root s = .ok (tree, s') →
      LinksTo env options root s.library tree) ∧
    ∀ library tree, LinksTo env options root library tree →
      ∀ id source, tree.get? id = some source → ∀ edge ∈ source.dependencies,
        ∃ target label, tree.get? edge.entity = some target ∧ id ≠ edge.entity ∧
          source.isCode ∧ target.isCode ∧
          source.fileType = some label ∧ target.fileType = some label ∧
          edge.facts ≠ [] ∧ edge.facts.Nodup ∧
          ∀ fact ∈ edge.facts,
            fact.identifier ∈ target.identifiers ∧ fact.identifier ∉ source.identifiers ∧
            ∃ rule ∈ (library.load env.patterns env.files label).set.rulesOf .dependencies,
              rule.name = fact.rule ∧ rule.hidden = fact.hidden := by
  refine ⟨fun _ _ h => linksTo_run h, ?_⟩
  intro library tree h id source hsource edge hedge
  obtain ⟨listing, scanned, index, admitted, -, hscans, rfl, hadmitted⟩ := h.exists_linkedBy
  have hjustified : ∀ call ∈ admitted, IsJustified env library scanned index call.1 call.2 :=
    fun call hcall => (hadmitted call hcall).1.isJustified hscans.isNumbered
  rw [EntityTree.get?_linkedBy] at hsource
  obtain ⟨e, he, rfl⟩ := Option.map_eq_some_iff.1 hsource
  obtain ⟨e₀, he₀, hcode, hne, hsupports⟩ := isJustified_of_mem_collect hjustified hedge
  obtain rfl := Option.some.inj (he.symm.trans he₀)
  have htarget {fact : Fact} (hfact : fact ∈ edge.facts) :=
    exists_target hscans.isNumbered hscans.isIndexedBy he (hsupports fact hfact)
  -- One fact shows the target and the label; the others lead to the same.
  obtain ⟨first, hfirst⟩ := List.exists_mem_of_ne_nil _ hne
  obtain ⟨hdiffers, target, hget, hcode', htype', -⟩ := htarget hfirst
  obtain ⟨rule, hrule, -⟩ := (hsupports first hfirst).rule
  obtain ⟨label, htype, -⟩ := fileType_of_mem_dependencyRules hrule
  have hlinked := EntityTree.get?_linkedBy scanned admitted edge.entity
  rw [hget, Option.map_some] at hlinked
  refine ⟨_, label, hlinked, hdiffers, hcode, hcode', htype, htype'.trans htype, hne, ?_,
    fun fact hfact => ?_⟩
  · rw [(Edge.mem_collect.1 hedge).2]
    exact Edge.nodup_eraseDups _
  · obtain ⟨-, target₀, hget₀, -, -, hmem, hown⟩ := htarget hfact
    obtain rfl := Option.some.inj (hget.symm.trans hget₀)
    obtain ⟨rule, hrule, hname⟩ := (hsupports fact hfact).rule
    obtain ⟨label₀, htype₀, hrule⟩ := fileType_of_mem_dependencyRules hrule
    obtain rfl := Option.some.inj (htype.symm.trans htype₀)
    exact ⟨hmem, hown, rule, hrule, hname⟩

/-- Two files that declare one name. The one that uses it depends on the other, not on itself. -/
theorem survey_edge_sound_two_files :
    let patterns := Pattern.Language.beginnings
    let rule (kind : RuleKind) (pattern : Text) : Rule :=
      ⟨['r'], kind, .pattern pattern, [], none, true, false⟩
    let rules : RuleSet := ⟨[], [], [rule .identifiers ['+'], rule .dependencies ['-']]⟩
    let files : FileSystem :=
      ⟨.directory [(['a'], .file [43, 120]), (['b'], .file [43, 120, 10, 45, 120])], ['/']⟩
    let types : FileTypes := ⟨[(['L'], ⟨['L'], [[]], Entity.defaultColor, true⟩)], [([], ['L'])]⟩
    let env : Environment := ⟨patterns, files, types, unstopped⟩
    let session := Session.start ⟨['/'], [(['L'], rules)]⟩ (.ofCapacity 1)
    ∃ tree session' source edge,
      run env ⟨fun _ => false, false⟩ ['/'] session = .ok (tree, session') ∧
      tree.get? 2 = some source ∧ edge ∈ source.dependencies ∧
      ∃ target, tree.get? edge.entity = some target ∧ 2 ≠ edge.entity ∧
        ∀ fact ∈ edge.facts, fact.identifier ∈ target.identifiers ∧
          fact.identifier ∉ source.identifiers := by
  intro patterns rule rules files types env session
  have hsome : ((run env ⟨fun _ => false, false⟩ ['/'] session).toOption.bind fun result =>
      (result.1.get? 2).bind (·.dependencies.head?)).isSome := by
    set_option maxRecDepth 2000 in cbv
  obtain ⟨edge, hsome⟩ := Option.isSome_iff_exists.1 hsome
  obtain ⟨⟨tree, session'⟩, hrun, hsome⟩ := Option.bind_eq_some_iff.1 hsome
  obtain ⟨source, hsource, hedge⟩ := Option.bind_eq_some_iff.1 hsome
  have hok : run env ⟨fun _ => false, false⟩ ['/'] session = .ok (tree, session') := by
    cases h : run env ⟨fun _ => false, false⟩ ['/'] session with
    | error fault =>
      rw [h] at hrun
      cases hrun
    | ok result =>
      rw [h] at hrun
      cases hrun
      rfl
  have hmem := List.mem_of_head? hedge
  obtain ⟨hone, hworkers⟩ := survey_edge_sound env ⟨fun _ => false, false⟩ ['/'] session
  obtain ⟨target, _, htarget, hne, -, -, -, -, -, -, hfacts⟩ :=
    hworkers _ tree (hone tree session' hok) 2 source hsource edge hmem
  refine ⟨tree, session', source, edge, hok, hsource, hmem, target, htarget, hne, ?_⟩
  intro fact hfact
  exact ⟨(hfacts fact hfact).1, (hfacts fact hfact).2.1⟩

end SourceAtlas.Survey
