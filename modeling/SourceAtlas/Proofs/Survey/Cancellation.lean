import Mathlib
import SourceAtlas.Proofs.Entity.Symmetry
import SourceAtlas.Proofs.Survey.Steps
import SourceAtlas.Survey.Basic

/-!
# Stopping a survey

A survey looks again and again whether it should stop. If it finds so at any of its looks, then it
has no result at all, and otherwise its result is that of a survey that nobody stops. `Heeds` says
this of a single step, with the number of looks that the step makes; it holds of one step after
another (`Heeds.bind`), and so of the whole survey.

Linking changes its tree only after its last look. `linkInPlace` is linking with the tree as a state
that is changed in place.
-/

namespace SourceAtlas.Survey

/-- The same environment for a survey that nobody stops. -/
def Environment.unstopped (env : Environment) : Environment := { env with stop := Survey.unstopped }

/-! ## Steps that heed a stop flag -/

/-- Some look in a row of them finds that it should stop. -/
def StopsWithin (stop : Nat → Bool) (start count : Nat) : Prop := ∃ k < count, stop (start + k)

instance (stop : Nat → Bool) (start count : Nat) : Decidable (StopsWithin stop start count) :=
  inferInstanceAs (Decidable (∃ k < count, stop (start + k)))

theorem not_stopsWithin_zero (stop : Nat → Bool) (start : Nat) : ¬ StopsWithin stop start 0 := by
  rintro ⟨k, hk, -⟩
  exact Nat.not_lt_zero k hk

theorem stopsWithin_one (stop : Nat → Bool) (start : Nat) :
    StopsWithin stop start 1 ↔ stop start := by
  constructor
  · rintro ⟨k, hk, hstop⟩
    obtain rfl := Nat.lt_one_iff.1 hk
    exact hstop
  · intro hstop
    exact ⟨0, Nat.one_pos, hstop⟩

theorem stopsWithin_add (stop : Nat → Bool) (start count count' : Nat) :
    StopsWithin stop start (count + count') ↔
      StopsWithin stop start count ∨ StopsWithin stop (start + count) count' := by
  constructor
  · rintro ⟨k, hk, hstop⟩
    by_cases hlt : k < count
    · exact .inl ⟨k, hlt, hstop⟩
    · refine .inr ⟨k - count, by omega, ?_⟩
      rwa [Nat.add_assoc, Nat.add_sub_cancel' (Nat.not_lt.1 hlt)]
  · rintro (⟨k, hk, hstop⟩ | ⟨k, hk, hstop⟩)
    · exact ⟨k, by omega, hstop⟩
    · exact ⟨count + k, by omega, by rwa [← Nat.add_assoc]⟩

/-- How many looks come after a step: none if it does not go through. -/
def afterwards {α : Type} (step : Except Error α) (count : α → Nat) : Nat :=
  match step with
  | .ok a => count a
  | .error _ => 0

theorem afterwards_zero {α : Type} (step : Except Error α) : afterwards step (fun _ => 0) = 0 := by
  cases step with
  | error => rfl
  | ok => rfl

/-- A step that makes a number of looks. If it finds at one of them that it should stop, then it is
cancelled, and otherwise it does the same as without looks. -/
structure Heeds (stop : Nat → Bool) {α : Type} (looksOf : α → Nat) (start count : Nat)
    (step free : Except Error α) : Prop where
  stopped : StopsWithin stop start count → step = .error .cancelled
  unstopped : ¬ StopsWithin stop start count → step = free
  free_ne : free ≠ .error .cancelled
  looks : ∀ a, step = .ok a → looksOf a = start + count

namespace Heeds

variable {stop : Nat → Bool} {α β : Type} {looksOf : α → Nat} {looksOf' : β → Nat}
  {start count : Nat} {step free : Except Error α}

theorem step_eq (h : Heeds stop looksOf start count step free) :
    step = if StopsWithin stop start count then .error .cancelled else free := by
  by_cases hstops : StopsWithin stop start count
  · rw [if_pos hstops, h.stopped hstops]
  · rw [if_neg hstops, h.unstopped hstops]

/-- A step without looks. -/
theorem of_eq (heq : step = free) (hne : free ≠ .error .cancelled)
    (hlooks : ∀ a, step = .ok a → looksOf a = start) : Heeds stop looksOf start 0 step free := by
  refine ⟨?_, fun _ => heq, hne, hlooks⟩
  intro hstops
  exact absurd hstops (not_stopsWithin_zero stop start)

theorem ok {a : α} (h : looksOf a = start) : Heeds stop looksOf start 0 (.ok a) (.ok a) := by
  apply of_eq rfl
  · intro herror
    cases herror
  · intro a' ha'
    cases ha'
    exact h

theorem error {error : Error} (h : error ≠ .cancelled) :
    Heeds stop looksOf start 0 (.error error) (.error error) := by
  apply of_eq rfl
  · intro herror
    cases herror
    exact h rfl
  · intro a ha
    cases ha

/-- One step after the other. The second one makes its looks only if the first goes through. -/
theorem bind (h : Heeds stop looksOf start count step free) {next next' : α → Except Error β}
    {count' : α → Nat}
    (hnext : ∀ a, Heeds stop looksOf' (looksOf a) (count' a) (next a) (next' a)) :
    Heeds stop looksOf' start (count + afterwards step count') (step >>= next)
      (free >>= next') := by
  refine ⟨?_, ?_, ?_, ?_⟩
  · intro hstops
    by_cases hfirst : StopsWithin stop start count
    · rw [h.stopped hfirst]
      rfl
    · have hsecond := ((stopsWithin_add ..).1 hstops).resolve_left hfirst
      cases hstep : step with
      | error error =>
        rw [hstep] at hsecond
        exact absurd hsecond (not_stopsWithin_zero _ _)
      | ok a =>
        rw [hstep, ← h.looks a hstep] at hsecond
        exact (hnext a).stopped hsecond
  · intro hnone
    rw [stopsWithin_add, not_or] at hnone
    obtain ⟨hfirst, hsecond⟩ := hnone
    rw [← h.unstopped hfirst]
    cases hstep : step with
    | error error => rfl
    | ok a =>
      rw [hstep, ← h.looks a hstep] at hsecond
      exact (hnext a).unstopped hsecond
  · intro herror
    rcases bind_eq_error herror with herror | ⟨a, -, herror⟩
    · exact h.free_ne herror
    · exact (hnext a).free_ne herror
  · intro b hb
    obtain ⟨a, hstep, hb⟩ := RuleFile.bind_eq_ok hb
    rw [(hnext a).looks b hb, h.looks a hstep, hstep, afterwards, Nat.add_assoc]

/-- A step that is followed by one without looks. -/
theorem bind_zero (h : Heeds stop looksOf start count step free) {next next' : α → Except Error β}
    (hnext : ∀ a, Heeds stop looksOf' (looksOf a) 0 (next a) (next' a)) :
    Heeds stop looksOf' start count (step >>= next) (free >>= next') := by
  have hbind := h.bind hnext
  rwa [afterwards_zero, Nat.add_zero] at hbind

end Heeds

/-- A look is one look. -/
theorem Session.heeds_look (env : Environment) (s : Session) :
    Heeds env.stop Session.looks s.looks 1 (s.look env) (s.look env.unstopped) := by
  have hfree : s.look env.unstopped = .ok { s with looks := s.looks + 1 } := rfl
  rw [hfree]
  refine ⟨?_, ?_, ?_, ?_⟩
  · intro hstops
    rw [look, if_pos ((stopsWithin_one ..).1 hstops)]
  · intro hnone
    rw [look, if_neg (mt (stopsWithin_one ..).2 hnone)]
  · intro h
    cases h
  · intro s' h
    rw [look] at h
    split at h
    · cases h
    · cases h
      rfl

/-! ## The census -/

namespace Census

variable (env : Environment)

mutual

/-- How many looks a census makes at a listing. -/
def looks (c : Census) : Listing → Nat
  | .file _ _ => 1
  | .directory path entries faults =>
    1 + afterwards (c.look env) fun c => (c.enterDirectory path entries faults).2.looksAll entries
  | .directoryLink _ => 0
  | .unreadable _ => 1

/-- How many looks a census makes at some listings in order. -/
def looksAll (c : Census) : List Listing → Nat
  | [] => 0
  | listing :: listings =>
    c.looks listing + afterwards (c.enter env listing) fun (_, c) => c.looksAll listings

end

theorem heeds_look (c : Census) :
    Heeds env.stop (·.session.looks) c.session.looks 1 (c.look env) (c.look env.unstopped) := by
  show Heeds _ _ _ _ (c.session.look env >>= fun session => .ok { c with session })
    (c.session.look env.unstopped >>= fun session => .ok { c with session })
  apply (c.session.heeds_look env).bind_zero
  intro session
  exact .ok rfl

/-! ### Files are read without looks -/

variable {env}

theorem looks_register {e e' : Entity} {is : List Identifier} {c c' : Census}
    (h : c.register e is = .ok (e', c')) : c'.session.looks = c.session.looks := by
  rw [register] at h
  split at h
  · cases h
    rfl
  · cases h

theorem looks_readCode {e e' : Entity} {c c' : Census} (h : readCode env e c = .ok (e', c')) :
    c'.session.looks = c.session.looks := by
  rw [readCode] at h
  split at h
  · cases h
    rfl
  · simp only at h
    split at h
    · cases h
      rfl
    · have hregister := looks_register h
      exact hregister

theorem looks_enterFile {path : Path} {file : FileData} {e : Entity} {c c' : Census}
    (h : c.enterFile env path file = .ok (e, c')) : c'.session.looks = c.session.looks := by
  rw [enterFile] at h
  split at h
  · have hread := looks_readCode h
    exact hread
  · cases h
    rfl

theorem heeds_enterFile (path : Path) (file : FileData) (c : Census) :
    Heeds env.stop (·.2.session.looks) c.session.looks 0 (c.enterFile env path file)
      (c.enterFile env.unstopped path file) := by
  apply Heeds.of_eq rfl
  · intro h
    cases (enterFile_eq_error h).1
  · rintro ⟨e, c'⟩ h
    exact looks_enterFile h

/-! ### Listings -/

-- The recursion is that of the listing: a directory holds the listings of its entries.
mutual

theorem heeds_enter (c : Census) (listing : Listing) :
    Heeds env.stop (·.2.session.looks) c.session.looks (c.looks env listing) (c.enter env listing)
      (c.enter env.unstopped listing) := by
  cases listing with
  | file path file =>
    rw [looks, enter, enter]
    apply (c.heeds_look env).bind_zero
    intro c₁
    apply (heeds_enterFile path file c₁).bind_zero
    rintro ⟨e, c₂⟩
    exact .ok rfl
  | directory path entries faults =>
    rw [looks, enter, enter]
    apply (c.heeds_look env).bind
    intro c₁
    apply (heeds_enterAll (c₁.enterDirectory path entries faults).2 entries).bind_zero
    rintro ⟨children, c₂⟩
    exact .ok rfl
  | directoryLink path =>
    rw [looks, enter, enter]
    exact .ok rfl
  | unreadable path =>
    rw [looks, enter, enter]
    apply (c.heeds_look env).bind_zero
    intro c₁
    exact .ok rfl

theorem heeds_enterAll (c : Census) (listings : List Listing) :
    Heeds env.stop (·.2.session.looks) c.session.looks (c.looksAll env listings)
      (c.enterAll env listings) (c.enterAll env.unstopped listings) := by
  cases listings with
  | nil =>
    rw [looksAll, enterAll, enterAll]
    exact .ok rfl
  | cons listing listings =>
    rw [looksAll, enterAll, enterAll]
    apply (heeds_enter c listing).bind
    rintro ⟨branch, c₁⟩
    apply (heeds_enterAll c₁ listings).bind_zero
    rintro ⟨branches, c₂⟩
    exact .ok rfl

end

end Census

variable (env : Environment) (options : SurveyOptions) (root : Path) (s : Session)

/-- How many looks the census of a root makes. -/
def scanLooks : Nat :=
  afterwards (rootListing env options root) ((Census.start s).looks env)

/-- A root is found without looks. -/
theorem heeds_rootListing :
    Heeds env.stop (fun _ => s.looks) s.looks 0 (rootListing env options root)
      (rootListing env.unstopped options root) := by
  apply Heeds.of_eq rfl
  · intro h
    rw [rootListing] at h
    split at h
    · cases h
    · split at h
      · cases h
      · cases h
  · intro listing h
    rfl

theorem heeds_scan :
    Heeds env.stop (·.session.looks) s.looks (scanLooks env options root s)
      (scan env options root s) (scan env.unstopped options root s) := by
  rw [scanLooks, ← Nat.zero_add (afterwards _ _), scan, scan]
  apply (heeds_rootListing env options root s).bind
  intro listing
  apply (Census.heeds_enter (Census.start s) listing).bind_zero
  rintro ⟨branch, c⟩
  cases branch with
  | none =>
    apply Heeds.error
    intro h
    cases h
  | some branch =>
    cases htree : EntityTree.ofEntities? branch.entity.id branch.entities with
    | none =>
      simp only [htree]
      apply Heeds.error
      intro h
      cases h
    | some tree =>
      simp only [htree]
      exact .ok rfl

/-! ## Linking -/

/-- How many looks are made for the edges from some entities. -/
def edgesLooks (found : Scan) (s : Session) : List EntityId → Nat
  | [] => 0
  | id :: ids =>
    1 + afterwards (s.look env) fun s => edgesLooks found (edgesFrom env found id s).2 ids

theorem looks_edgesFrom (found : Scan) (id : EntityId) :
    (edgesFrom env found id s).2.looks = s.looks := by
  rw [edgesFrom]
  split
  · rfl
  · split
    · rfl
    · rfl

theorem heeds_edgesFromAll (found : Scan) (ids : List EntityId) :
    Heeds env.stop (·.2.looks) s.looks (edgesLooks env found s ids)
      (edgesFromAll env found s ids) (edgesFromAll env.unstopped found s ids) := by
  induction ids generalizing s with
  | nil => exact .ok rfl
  | cons id ids ih =>
    rw [edgesLooks, edgesFromAll, edgesFromAll]
    apply (s.heeds_look env).bind
    intro s₁
    have hrest := ih (edgesFrom env found id s₁).2
    rw [looks_edgesFrom] at hrest
    apply hrest.bind_zero
    rintro ⟨others, s₂⟩
    exact .ok rfl

/-- How many looks linking makes. -/
def linkLooks (found : Scan) : Nat := edgesLooks env found found.session found.tree.codeFiles

theorem heeds_link (found : Scan) :
    Heeds env.stop (·.session.looks) found.session.looks (linkLooks env found) (link env found)
      (link env.unstopped found) := by
  rw [link, link]
  apply (heeds_edgesFromAll env found.session found found.tree.codeFiles).bind_zero
  rintro ⟨edges, session⟩
  exact .ok rfl

/-! ## Linking in place -/

/-- Adds an edge to a tree in place. Whether the tree admits it is returned. -/
def addInPlace (source : EntityId) (edge : Edge) : StateM EntityTree Bool :=
  modifyGet fun tree => (tree.admits source edge.entity, tree.addDependency source edge)

/-- Adds the edges from several sources in place, and counts those that are admitted. -/
def attachInPlace (found : List (EntityId × List Edge)) : StateM EntityTree Nat :=
  found.foldlM (fun added (source, edges) =>
    edges.foldlM (fun added edge => do
      return if ← addInPlace source edge then added + 1 else added) added) 0

/-- Links the code files of a tree in place. -/
def linkInPlace (index : IdentifierIndex) (s : Session) :
    StateM EntityTree (Except Error (Nat × Session)) := do
  let tree ← get
  match edgesFromAll env ⟨tree, index, s⟩ s tree.codeFiles with
  | .error error => return .error error
  | .ok (found, s) => return .ok (← attachInPlace found, s)

theorem run_foldlM {σ α β : Type} (f : β → α → StateM σ β) (as : List α) (b : β) (s : σ) :
    (as.foldlM f b).run s = @List.foldl (β × σ) α (fun p a => (f p.1 a).run p.2) (b, s) as := by
  induction as generalizing b s with
  | nil => rfl
  | cons a as ih =>
    rw [List.foldlM_cons, List.foldl_cons]
    exact ih _ _

theorem run_addInPlace (source : EntityId) (edge : Edge) (linked : EntityTree × Nat) :
    (do return if ← addInPlace source edge then linked.2 + 1 else linked.2 :
      StateM EntityTree Nat).run linked.1 = (attachEdge source linked edge).swap := by
  rw [attachEdge]
  by_cases h : linked.1.admits source edge.entity
  · rw [if_pos h]
    show (if linked.1.admits source edge.entity then _ else _, _) = _
    rw [if_pos h]
    rfl
  · rw [if_neg h]
    show (if linked.1.admits source edge.entity then _ else _, _) = _
    rw [if_neg h, EntityTree.addDependency_of_not_admits (by simpa using h)]
    rfl

theorem run_attachInPlace (found : List (EntityId × List Edge)) (tree : EntityTree) :
    (attachInPlace found).run tree = (attach tree found).swap := by
  rw [attachInPlace, run_foldlM, attach]
  show List.foldl _ (tree, 0).swap found = _
  apply List.foldl_hom
  rintro linked ⟨source, edges⟩
  simp only [run_foldlM]
  show List.foldl _ linked.swap edges = _
  apply List.foldl_hom
  intro linked edge
  exact run_addInPlace source edge linked

/-- Linking in place changes the tree only when the edges of all its code files are found. -/
theorem run_linkInPlace (index : IdentifierIndex) (tree : EntityTree) :
    (linkInPlace env index s).run tree =
      match link env ⟨tree, index, s⟩ with
      | .error error => (.error error, tree)
      | .ok linked => (.ok (linked.added, linked.session), linked.tree) := by
  rw [linkInPlace, StateT.run_bind, StateT.run_get, pure_bind, link]
  cases edgesFromAll env ⟨tree, index, s⟩ s tree.codeFiles with
  | error error => rfl
  | ok found =>
    simp only [StateT.run_bind, run_attachInPlace]
    rfl

/-! ## Whole surveys -/

/-- A census that is noted to be complete. -/
def Scan.noted (found : Scan) : Scan :=
  { found with session := found.session.note [.scanComplete found.tree.size found.index.size] }

/-- How many looks a survey makes. -/
def runLooks : Nat :=
  scanLooks env options root s +
    afterwards (scan env options root s) fun found => linkLooks env found.noted

theorem heeds_run :
    Heeds env.stop (·.2.looks) s.looks (runLooks env options root s)
      (run env options root s) (run env.unstopped options root s) := by
  rw [run, run]
  apply (heeds_scan env options root s).bind
  intro found
  apply (heeds_link env found.noted).bind_zero
  intro linked
  exact .ok rfl

/-- Linking in place is stopped as linking is, and then leaves the tree as it was. -/
theorem run_linkInPlace_eq_ite (index : IdentifierIndex) (tree : EntityTree) :
    (linkInPlace env index s).run tree =
      if StopsWithin env.stop s.looks (linkLooks env ⟨tree, index, s⟩) then
        (.error .cancelled, tree)
      else (linkInPlace env.unstopped index s).run tree := by
  have hlink := heeds_link env ⟨tree, index, s⟩
  rw [run_linkInPlace, run_linkInPlace]
  by_cases hstops : StopsWithin env.stop s.looks (linkLooks env ⟨tree, index, s⟩)
  · rw [if_pos hstops, hlink.stopped hstops]
  · rw [if_neg hstops, hlink.unstopped hstops]

/-- A survey is cancelled if one of the looks that it makes finds that it should stop. Otherwise it
is the survey that nobody stops, which is never cancelled. Linking that is cancelled leaves its tree
as it was. Nothing is assumed of what the looks find: it may also change back. -/
theorem run_all_or_nothing :
    run env options root s =
        (if StopsWithin env.stop s.looks (runLooks env options root s) then .error .cancelled
        else run env.unstopped options root s) ∧
      run env.unstopped options root s ≠ .error .cancelled ∧
      (∀ tree s', run env options root s = .ok (tree, s') →
        s'.looks = s.looks + runLooks env options root s) ∧
      ∀ (index : IdentifierIndex) (tree : EntityTree),
        (linkInPlace env index s).run tree =
            (match link env ⟨tree, index, s⟩ with
            | .error error => (.error error, tree)
            | .ok linked => (.ok (linked.added, linked.session), linked.tree)) ∧
          (linkInPlace env index s).run tree =
            (if StopsWithin env.stop s.looks (linkLooks env ⟨tree, index, s⟩) then
              (.error .cancelled, tree)
            else (linkInPlace env.unstopped index s).run tree) ∧
          ∀ tree',
            (linkInPlace env index s).run tree = (.error .cancelled, tree') → tree' = tree := by
  have hrun := heeds_run env options root s
  refine ⟨hrun.step_eq, hrun.free_ne, ?_, ?_⟩
  · intro tree s' hok
    exact hrun.looks (tree, s') hok
  · intro index tree
    refine ⟨run_linkInPlace env s index tree, run_linkInPlace_eq_ite env s index tree, ?_⟩
    intro tree' hcancelled
    rw [run_linkInPlace] at hcancelled
    split at hcancelled
    · cases hcancelled
      rfl
    · cases hcancelled

/-- Five looks for the census, one of them at an entry that cannot be read, and two for the code
files. A survey that should stop at the last of them is cancelled, and one that should stop after it
is not. Linking that should stop at once leaves its tree. -/
theorem run_all_or_nothing_between_links :
    let files : FileSystem :=
      ⟨.directory [(['a'], .file [43, 120]),
        (['d'], .directory [(['x'], .unreadable), (['b'], .file [45, 120])])], ['/']⟩
    let types : FileTypes := ⟨[(['L'], ⟨['L'], [[]], Entity.defaultColor, true⟩)], [([], ['L'])]⟩
    let env (stop : Nat → Bool) : Environment := ⟨fun _ => .ok fun _ => none, files, types, stop⟩
    let options : SurveyOptions := ⟨fun _ => false, false⟩
    let session := Session.start ⟨['/'], []⟩ (.ofCapacity 1)
    run (env (6 ≤ ·)) options ['/'] session = .error .cancelled ∧
      run (env (7 ≤ ·)) options ['/'] session = run (env unstopped) options ['/'] session ∧
      (∃ tree s', run (env (7 ≤ ·)) options ['/'] session = .ok (tree, s') ∧ s'.looks = 7) ∧
      let tree : EntityTree := ⟨0, [(Entity.file 0 ['a']).setType (some ['L']) none true]⟩
      ∃ tree', (linkInPlace (env (0 ≤ ·)) .empty session).run tree = (.error .cancelled, tree') ∧
        tree' = tree := by
  intro files types env options session
  have hlooks : runLooks (env (6 ≤ ·)) options ['/'] session = 7 := by
    set_option maxRecDepth 2000 in cbv
  have hlooks' : runLooks (env (7 ≤ ·)) options ['/'] session = 7 := by
    set_option maxRecDepth 2000 in cbv
  have hok : (run (env (7 ≤ ·)) options ['/'] session).isOk := by
    set_option maxRecDepth 2000 in cbv
  obtain ⟨hstopped, -⟩ := run_all_or_nothing (env (6 ≤ ·)) options ['/'] session
  obtain ⟨hgoesOn, -, hcount, -⟩ := run_all_or_nothing (env (7 ≤ ·)) options ['/'] session
  rw [hlooks] at hstopped
  rw [hlooks'] at hgoesOn hcount
  have hsix : StopsWithin (6 ≤ ·) 0 7 := by decide
  have hseven : ¬ StopsWithin (7 ≤ ·) 0 7 := by decide
  refine ⟨hstopped.trans (if_pos hsix), hgoesOn.trans (if_neg hseven), ?_, ?_⟩
  · cases hrun : run (env (7 ≤ ·)) options ['/'] session with
    | error error =>
      rw [hrun] at hok
      cases hok
    | ok result => exact ⟨result.1, result.2, rfl, hcount result.1 result.2 hrun⟩
  · intro tree
    obtain ⟨-, -, -, hlink⟩ := run_all_or_nothing (env (0 ≤ ·)) options ['/'] session
    obtain ⟨-, hcancelled, hsame⟩ := hlink .empty tree
    have hlooks : linkLooks (env (0 ≤ ·)) ⟨tree, .empty, session⟩ = 1 := by decide +kernel
    have hzero : StopsWithin (0 ≤ ·) 0 1 := by decide
    rw [hlooks] at hcancelled
    have hrun := hcancelled.trans (if_pos hzero)
    exact ⟨tree, hrun, hsame tree hrun⟩

end SourceAtlas.Survey
