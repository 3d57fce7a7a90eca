import Mathlib
import SourceAtlas.Proofs.Entity.Forest
import SourceAtlas.Proofs.Survey.Listing
import SourceAtlas.Proofs.Survey.Workers

/-!
# Numbers of a census

A census numbers its entities in pre-order and leaves no number out, whatever it passes over. Its
entities are therefore a forest that always makes a tree, and the children of a directory are in
the order of their names.
-/

namespace SourceAtlas

/-- Directories have their children in the order of the names that lead to them. If these are proper
names of entries, they are the names of the children. -/
def EntityTree.HasOrderedChildren (tree : EntityTree) : Prop :=
  ∀ e ∈ tree.entities, ∃ names : List Text, names.Pairwise (fun a b => ¬ b < a) ∧
    (tree.children e.id).map Entity.path = names.map (Path.join e.path) ∧
    ((∀ name ∈ names, Path.IsFileName name) → (tree.children e.id).map Entity.name = names)

namespace Survey

open RuleFile (bind_eq_ok)

/-- What is known of a new entity and its children. -/
structure Joins (e : Entity) (children : List Entity) : Prop where
  parent : e.parent = none
  name_eq : e.name = (Path.fileName? e.path).getD e.path
  inOrder : ∃ names : List Text, names.Pairwise (fun a b => ¬ b < a) ∧
    children.map Entity.path = names.map (Path.join e.path)

/-- What a new entity and its children are made of: a listed file, or a listed directory and those
of its entries that are files or directories. -/
structure Stems (IsListed : Listing → Prop) (e : Entity) (children : List Entity) : Prop where
  parent : e.parent = none
  name_eq : e.name = (Path.fileName? e.path).getD e.path
  listed :
    (∃ file, IsListed (.file e.path file) ∧ e.isDirectory = false ∧ children = []) ∨
    ∃ entries faults, IsListed (.directory e.path entries faults) ∧ e.isDirectory = true ∧
      children.map Entity.path = entries.filterMap Listing.place?

/-- Children that were not passed over are still in the order of their names. -/
theorem Stems.joins {e : Entity} {children : List Entity}
    (h : Stems Listing.IsOrdered e children) : Joins e children := by
  refine ⟨h.parent, h.name_eq, ?_⟩
  obtain ⟨_, -, -, rfl⟩ | ⟨entries, faults, hordered, -, hplaces⟩ := h.listed
  · exact ⟨[], .nil, rfl⟩
  · cases hordered with
    | directory names inOrder paths _ =>
      have hsublist := Listing.filterMap_place?_sublist entries
      rw [← hplaces, paths] at hsublist
      obtain ⟨kept, hkept, heq⟩ := List.sublist_map_iff.1 hsublist
      exact ⟨kept, inOrder.sublist hkept, heq⟩

theorem isPreordered_of_joins {root : Entity} {entities : List Entity}
    (h : Forest Joins 0 [root] entities) : (EntityTree.ofForest root entities).IsPreordered := by
  apply h.isPreordered_ofForest
  intro e he
  obtain ⟨_, _, _, hjoins⟩ := h.grove.exists_children he
  exact hjoins.parent

theorem map_name_eq {base : Path} {children : List Entity} {names : List Text}
    (hname : ∀ child ∈ children, child.name = (Path.fileName? child.path).getD child.path)
    (hpath : children.map Entity.path = names.map (Path.join base))
    (hnames : ∀ name ∈ names, Path.IsFileName name) : children.map Entity.name = names := by
  calc
    children.map Entity.name
      = (children.map Entity.path).map fun path => (Path.fileName? path).getD path := by
        rw [List.map_map]
        exact List.map_congr_left hname
    _ = names.map ((fun path => (Path.fileName? path).getD path) ∘ Path.join base) := by
        rw [hpath, List.map_map]
    _ = names.map id := by
        apply List.map_congr_left
        intro name hmem
        rw [Function.comp_apply, Path.fileName?_join (hnames name hmem)]
        rfl
    _ = names := List.map_id names

theorem hasOrderedChildren_of_joins {root : Entity} {entities : List Entity}
    (h : Forest Joins 0 [root] entities) :
    (EntityTree.ofForest root entities).HasOrderedChildren := by
  intro placed hplaced
  obtain ⟨e, he, rfl⟩ := List.mem_map.1 hplaced
  obtain ⟨children, hmem, hjoins, hchildren⟩ := h.exists_children_ofForest he
  obtain ⟨names, hordered, hpath⟩ := hjoins.inOrder
  rw [EntityTree.id_withParent, EntityTree.path_withParent, hchildren, List.map_map, List.map_map]
  refine ⟨names, hordered, hpath, fun hnames => map_name_eq (fun child hchild => ?_) hpath hnames⟩
  obtain ⟨_, _, _, hjoins⟩ := h.grove.exists_children (hmem child hchild)
  exact hjoins.name_eq

namespace Census

variable {env : Environment} {c c' : Census}

theorem enterFile_fields {path : Path} {file : FileData} {e : Entity}
    (h : c.enterFile env path file = .ok (e, c')) :
    e.id = c.nextId ∧ e.path = path ∧ e.children = [].map Entity.id ∧ e.parent = none ∧
      e.name = (Path.fileName? path).getD path ∧ e.isDirectory = false := by
  obtain ⟨-, -, heq, -⟩ := enterFile_eq_ok h
  have hfresh := isFresh_readFile env c.session.library c.nextId path file
  rw [heq]
  exact ⟨hfresh.id_eq, hfresh.path_eq, hfresh.children, hfresh.parent, hfresh.name_eq,
    isDirectory_readFile env c.session.library c.nextId path file⟩

/-- The entities that a census makes of listings are a forest in pre-order, and the number after the
last of them is the next one. -/
theorem Takes.forest_stems {IsListed : Listing → Prop}
    (hbelow : ∀ path entries faults, IsListed (.directory path entries faults) →
      ∀ entry ∈ entries, IsListed entry)
    {listings : List Listing} {branches : List Branch} (h : Takes env c listings branches c')
    (hlisted : ∀ listing ∈ listings, IsListed listing) :
    Forest (Stems IsListed) c.nextId (branches.map Branch.entity)
        (branches.flatMap Branch.entities) ∧
      c'.nextId = c.nextId + (branches.flatMap Branch.entities).length ∧
      branches.map (·.entity.path) = listings.filterMap Listing.place? := by
  induction h with
  | nil => exact ⟨.nil, rfl, rfl⟩
  | @file c c₁ c₂ c' path file e listings branches look enter rest ih =>
    obtain ⟨hfile, hlisted⟩ := List.forall_mem_cons.1 hlisted
    obtain ⟨hforest, hnext, hpaths⟩ := ih hlisted
    obtain ⟨hid, rfl, hchildren, hparent, hname, hdirectory⟩ := enterFile_fields enter
    rw [(enterFile_eq_ok enter).1, look.nextId_eq] at hforest hnext
    rw [look.nextId_eq] at hid
    have hstems : Stems IsListed e [] :=
      ⟨hparent, hname, .inl ⟨file, hfile, hdirectory, rfl⟩⟩
    refine ⟨.cons hid hchildren hstems .nil hforest, ?_, congrArg (e.path :: ·) hpaths⟩
    rw [hnext, Nat.add_assoc, List.flatMap_cons, List.length_append]
    rfl
  | @directory c c₁ c₂ c' path entries faults listings children branches look below rest ihbelow
      ihrest =>
    obtain ⟨hdirectory, hlisted⟩ := List.forall_mem_cons.1 hlisted
    obtain ⟨hinside, hinner, hchildren⟩ := ihbelow (hbelow path entries faults hdirectory)
    obtain ⟨hforest, hnext, hpaths⟩ := ihrest hlisted
    have hfirst : (c₁.enterDirectory path entries faults).2.nextId = c.nextId + 1 :=
      congrArg (· + 1) look.nextId_eq
    rw [hfirst] at hinside hinner
    rw [hinner] at hforest hnext
    have hstems : Stems IsListed
        (Branch.ofChildren (c₁.enterDirectory path entries faults).1 children).entity
        (children.map Branch.entity) := by
      refine ⟨rfl, rfl, .inr ⟨entries, faults, hdirectory, rfl, ?_⟩⟩
      rw [List.map_map]
      exact hchildren
    refine ⟨.cons look.nextId_eq ?_ hstems hinside hforest, ?_, congrArg (path :: ·) hpaths⟩
    · rw [List.map_map]
      rfl
    · rw [hnext, List.flatMap_cons, List.length_append, Branch.entities, List.length_cons,
        Nat.add_assoc, Nat.add_assoc, ← Nat.add_assoc 1, Nat.add_comm 1]
      rfl
  | directoryLink rest ih =>
    exact ih (List.forall_mem_cons.1 hlisted).2
  | unreadable skip rest ih =>
    obtain ⟨hforest, hnext, hpaths⟩ := ih (List.forall_mem_cons.1 hlisted).2
    rw [skip.nextId_eq] at hforest hnext
    exact ⟨hforest, hnext, hpaths⟩

/-- There is an entity for every file and every directory that is listed, in the same order. -/
theorem Takes.map_path {listings : List Listing} {branches : List Branch}
    (h : Takes env c listings branches c') :
    (branches.flatMap Branch.entities).map Entity.path = Listing.placesOf listings := by
  induction h with
  | nil => rfl
  | file look enter rest ih =>
    obtain ⟨-, rfl, -⟩ := enterFile_fields enter
    rw [Listing.placesOf, Listing.places, ← ih, List.flatMap_cons, List.map_append]
    rfl
  | directory look below rest ihbelow ihrest =>
    rw [Listing.placesOf, Listing.places, ← ihbelow, ← ihrest, List.flatMap_cons, List.map_append]
    rfl
  | directoryLink rest ih =>
    rw [ih, Listing.placesOf, Listing.places, List.nil_append]
  | unreadable skip rest ih =>
    rw [ih, Listing.placesOf, Listing.places, List.nil_append]

theorem map_path_enter {listing : Listing} {branch : Option Branch}
    (h : c.enter env listing = .ok (branch, c')) :
    (branch.toList.flatMap Branch.entities).map Entity.path = listing.places := by
  have hpaths := (takes_enter h .nil).map_path
  rw [List.append_nil, Listing.placesOf, Listing.placesOf, List.append_nil] at hpaths
  exact hpaths

end Census

/-! ## Whole scans -/

variable {env : Environment} {options : SurveyOptions} {root : Path} {s : Session}

theorem rootListing_eq_ok {listing : Listing} (h : rootListing env options root = .ok listing) :
    ∃ path node, env.files.canonical root = .ok path ∧ env.files.node path = .ok node ∧
      listing = .ofNode env.files options path node := by
  rw [rootListing] at h
  split at h
  · cases h
  · rename_i path hpath
    split at h
    · rename_i node hnode
      cases h
      exact ⟨path, node, hpath, hnode, rfl⟩
    · cases h

theorem rootListing_eq_error {error : Error} (h : rootListing env options root = .error error) :
    error = .rootNotFound root ∧ ∀ path, env.files.canonical root = .ok path →
      ∃ fault, env.files.node path = .error fault := by
  rw [rootListing] at h
  split at h
  · rename_i hcanonical
    cases h
    refine ⟨rfl, fun path hpath => ?_⟩
    rw [hcanonical] at hpath
    cases hpath
  · rename_i path hcanonical
    split at h
    · cases h
    · rename_i fault hnode
      cases h
      refine ⟨rfl, fun path hpath => ⟨fault, ?_⟩⟩
      rw [hcanonical] at hpath
      cases hpath
      exact hnode

theorem forest_enter {listing : Listing} (hordered : listing.IsOrdered) {branch : Branch}
    {c : Census} (h : (Census.start s).enter env listing = .ok (some branch, c)) :
    Forest Joins 0 [branch.entity] branch.entities ∧ c.nextId = branch.entities.length := by
  have hbelow (path : Path) (entries : List Listing) (faults : List FileFault)
      (hdirectory : (Listing.directory path entries faults).IsOrdered) :
      ∀ entry ∈ entries, entry.IsOrdered := by
    cases hdirectory with
    | directory _ _ _ hentries => exact hentries
  have htakes := Census.takes_enter h .nil
  obtain ⟨hforest, hnext, -⟩ :=
    htakes.forest_stems hbelow (List.forall_mem_singleton.2 hordered)
  rw [Option.toList_some, List.append_nil, List.flatMap_singleton] at hforest hnext
  rw [hnext]
  exact ⟨hforest.imp fun _ _ => Stems.joins, Nat.zero_add _⟩

/-- The entities of a census that enters a root always make a tree. -/
theorem scan_eq {listing : Listing} (hroot : rootListing env options root = .ok listing)
    (hordered : listing.IsOrdered) {branch : Branch} {c : Census}
    (h : (Census.start s).enter env listing = .ok (some branch, c)) :
    scan env options root s =
      .ok ⟨.ofForest branch.entity branch.entities, c.index, c.session⟩ := by
  obtain ⟨hforest, -⟩ := forest_enter hordered h
  rw [scan, hroot]
  simp only [bind, Except.bind, h, hforest.ofEntities?_eq]
  rfl

theorem scan_eq_ok {found : Scan} (h : scan env options root s = .ok found) :
    ∃ listing branch c, rootListing env options root = .ok listing ∧
      (Census.start s).enter env listing = .ok (some branch, c) ∧
      Forest Joins 0 [branch.entity] branch.entities ∧
      found = ⟨.ofForest branch.entity branch.entities, c.index, c.session⟩ := by
  have hscan := h
  obtain ⟨listing, hroot, h⟩ := bind_eq_ok h
  obtain ⟨⟨branch | branch, c⟩, henter, h⟩ := bind_eq_ok h
  · cases h
  · obtain ⟨path, node, -, -, rfl⟩ := rootListing_eq_ok hroot
    have hordered := Listing.isOrdered_ofNode env.files options path node
    rw [scan_eq hroot hordered henter] at hscan
    exact ⟨_, branch, c, hroot, henter, (forest_enter hordered henter).1,
      (Except.ok.inj hscan).symm⟩

/-- A scan that nobody stops makes a tree of all files and directories that are listed, whatever
else cannot be read. The tree is in pre-order, with no number left out and with children in the
order of their names. There is no tree only if there is nothing at the root, if the root itself is
neither a file nor a directory, or if some name is declared as often as there are keys. -/
theorem scan_isPreordered (hstop : ∀ look, env.stop look = false) (options : SurveyOptions)
    (root : Path) (s : Session) :
    (∃ found listing branch c, scan env options root s = .ok found ∧
      rootListing env options root = .ok listing ∧
      (Census.start s).enter env listing = .ok (some branch, c) ∧
      c.nextId = found.tree.size ∧ found.tree.entities.map Entity.path = listing.places ∧
      found.tree.IsPreordered ∧ found.tree.HasOrderedChildren) ∨
    (scan env options root s = .error (.rootNotFound root) ∧
      ∀ path, env.files.canonical root = .ok path →
        ∃ fault, env.files.node path = .error fault) ∨
    (∃ path node, scan env options root s = .error (.unreadable path .permissionDenied) ∧
      env.files.canonical root = .ok path ∧ env.files.node path = .ok node ∧
      (∀ file, node ≠ .regular file) ∧ ∀ entries faults, node ≠ .directory entries faults) ∨
    (scan env options root s = .error .keysExhausted ∧
      ∃ listing events branches name, rootListing env options root = .ok listing ∧
        Works env s.library [listing] events branches ∧
        UInt32.size ≤ ((registrations events).filter (·.given.name == name)).length) := by
  cases hroot : rootListing env options root with
  | error error =>
    obtain ⟨rfl, hnothing⟩ := rootListing_eq_error hroot
    refine .inr (.inl ⟨?_, hnothing⟩)
    rw [scan, hroot]
    rfl
  | ok listing =>
    obtain ⟨path, node, hpath, hnode, rfl⟩ := rootListing_eq_ok hroot
    have hordered := Listing.isOrdered_ofNode env.files options path node
    cases henter : (Census.start s).enter env (.ofNode env.files options path node) with
    | error error =>
      obtain ⟨rfl, hexhausts⟩ := Census.exhausts_of_enter hstop (.refl s.library) henter
      obtain ⟨events, branches, name, hworks, hmany⟩ := hexhausts.exists_name
      refine .inr (.inr (.inr ⟨?_, _, events, branches, name, rfl, hworks, hmany⟩))
      rw [scan, hroot]
      simp only [bind, Except.bind, henter]
    | ok result =>
      obtain ⟨branch | branch, c⟩ := result
      · have hplaces := Census.map_path_enter henter
        refine .inr (.inr (.inl ⟨path, node, ?_, hpath, hnode,
          Listing.ne_of_places_eq_nil hplaces.symm⟩))
        rw [scan, hroot]
        simp only [bind, Except.bind, henter, Listing.path_ofNode]
        rfl
      · obtain ⟨hforest, hnext⟩ := forest_enter hordered henter
        have hplaces := Census.map_path_enter henter
        rw [Option.toList_some, List.flatMap_singleton] at hplaces
        refine .inl ⟨_, _, branch, c, scan_eq hroot hordered henter, rfl, henter, ?_, ?_,
          isPreordered_of_joins hforest, hasOrderedChildren_of_joins hforest⟩
        · rw [hnext, EntityTree.size, EntityTree.ofForest, List.length_map]
        · rw [← hplaces, EntityTree.ofForest, List.map_map]
          rfl

/-- Entries out of order, of which some cannot be read, and a link that leads nowhere. -/
theorem scan_isPreordered_unreadable_entries :
    let files : FileSystem :=
      ⟨.directory [(['d'], .file [120]), (['b'], .unreadable), (['c'], .link ['z']),
        (['a'], .directory [(['y'], .file []), (['x'], .unreadable), (['w'], .directory [])])],
        ['/']⟩
    let env : Environment := ⟨fun _ => .ok fun _ => none, files, ⟨[], []⟩, unstopped⟩
    let session := Session.start ⟨['/'], []⟩ (.ofCapacity 1)
    (∀ look, env.stop look = false) ∧
      ∃ found, scan env ⟨fun _ => false, false⟩ ['/'] session = .ok found ∧
        found.tree.IsPreordered ∧ found.tree.HasOrderedChildren ∧
        found.tree.entities.map (fun e => (e.path, e.parent)) =
          [(['/'], none), (['/', 'a'], some 0), (['/', 'a', '/', 'w'], some 1),
            (['/', 'a', '/', 'y'], some 1), (['/', 'd'], some 0)] := by
  intro files env session
  have hstop : ∀ look, env.stop look = false := fun _ => rfl
  have hsome : (scan env ⟨fun _ => false, false⟩ ['/'] session).toOption.map
      (fun found => found.tree.entities.map fun e => (e.path, e.parent)) =
        some [(['/'], none), (['/', 'a'], some 0), (['/', 'a', '/', 'w'], some 1),
          (['/', 'a', '/', 'y'], some 1), (['/', 'd'], some 0)] := by
    set_option maxRecDepth 2000 in cbv
  refine ⟨hstop, ?_⟩
  obtain ⟨found, _, _, _, hscan, -, -, -, -, htree, hchildren⟩ | ⟨hscan, -⟩ |
      ⟨path, _, hscan, -⟩ | ⟨hscan, -⟩ :=
    scan_isPreordered hstop ⟨fun _ => false, false⟩ ['/'] session
  · rw [hscan] at hsome
    exact ⟨found, hscan, htree, hchildren, Option.some.inj hsome⟩
  all_goals
    rw [hscan] at hsome
    cases hsome

end Survey

end SourceAtlas
