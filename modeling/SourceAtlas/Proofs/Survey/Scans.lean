import SourceAtlas.Proofs.Entity.Traversal
import SourceAtlas.Proofs.Survey.Numbering

/-!
# Scans by any number of workers

However many workers there are and whatever numbers they hand out, what they make of a listing
(`ScansTo`) is the tree of a grove: each file and each directory that is listed has its entity,
below that of the directory where it is listed. A scan is the case of one worker.
-/

namespace SourceAtlas.Survey

/-! ## The entities of workers -/

namespace Works

variable {env : Environment} {library : RuleLibrary} {listings : List Listing}
  {events : List Event} {branches : List Branch}

theorem stems_of_isFresh {IsListed : Listing → Prop} {e : Entity} {id : EntityId} {path : Path}
    {file : FileData} (hfresh : e.IsFresh id path) (hkind : e.isDirectory = false)
    (hfile : IsListed (.file path file)) (keyed : List Identifier) :
    Stems IsListed { e with identifiers := keyed } [] := by
  obtain rfl := hfresh.path_eq
  exact ⟨hfresh.parent, hfresh.name_eq, .inl ⟨file, hfile, hkind, rfl⟩⟩

/-- The entities that workers make of listings are a grove, with an entity at the top for each file
and each directory of the listings. -/
theorem grove_stems {IsListed : Listing → Prop}
    (hbelow : ∀ path entries faults, IsListed (.directory path entries faults) →
      ∀ entry ∈ entries, IsListed entry)
    (h : Works env library listings events branches)
    (hlisted : ∀ listing ∈ listings, IsListed listing) :
    Grove (Stems IsListed) (branches.map Branch.entity) (branches.flatMap Branch.entities) ∧
      branches.map (·.entity.path) = listings.filterMap Listing.place? := by
  induction h with
  | nil => exact ⟨.nil, rfl⟩
  | @file path file listings others events branches id keyed length_eq rest order ih =>
    obtain ⟨hfile, hlisted⟩ := List.forall_mem_cons.1 hlisted
    obtain ⟨hgrove, hpaths⟩ := ih hlisted
    have hfresh := Census.isFresh_readFile env library id path file
    have hstems := stems_of_isFresh hfresh
      (Census.isDirectory_readFile env library id path file) hfile keyed
    have hchildren : (Census.readFile env library id path file).1.children =
        [].map Entity.id := hfresh.children
    refine ⟨.cons hchildren hstems .nil hgrove, ?_⟩
    rw [List.map_cons, hpaths]
    exact congrArg (· :: _) hfresh.path_eq
  | @directory path entries faults listings inner others events children branches id below rest
      order ihbelow ihrest =>
    obtain ⟨hdirectory, hlisted⟩ := List.forall_mem_cons.1 hlisted
    obtain ⟨hinside, hchildren⟩ := ihbelow (hbelow path entries faults hdirectory)
    obtain ⟨hgrove, hpaths⟩ := ihrest hlisted
    have hstems : Stems IsListed (Branch.ofChildren (Entity.directory id path) children).entity
        (children.map Branch.entity) := by
      refine ⟨rfl, rfl, .inr ⟨entries, faults, hdirectory, rfl, ?_⟩⟩
      rw [List.map_map]
      exact hchildren
    refine ⟨.cons ?_ hstems hinside hgrove, congrArg (path :: ·) hpaths⟩
    rw [List.map_map]
    rfl
  | directoryLink rest ih => exact ih (List.forall_mem_cons.1 hlisted).2
  | unreadable rest ih => exact ih (List.forall_mem_cons.1 hlisted).2

theorem unlinked (h : Works env library listings events branches) :
    ∀ e ∈ branches.flatMap Branch.entities, e.dependencies = [] ∧ e.dependants = [] := by
  induction h with
  | nil => exact List.forall_mem_nil _
  | @file path file _ _ _ _ id keyed length_eq rest order ih =>
    rw [List.flatMap_cons, List.forall_mem_append]
    refine ⟨List.forall_mem_singleton.2 ?_, ih⟩
    exact (Census.isFresh_readFile env library id path file).unlinked
  | directory id below rest order ihbelow ihrest =>
    rw [List.flatMap_cons, List.forall_mem_append]
    exact ⟨List.forall_mem_cons.2 ⟨⟨rfl, rfl⟩, ihbelow⟩, ihrest⟩
  | directoryLink rest ih => exact ih
  | unreadable rest ih => exact ih

end Works

/-! ## Trees that workers may come to -/

/-- What any number of workers may make of a listing: a tree, and the index of its identifiers. -/
def ScansTo (env : Environment) (library : RuleLibrary) (listing : Listing) (tree : EntityTree)
    (index : IdentifierIndex) : Prop :=
  ∃ events branch count, Works env library [listing] events [branch] ∧
    Happens 0 .empty events count index ∧
    EntityTree.ofEntities? branch.entity.id branch.entities = some tree

variable {env : Environment} {library : RuleLibrary} {listing : Listing} {tree : EntityTree}
  {index : IdentifierIndex}

theorem ScansTo.isUnlinked (h : ScansTo env library listing tree index) : tree.IsUnlinked := by
  obtain ⟨events, branch, count, hworks, -, htree⟩ := h
  intro e he
  obtain ⟨k, hk⟩ := List.mem_iff_getElem?.1 he
  obtain ⟨e₀, he₀, -, parent, rfl⟩ := EntityTree.exists_mem_of_get?_ofEntities? htree hk
  have hunlinked := hworks.unlinked
  rw [List.flatMap_singleton] at hunlinked
  exact hunlinked e₀ he₀

/-- What workers make of a listing is a tree of a grove with its root at the top. -/
theorem ScansTo.exists_grove_stems (h : ScansTo env library listing tree index)
    (IsListed : Listing → Prop)
    (hbelow : ∀ path entries faults, IsListed (.directory path entries faults) →
      ∀ entry ∈ entries, IsListed entry)
    (hlisting : IsListed listing) :
    ∃ top entities, Grove (Stems IsListed) [top] entities ∧
      tree.Places entities ∧ tree.root = top.id ∧ top.path = listing.path := by
  obtain ⟨events, branch, count, hworks, -, htree⟩ := h
  obtain ⟨hgrove, hpaths⟩ := hworks.grove_stems hbelow (List.forall_mem_singleton.2 hlisting)
  rw [List.flatMap_singleton] at hgrove
  refine ⟨branch.entity, branch.entities, hgrove, EntityTree.places_ofEntities? htree,
    EntityTree.root_ofEntities? htree, ?_⟩
  rw [List.map_singleton, List.filterMap_cons] at hpaths
  split at hpaths
  · cases hpaths
  · rename_i place hplace
    rw [(List.cons.inj hpaths).1, (Listing.place?_eq_some hplace).1]

theorem ScansTo.isNumbered (h : ScansTo env library listing tree index) : tree.IsNumbered := by
  obtain ⟨events, branch, count, -, -, htree⟩ := h
  exact EntityTree.isNumbered_ofEntities? htree

/-! ## One worker -/

variable {options : SurveyOptions} {root : Path} {s : Session} {found : Scan}

/-- A scan is what one worker makes of the listing at the root. -/
theorem scansTo_scan (h : scan env options root s = .ok found) :
    ∃ listing, rootListing env options root = .ok listing ∧
      ScansTo env s.library listing found.tree found.index ∧
      found.tree.IsPreordered ∧
      found.index.all = found.tree.entities.flatMap Entity.identifiers := by
  obtain ⟨listing, branch, c, hroot, henter, hforest, rfl⟩ := scan_eq_ok h
  have htakes := Census.takes_enter henter .nil
  obtain ⟨events, hworks, hhappens, hkeyed⟩ := htakes.exists_works (.refl s.library)
  refine ⟨listing, hroot, ⟨events, branch, _, hworks, hhappens, hforest.ofEntities?_eq⟩,
    isPreordered_of_joins hforest, ?_⟩
  calc
    c.index.all = (registrations events).map Registration.keyed := hhappens.index_eq.1
    _ = ([branch].flatMap Branch.entities).flatMap Entity.identifiers := hkeyed
    _ = branch.entities.flatMap Entity.identifiers := by rw [List.flatMap_singleton]
    _ = (EntityTree.ofForest branch.entity branch.entities).entities.flatMap
        Entity.identifiers := by
      rw [EntityTree.ofForest, List.flatMap_map]
      rfl

theorem sameRules_scan (h : scan env options root s = .ok found) :
    RuleLibrary.SameRules env.patterns env.files s.library found.session.library := by
  obtain ⟨listing, branch, c, -, henter, -, rfl⟩ := scan_eq_ok h
  exact (Census.takes_enter henter .nil).sameRules

end SourceAtlas.Survey
