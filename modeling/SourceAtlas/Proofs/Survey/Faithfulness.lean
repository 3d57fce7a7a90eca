import Mathlib.Data.List.Basic
import SourceAtlas.Proofs.FileSystem.Trails

/-!
# Listings and the file system

Which entries of a directory belong in a survey is said of the file system alone (`Admits`): what
stands at a path is found by looking it up from the root, with links followed. Listing the directory
shows them all, unless it meets a fault (`Shows`). A listing, which goes through the nodes of
directories instead, tells the same on every level (`IsFaithful`).
-/

namespace SourceAtlas

namespace FileSystem

/-- There is a directory at a path. -/
def IsDirectoryAt (fs : FileSystem) (path : Path) : Prop :=
  ∃ entries faults, fs.node path = .ok (.directory entries faults)

/-- The directory at a path has an entry with a name. -/
def HasEntry (fs : FileSystem) (dir : Path) (name : Text) (entry : Node) : Prop :=
  ∃ entries faults, fs.node dir = .ok (.directory entries faults) ∧ (name, entry) ∈ entries

/-- Listing a directory does not miss the name that another path ends in. -/
def Shows (fs : FileSystem) (dir path : Path) : Prop :=
  ∃ entries faults, fs.node dir = .ok (.directory entries faults) ∧
    (Path.fileName? path).all (Node.isListed faults)

/-- Listing the directory at a path meets no fault. -/
def IsListable (fs : FileSystem) (dir : Path) : Prop :=
  ∃ entries, fs.node dir = .ok (.directory entries [])

/-- There is a file or a directory at a path, of which it can be told that it is one. -/
def IsReadableAt (fs : FileSystem) (path : Path) : Prop :=
  (∃ file, fs.node path = .ok (.regular file)) ∨ fs.IsDirectoryAt path

theorem IsListable.shows {fs : FileSystem} {dir : Path} (h : fs.IsListable dir) (path : Path) :
    fs.Shows dir path := by
  obtain ⟨entries, hnode⟩ := h
  refine ⟨entries, [], hnode, ?_⟩
  rw [Option.all_eq_true]
  exact fun _ _ => rfl

end FileSystem

/-- An entry of a directory that belongs in a survey: it is not a link to a directory, the options
include it, and it can be read. -/
structure SurveyOptions.Admits (options : SurveyOptions) (fs : FileSystem) (dir path : Path) :
    Prop where
  isEntry : ∃ name node, fs.HasEntry dir name node ∧ path = Path.join dir name ∧
    ((∃ target, node = .link target) → ¬ fs.IsDirectoryAt path)
  included : options.includes path
  readable : fs.IsReadableAt path

namespace Listing

variable {fs : FileSystem} {options : SurveyOptions}

theorem ofEntries_eq (path : Path) (faults : List ListingFault) (entries : List (Text × Node)) :
    ofEntries fs options path faults entries =
      (entries.map fun (name, node) => (name, ofNode fs options (Path.join path name) node)).filter
        fun (name, listing) => Node.isListed faults name &&
          (listing.isDirectoryLink || options.includes (Path.join path name)) := by
  induction entries with
  | nil => rw [ofEntries, List.map_nil, List.filter_nil]
  | cons entry entries ih =>
    obtain ⟨name, node⟩ := entry
    rw [ofEntries, List.map_cons, List.filter_cons, ih]

theorem mem_ofEntries {path : Path} {faults : List ListingFault} {entries : List (Text × Node)}
    {name : Text} {listing : Listing} :
    (name, listing) ∈ ofEntries fs options path faults entries ↔
      (∃ node, (name, node) ∈ entries ∧
        listing = ofNode fs options (Path.join path name) node) ∧
      Node.isListed faults name ∧
      (listing.isDirectoryLink || options.includes (Path.join path name)) := by
  rw [ofEntries_eq, List.mem_filter, List.mem_map, Bool.and_eq_true]
  apply and_congr_left
  intro _
  constructor
  · rintro ⟨⟨name', node⟩, hmem, heq⟩
    cases heq
    exact ⟨node, hmem, rfl⟩
  · rintro ⟨node, hmem, heq⟩
    exact ⟨(name, node), hmem, Prod.ext rfl heq.symm⟩

theorem map_fst_ofEntries_sublist (fs : FileSystem) (options : SurveyOptions) (path : Path)
    (faults : List ListingFault) (entries : List (Text × Node)) :
    ((ofEntries fs options path faults entries).map Prod.fst).Sublist (entries.map Prod.fst) := by
  rw [ofEntries_eq]
  refine (List.filter_sublist.map Prod.fst).trans ?_
  rw [List.map_map]
  exact .refl _

/-! ## What an entry is met as -/

/-- An entity is made of what can be read, except a link to a directory. -/
theorem place?_ofNode {path place : Path} {node : Node}
    (h : (∀ target, node ≠ .link target) → fs.node path = .ok node) :
    (ofNode fs options path node).place? = some place ↔
      place = path ∧ fs.IsReadableAt path ∧
        ((∃ target, node = .link target) → ¬ fs.IsDirectoryAt path) := by
  have hsome {p : Prop} (hp : p) : some path = some place ↔ place = path ∧ p := by
    rw [Option.some_inj, eq_comm, and_iff_left hp]
  have hnone {p : Prop} (hp : ¬ p) : none = some place ↔ place = path ∧ p := by
    simp [hp]
  cases node with
  | regular file =>
    have hnode : fs.node path = .ok (.regular file) := h (by intro target heq; cases heq)
    rw [ofNode, place?]
    apply hsome
    refine ⟨.inl ⟨file, hnode⟩, ?_⟩
    rintro ⟨target, heq⟩
    cases heq
  | directory entries faults =>
    have hnode : fs.node path = .ok (.directory entries faults) :=
      h (by intro target heq; cases heq)
    rw [ofNode, place?]
    apply hsome
    refine ⟨.inr ⟨entries, faults, hnode⟩, ?_⟩
    rintro ⟨target, heq⟩
    cases heq
  | link target =>
    rw [ofNode, ofLink]
    split
    · rename_i file hnode
      apply hsome
      refine ⟨.inl ⟨file, hnode⟩, ?_⟩
      rintro - ⟨entries, faults, hdirectory⟩
      rw [hnode] at hdirectory
      cases hdirectory
    · rename_i entries faults hnode
      apply hnone
      rintro ⟨-, hlink⟩
      exact hlink ⟨target, rfl⟩ ⟨entries, faults, hnode⟩
    · rename_i hfile hdirectory
      apply hnone
      rintro ⟨⟨file, hnode⟩ | ⟨entries, faults, hnode⟩, -⟩
      · exact hfile file hnode
      · exact hdirectory entries faults hnode
  | unreadable =>
    have hnode : fs.node path = .ok .unreadable := h (by intro target heq; cases heq)
    rw [ofNode, place?]
    apply hnone
    rintro ⟨⟨file, hfile⟩ | ⟨entries, faults, hdirectory⟩, -⟩
    · rw [hnode] at hfile
      cases hfile
    · rw [hnode] at hdirectory
      cases hdirectory

/-- What a listing tells of a directory: which places it has below it, in the order of their
names. -/
structure Lists (fs : FileSystem) (options : SurveyOptions) (dir : Path) (places : List Path) :
    Prop where
  isDirectory : fs.IsDirectoryAt dir
  inOrder : ∃ names : List Text, names.Pairwise (· < ·) ∧ places = names.map (Path.join dir) ∧
    ∀ name ∈ names, Path.IsFileName name ∧
      Path.components (Path.join dir name) = Path.components dir ++ [.name name]
  mem_iff : ∀ path, path ∈ places ↔ fs.Shows dir path ∧ options.Admits fs dir path

/-- A listing that tells what is in a file system. -/
inductive IsFaithful (fs : FileSystem) (options : SurveyOptions) : Listing → Prop
  | file {path : Path} {file : FileData} (node : fs.node path = .ok (.regular file)) :
      IsFaithful fs options (.file path file)
  | directory {path : Path} {entries : List Listing} {faults : List FileFault}
      (lists : Lists fs options path (entries.filterMap place?))
      (below : ∀ entry ∈ entries, IsFaithful fs options entry) :
      IsFaithful fs options (.directory path entries faults)
  | directoryLink {path : Path} : IsFaithful fs options (.directoryLink path)
  | unreadable {path : Path} : IsFaithful fs options (.unreadable path)

theorem isFaithful_ofLink (fs : FileSystem) (options : SurveyOptions) (path : Path) :
    (ofLink fs path).IsFaithful fs options := by
  rw [ofLink]
  split
  · exact .file ‹_›
  · exact .directoryLink
  · exact .unreadable

/-! ## What a directory is met as -/

theorem mem_filterMap_arrange {listings : List (Text × Listing)} {place : Path} :
    place ∈ (arrange listings).filterMap place? ↔
      ∃ entry ∈ listings, entry.2.place? = some place := by
  simp only [arrange, List.mem_filterMap, List.mem_map, List.mem_mergeSort]
  constructor
  · rintro ⟨_, ⟨entry, hentry, rfl⟩, hplace⟩
    exact ⟨entry, hentry, hplace⟩
  · rintro ⟨entry, hentry, hplace⟩
    exact ⟨_, ⟨entry, hentry, rfl⟩, hplace⟩

/-- Listings of different names are arranged in the order of their names, also those that entities
are made of. -/
theorem exists_names_arrange {path : Path} {listings : List (Text × Listing)}
    (hpath : ∀ entry ∈ listings, entry.2.path = Path.join path entry.1)
    (hnodup : (listings.map Prod.fst).Nodup) :
    ∃ names : List Text, names.Pairwise (· < ·) ∧ names ⊆ listings.map Prod.fst ∧
      (arrange listings).filterMap place? = names.map (Path.join path) := by
  have hperm := List.mergeSort_perm listings fun a b => !decide (b.1 < a.1)
  have hsorted := pairwise_mergeSort_names listings
  rw [arrange]
  generalize listings.mergeSort (fun a b => !decide (b.1 < a.1)) = sorted at hperm hsorted
  have hkept : (sorted.filter (·.2.place?.isSome)).Sublist sorted := List.filter_sublist
  refine ⟨(sorted.filter (·.2.place?.isSome)).map Prod.fst, ?_, ?_, ?_⟩
  · have hnames : (sorted.map Prod.fst).Pairwise (· < ·) := by
      have hle : (sorted.map Prod.fst).Pairwise fun a b => ¬ b < a := List.pairwise_map.2 hsorted
      have hne := (hperm.map Prod.fst).nodup_iff.2 hnodup
      apply (hle.and hne).imp
      rintro a b ⟨hle, hne⟩
      exact (List.le_iff_lt_or_eq.1 hle).resolve_right hne
    exact hnames.sublist (hkept.map Prod.fst)
  · intro name hname
    exact (hperm.map Prod.fst).subset ((hkept.map Prod.fst).subset hname)
  · rw [List.map_map, List.filterMap_map, ← List.filterMap_eq_map, List.filterMap_filter]
    apply List.filterMap_congr
    intro entry hentry
    cases hplace : entry.2.place? with
    | none => simp [hplace]
    | some place =>
      have hpath := hpath entry (hperm.subset hentry)
      simp [hplace, ← hpath, (place?_eq_some hplace).1]

/-! ## Whole listings -/

open FileSystem

variable {trail : Trail} {entries : List (Text × Node)} {faults : List ListingFault}

theorem mem_places_iff (hfs : fs.IsWellFormed) (h : IsTrail fs.root trail)
    (hdirectory : nodeAt fs.root trail = .directory entries faults) (place : Path) :
    place ∈ (arrange (ofEntries fs options (pathOf trail) faults entries)).filterMap place? ↔
      fs.Shows (pathOf trail) place ∧ options.Admits fs (pathOf trail) place := by
  rw [mem_filterMap_arrange]
  have hnode : fs.node (pathOf trail) = .ok (.directory entries faults) := by
    rw [node_pathOf hfs h, hdirectory]
  have hname {name : Text} {node : Node} (hentry : (name, node) ∈ entries) :
      Path.fileName? (Path.join (pathOf trail) name) = some name :=
    Path.fileName?_join ((h.proper_entries hfs hdirectory).1 _ hentry) _
  have hplace {name : Text} {node : Node} (hentry : (name, node) ∈ entries) :
      (ofNode fs options (Path.join (pathOf trail) name) node).place? = some place ↔ _ :=
    place?_ofNode (node_join hfs h hdirectory hentry)
  constructor
  · rintro ⟨⟨name, listing⟩, hlisted, hsome⟩
    obtain ⟨⟨node, hentry, rfl⟩, hshown, hkept⟩ := mem_ofEntries.1 hlisted
    rw [(place?_eq_some hsome).2, Bool.false_or] at hkept
    obtain ⟨rfl, hreadable, hlink⟩ := (hplace hentry).1 hsome
    refine ⟨⟨entries, faults, hnode, ?_⟩, ?_⟩
    · rw [hname hentry]
      exact hshown
    · exact ⟨⟨name, node, ⟨entries, faults, hnode, hentry⟩, rfl, hlink⟩, hkept, hreadable⟩
  · rintro ⟨⟨entries₁, faults₁, hnode₁, hshown⟩, hadmits⟩
    obtain ⟨⟨name, node, ⟨entries₂, faults₂, hnode₂, hentry⟩, rfl, hlink⟩, hincluded, hreadable⟩ :=
      hadmits
    rw [hnode] at hnode₁ hnode₂
    cases hnode₁
    cases hnode₂
    rw [hname hentry] at hshown
    refine ⟨(name, ofNode fs options (Path.join (pathOf trail) name) node), ?_, ?_⟩
    · exact mem_ofEntries.2
        ⟨⟨node, hentry, rfl⟩, hshown, Bool.or_eq_true_iff.2 (.inr hincluded)⟩
    · exact (hplace hentry).2 ⟨rfl, hreadable, hlink⟩

theorem lists_ofEntries (hfs : fs.IsWellFormed) (h : IsTrail fs.root trail)
    (hdirectory : nodeAt fs.root trail = .directory entries faults) :
    Lists fs options (pathOf trail)
      ((arrange (ofEntries fs options (pathOf trail) faults entries)).filterMap place?) := by
  obtain ⟨hproper, hnodup⟩ := h.proper_entries hfs hdirectory
  refine ⟨⟨entries, faults, ?_⟩, ?_, mem_places_iff hfs h hdirectory⟩
  · rw [node_pathOf hfs h, hdirectory]
  · have hsublist := map_fst_ofEntries_sublist fs options (pathOf trail) faults entries
    have hpath : ∀ entry ∈ ofEntries fs options (pathOf trail) faults entries,
        entry.2.path = Path.join (pathOf trail) entry.1 := by
      rintro ⟨name, listing⟩ hentry
      obtain ⟨⟨node, -, rfl⟩, -⟩ := mem_ofEntries.1 hentry
      exact path_ofNode fs options _ node
    obtain ⟨names, hordered, hmem, hplaces⟩ :=
      exists_names_arrange hpath (hnodup.sublist hsublist)
    refine ⟨names, hordered, hplaces, ?_⟩
    intro name hname
    have hproper : Path.IsFileName name := by
      obtain ⟨entry, hentry, rfl⟩ := List.mem_map.1 (hsublist.subset (hmem hname))
      exact hproper entry hentry
    exact ⟨hproper, components_join_pathOf hfs h hproper⟩

/-- A listing tells what is in the file system. -/
theorem isFaithful_ofNode (hfs : fs.IsWellFormed) {node : Node} (hnode : node.IsWellFormed)
    (h : IsTrail fs.root trail) (hat : nodeAt fs.root trail = node) :
    (ofNode fs options (pathOf trail) node).IsFaithful fs options := by
  induction hnode generalizing trail with
  | regular =>
    rw [ofNode]
    apply IsFaithful.file
    rw [node_pathOf hfs h, hat]
  | @directory entries faults names nodup below ih =>
    rw [ofNode]
    refine .directory (lists_ofEntries hfs h hat) ?_
    intro listing hlisting
    rw [arrange] at hlisting
    obtain ⟨⟨name, listing'⟩, hlisted, rfl⟩ := List.mem_map.1 hlisting
    obtain ⟨⟨node, hentry, rfl⟩, -⟩ := mem_ofEntries.1 (List.mem_mergeSort.1 hlisted)
    by_cases hlink : ∃ target, node = .link target
    · obtain ⟨target, rfl⟩ := hlink
      rw [ofNode]
      exact isFaithful_ofLink fs options _
    · have hlink : ∀ target, node ≠ .link target := fun target heq => hlink ⟨target, heq⟩
      show IsFaithful fs options (ofNode fs options _ node)
      rw [join_pathOf hfs h (names _ hentry) node]
      exact ih (name, node) hentry (h.entry hfs hat hentry hlink) rfl
  | link =>
    rw [ofNode]
    exact isFaithful_ofLink fs options _
  | unreadable =>
    rw [ofNode]
    exact .unreadable

end Listing

end SourceAtlas
