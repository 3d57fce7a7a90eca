import SourceAtlas.Proofs.Text.Cutting
import SourceAtlas.Survey.Listing

/-!
# Listings in the order of names

The files and directories of a listing have places in pre-order (`places`). The entries of a
directory are listed in the order of their names, on every level of a listing (`IsOrdered`). The
name of an entry is the last component of its path, as long as it is a name that an entry can have
in a directory.
-/

namespace SourceAtlas

/-! ## Names of entries -/

namespace Path

/-- A name that leads from a directory to one of its entries. -/
structure IsFileName (name : Text) : Prop where
  ne_nil : name ≠ []
  slash : '/' ∉ name
  ne_current : name ≠ ['.']
  ne_parent : name ≠ ['.', '.']

instance (name : Text) : Decidable (IsFileName name) :=
  decidable_of_iff (name ≠ [] ∧ '/' ∉ name ∧ name ≠ ['.'] ∧ name ≠ ['.', '.'])
    ⟨fun h => ⟨h.1, h.2.1, h.2.2.1, h.2.2.2⟩,
      fun h => ⟨h.ne_nil, h.slash, h.ne_current, h.ne_parent⟩⟩

variable {name : Text}

theorem IsFileName.isVoid_eq (h : IsFileName name) : isVoid name = false := by
  simp [isVoid, h.ne_nil, h.ne_current]

theorem IsFileName.component?_eq (h : IsFileName name) : component? name = some (.name name) := by
  rw [component?, h.isVoid_eq]
  simp [h.ne_parent]

theorem cutAt_slash (h : '/' ∉ name) : Text.cutAt (· == '/') name = [name] := by
  apply Text.cutAt_of_forall_not
  intro c hc
  rw [beq_iff_eq]
  rintro rfl
  exact h hc

theorem cutAt_append_slash (base : Text) (h : '/' ∉ name) :
    Text.cutAt (· == '/') (base ++ '/' :: name) = Text.cutAt (· == '/') base ++ [name] := by
  rw [Text.cutAt_append base (by simp), cutAt_slash h]

theorem exists_pieces_append (base : Path) (h : '/' ∉ name) :
    ∃ ps, pieces (base ++ '/' :: name) = ps ++ [name] := by
  rw [pieces, anchor]
  split
  · cases base with
    | nil => exact ⟨[], cutAt_slash h⟩
    | cons c base => exact ⟨_, cutAt_append_slash base h⟩
  · exact ⟨_, cutAt_append_slash base h⟩

theorem IsFileName.isAbsolute_eq (h : IsFileName name) : isAbsolute name = false := by
  rw [isAbsolute, beq_eq_false_iff_ne]
  intro hhead
  exact h.slash (List.mem_of_head? hhead)

theorem IsFileName.pieces_eq (h : IsFileName name) : pieces name = [name] := by
  have hcurrent : startsAtCurrent name = false := by
    unfold startsAtCurrent
    split
    · exact absurd rfl h.ne_current
    · exact absurd (by simp) h.slash
    · rfl
  rw [pieces, anchor, h.isAbsolute_eq, hcurrent]
  exact cutAt_slash h.slash

theorem fileName?_of_pieces {p : Path} {ps : List Text} (hp : pieces p = ps ++ [name])
    (h : IsFileName name) : fileName? p = some name := by
  rw [fileName?, components, hp, List.filterMap_append, ← List.append_assoc]
  simp [h.component?_eq]

theorem fileName?_join (h : IsFileName name) (base : Path) :
    fileName? (join base name) = some name := by
  rw [join, h.isAbsolute_eq, Bool.false_or]
  split
  · exact fileName?_of_pieces (List.nil_append [name] ▸ h.pieces_eq) h
  · split
    · rename_i hlast
      obtain ⟨before, rfl⟩ := List.getLast?_eq_some_iff.1 (beq_iff_eq.1 hlast)
      obtain ⟨ps, hps⟩ := exists_pieces_append before h.slash
      rw [List.append_assoc, List.singleton_append]
      exact fileName?_of_pieces hps h
    · obtain ⟨ps, hps⟩ := exists_pieces_append base h.slash
      exact fileName?_of_pieces hps h

end Path

namespace Listing

/-! ## Places -/

/-- The path of a listing that an entity is made of: a file or a directory. -/
def place? : Listing → Option Path
  | file path _ | directory path _ _ => some path
  | directoryLink _ | unreadable _ => none

theorem place?_eq_some {listing : Listing} {place : Path} (h : listing.place? = some place) :
    listing.path = place ∧ listing.isDirectoryLink = false := by
  cases listing with
  | file path file =>
    cases h
    exact ⟨rfl, rfl⟩
  | directory path entries faults =>
    cases h
    exact ⟨rfl, rfl⟩
  | directoryLink path => cases h
  | unreadable path => cases h

theorem filterMap_place?_sublist (listings : List Listing) :
    (listings.filterMap place?).Sublist (listings.map Listing.path) := by
  induction listings with
  | nil => exact .slnil
  | cons listing listings ih =>
    cases listing with
    | file path file => exact ih.cons_cons path
    | directory path entries faults => exact ih.cons_cons path
    | directoryLink path => exact ih.cons path
    | unreadable path => exact ih.cons path

mutual

/-- The paths of the files and directories of a listing, a directory before what it holds. -/
def places : Listing → List Path
  | file path _ => [path]
  | directory path entries _ => path :: placesOf entries
  | directoryLink _ | unreadable _ => []

def placesOf : List Listing → List Path
  | [] => []
  | listing :: listings => listing.places ++ placesOf listings

end

/-! ## Order -/

/-- Directories list their entries in the order of names. -/
inductive IsOrdered : Listing → Prop
  | file {path : Path} {file : FileData} : IsOrdered (.file path file)
  | directory {path : Path} {entries : List Listing} {faults : List FileFault} (names : List Text)
      (inOrder : names.Pairwise fun a b => ¬ b < a)
      (paths : entries.map Listing.path = names.map (Path.join path))
      (ordered : ∀ entry ∈ entries, entry.IsOrdered) :
      IsOrdered (.directory path entries faults)
  | directoryLink {path : Path} : IsOrdered (.directoryLink path)
  | unreadable {path : Path} : IsOrdered (.unreadable path)

theorem isOrdered_ofLink (fs : FileSystem) (path : Path) : (ofLink fs path).IsOrdered := by
  rw [ofLink]
  split
  · exact .file
  · exact .directoryLink
  · exact .unreadable

theorem path_ofLink (fs : FileSystem) (path : Path) : (ofLink fs path).path = path := by
  rw [ofLink]
  split <;> rfl

/-- Files and directories have places. -/
theorem ne_of_places_eq_nil {fs : FileSystem} {options : SurveyOptions} {path : Path} {node : Node}
    (h : (ofNode fs options path node).places = []) :
    (∀ file, node ≠ .regular file) ∧ ∀ entries faults, node ≠ .directory entries faults := by
  constructor
  · rintro file rfl
    rw [ofNode, places] at h
    cases h
  · rintro entries faults rfl
    rw [ofNode, places] at h
    cases h

theorem path_ofNode (fs : FileSystem) (options : SurveyOptions) (path : Path) (node : Node) :
    (ofNode fs options path node).path = path := by
  cases node with
  | regular file => rw [ofNode, Listing.path]
  | directory entries faults => rw [ofNode, Listing.path]
  | link target => rw [ofNode, path_ofLink]
  | unreadable => rw [ofNode, Listing.path]

theorem pairwise_mergeSort_names (listings : List (Text × Listing)) :
    (listings.mergeSort fun a b => !decide (b.1 < a.1)).Pairwise fun a b => ¬ b.1 < a.1 := by
  have hsorted : (listings.mergeSort fun a b => !decide (b.1 < a.1)).Pairwise
      fun a b => !decide (b.1 < a.1) := by
    apply List.pairwise_mergeSort
    · intro a b c hab hbc
      rw [Bool.not_eq_true', decide_eq_false_iff_not] at *
      exact List.le_trans hab hbc
    · intro a b
      rw [Bool.or_eq_true, Bool.not_eq_true', Bool.not_eq_true', decide_eq_false_iff_not,
        decide_eq_false_iff_not]
      exact List.le_total a.1 b.1
  exact hsorted.imp fun hab => by simpa using hab

theorem isOrdered_arrange {path : Path} {listings : List (Text × Listing)}
    (h : ∀ entry ∈ listings, entry.2.path = Path.join path entry.1 ∧ entry.2.IsOrdered)
    (faults : List FileFault) : (directory path (arrange listings) faults).IsOrdered := by
  have hmem {entry : Text × Listing}
      (hentry : entry ∈ listings.mergeSort fun a b => !decide (b.1 < a.1)) :=
    h entry (List.mem_mergeSort.1 hentry)
  refine .directory ((listings.mergeSort fun a b => !decide (b.1 < a.1)).map Prod.fst) ?_ ?_ ?_
  · exact List.pairwise_map.2 (pairwise_mergeSort_names listings)
  · rw [arrange, List.map_map, List.map_map]
    exact List.map_congr_left fun entry hentry => (hmem hentry).1
  · intro entry hentry
    obtain ⟨named, hnamed, rfl⟩ := List.mem_map.1 hentry
    exact (hmem hnamed).2

-- The recursion is that of the node: a directory holds the nodes of its entries.
mutual

theorem isOrdered_ofNode (fs : FileSystem) (options : SurveyOptions) (path : Path) (node : Node) :
    (ofNode fs options path node).IsOrdered := by
  cases node with
  | regular file =>
    rw [ofNode]
    exact .file
  | directory entries faults =>
    rw [ofNode]
    exact isOrdered_arrange (isOrdered_ofEntries fs options path faults entries) _
  | link target =>
    rw [ofNode]
    exact isOrdered_ofLink fs path
  | unreadable =>
    rw [ofNode]
    exact .unreadable

theorem isOrdered_ofEntries (fs : FileSystem) (options : SurveyOptions) (path : Path)
    (faults : List ListingFault) (entries : List (Text × Node)) :
    ∀ entry ∈ ofEntries fs options path faults entries,
      entry.2.path = Path.join path entry.1 ∧ entry.2.IsOrdered := by
  cases entries with
  | nil =>
    rw [ofEntries]
    simp
  | cons entry entries =>
    obtain ⟨name, node⟩ := entry
    have hothers := isOrdered_ofEntries fs options path faults entries
    rw [ofEntries]
    split
    · refine List.forall_mem_cons.2 ⟨⟨?_, ?_⟩, hothers⟩
      · exact path_ofNode fs options (Path.join path name) node
      · exact isOrdered_ofNode fs options (Path.join path name) node
    · exact hothers

end

end Listing

end SourceAtlas
