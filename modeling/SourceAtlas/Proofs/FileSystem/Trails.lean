import Mathlib.Data.List.Induction
import SourceAtlas.Proofs.Survey.Listing

/-!
# Trails and their paths

A place of a file system is reached from the root by a trail of names. In a file system whose
entries have proper names, the path of a trail leads back along the trail, so that paths without
links tell places apart, and what stands at the path of an entry is the entry.
-/

namespace SourceAtlas

/-! ## Paths of names -/

namespace Path

/-- The path that leads from the root along some names. -/
def ofNames (names : List Text) : Path :=
  if names.isEmpty then ['/'] else names.flatMap ('/' :: ·)

theorem isAbsolute_ofNames (names : List Text) : isAbsolute (ofNames names) := by
  cases names with
  | nil => rfl
  | cons name names => rfl

theorem cutAt_flatMap_slash {names : List Text} (h : ∀ name ∈ names, IsFileName name)
    {last : Text} (hlast : '/' ∉ last) :
    Text.cutAt (· == '/') (last ++ names.flatMap ('/' :: ·)) = last :: names := by
  induction names generalizing last with
  | nil => rw [List.flatMap_nil, List.append_nil, cutAt_slash hlast]
  | cons name names ih =>
    obtain ⟨hname, hnames⟩ := List.forall_mem_cons.1 h
    rw [List.flatMap_cons, List.cons_append, Text.cutAt_append last (by simp), cutAt_slash hlast,
      ih hnames hname.slash, List.singleton_append]

theorem pieces_ofNames {names : List Text} (h : ∀ name ∈ names, IsFileName name) :
    pieces (ofNames names) = if names.isEmpty then [[]] else names := by
  rw [pieces, anchor, isAbsolute_ofNames, Bool.true_or, if_pos rfl]
  cases names with
  | nil => rfl
  | cons name names =>
    obtain ⟨hname, hnames⟩ := List.forall_mem_cons.1 h
    exact cutAt_flatMap_slash hnames hname.slash

theorem components_ofNames {names : List Text} (h : ∀ name ∈ names, IsFileName name) :
    components (ofNames names) = .root :: names.map .name := by
  have hcomponents : names.filterMap component? = names.map .name := by
    rw [← List.filterMap_eq_map]
    exact List.filterMap_congr fun name hname => (h name hname).component?_eq
  rw [components, isAbsolute_ofNames, if_pos rfl, pieces_ofNames h]
  cases names with
  | nil => rfl
  | cons name names => exact congrArg _ hcomponents

theorem endsInside_ofNames {names : List Text} (h : ∀ name ∈ names, IsFileName name) :
    endsInside (ofNames names) = names.isEmpty := by
  rw [endsInside, pieces_ofNames h]
  cases names using List.reverseRecOn with
  | nil => rfl
  | append_singleton names last =>
    have hlast : IsFileName last := h last List.mem_concat_self
    have hne : (names ++ [last]).isEmpty = false := by simp
    rw [hne, if_neg Bool.false_ne_true, List.getLast?_concat]
    exact hlast.isVoid_eq

theorem ofNames_concat (names : List Text) (name : Text) :
    ofNames (names ++ [name]) = names.flatMap ('/' :: ·) ++ '/' :: name := by
  rw [ofNames, List.flatMap_append, List.flatMap_singleton, if_neg]
  simp

theorem join_ofNames {names : List Text} (h : ∀ name ∈ names, IsFileName name) {name : Text}
    (hname : IsFileName name) : join (ofNames names) name = ofNames (names ++ [name]) := by
  rw [join, hname.isAbsolute_eq, Bool.false_or]
  cases names using List.reverseRecOn with
  | nil => simp [ofNames]
  | append_singleton names last =>
    have hlast : IsFileName last := h last List.mem_concat_self
    have hend : (ofNames (names ++ [last])).getLast? ≠ some '/' := by
      rw [ofNames_concat]
      intro hslash
      obtain ⟨c, hc⟩ := Option.isSome_iff_exists.1 (List.getLast?_isSome.2 hlast.ne_nil)
      rw [List.getLast?_append, List.getLast?_cons_of_ne_nil hlast.ne_nil, hc] at hslash
      cases hslash
      exact hlast.slash (List.mem_of_getLast? hc)
    rw [if_neg (by rw [ofNames_concat]; simp), if_neg (by simpa using hend),
      ofNames_concat (names ++ [last]), List.flatMap_append, List.flatMap_singleton,
      ofNames_concat]

end Path

/-! ## Trails -/

namespace FileSystem

theorem pathOf_eq (trail : Trail) : pathOf trail = Path.ofNames (trail.reverse.map Prod.fst) := by
  cases trail with
  | nil => rfl
  | cons step trail =>
    rw [Path.ofNames, if_neg (by simp), List.flatMap_map]
    rfl

/-- A way down from the root: each name leads to an entry of a directory that is no link. -/
inductive IsTrail (root : Node) : Trail → Prop
  | nil : IsTrail root []
  | cons {trail : Trail} {name : Text} {node : Node} (above : IsTrail root trail)
      (entry : (nodeAt root trail).child? name = some node)
      (notLink : ∀ target, node ≠ .link target) : IsTrail root ((name, node) :: trail)

theorem IsTrail.tail {root : Node} {trail : Trail} (h : IsTrail root trail) :
    IsTrail root trail.tail := by
  cases h with
  | nil => exact .nil
  | cons above => exact above

/-- Following components, with all links on the way, ends at a place without links. -/
theorem isTrail_follow {root : Node} {links : Nat} {trail trail' : Trail}
    {components : List Path.Component} (htrail : IsTrail root trail)
    (h : follow root links trail components = .ok trail') : IsTrail root trail' := by
  fun_induction follow root links trail components with
  | case1 links trail =>
    cases h
    exact htrail
  | case2 links trail rest ih => exact ih .nil h
  | case3 links trail rest hdirectory ih => exact ih htrail h
  | case4 => cases h
  | case5 links trail rest hdirectory ih => exact ih htrail.tail h
  | case6 => cases h
  | case7 => cases h
  | case8 => cases h
  | case9 => cases h
  | case10 trail name rest hdirectory target hentry links ih => exact ih htrail h
  | case11 links trail name rest hdirectory node hlink hentry ih =>
    exact ih (.cons htrail hentry hlink) h

/-- Following the names of a trail leads along it. -/
theorem follow_names {root : Node} {trail : Trail} (h : IsTrail root trail) (links : Nat)
    (rest : List Path.Component) :
    follow root links [] (trail.reverse.map (.name ·.1) ++ rest) =
      follow root links trail rest := by
  induction h generalizing rest with
  | nil => rfl
  | @cons trail name node above entry notLink ih =>
    have hdirectory : (nodeAt root trail).isDirectory := by
      cases hnode : nodeAt root trail with
      | directory entries faults => rfl
      | _ =>
        rw [hnode] at entry
        cases entry
    rw [List.reverse_cons, List.map_append, List.append_assoc, ih, List.map_singleton,
      List.singleton_append, follow, hdirectory, entry]
    cases node with
    | link target => exact absurd rfl (notLink target)
    | _ => rfl

end FileSystem

/-! ## Well-formed file systems -/

/-- Entries have proper names, and no two entries of a directory have the same. -/
inductive Node.IsWellFormed : Node → Prop
  | regular {file : FileData} : IsWellFormed (.regular file)
  | directory {entries : List (Text × Node)} {faults : List ListingFault}
      (names : ∀ entry ∈ entries, Path.IsFileName entry.1)
      (nodup : (entries.map Prod.fst).Nodup)
      (below : ∀ entry ∈ entries, entry.2.IsWellFormed) :
      IsWellFormed (.directory entries faults)
  | link {target : Path} : IsWellFormed (.link target)
  | unreadable : IsWellFormed .unreadable

namespace FileSystem

/-- The root is a directory, and every directory has proper entries. -/
structure IsWellFormed (fs : FileSystem) : Prop where
  isDirectory : fs.root.isDirectory
  root : fs.root.IsWellFormed

variable {fs : FileSystem} {trail : Trail}

theorem child?_eq_some {node entry : Node} {name : Text} :
    node.child? name = some entry ↔
      ∃ entries faults, node = .directory entries faults ∧ entries.lookup name = some entry := by
  cases node with
  | directory entries faults => simp [Node.child?]
  | _ => simp [Node.child?]

theorem mem_of_lookup {entries : List (Text × Node)} {name : Text} {node : Node}
    (h : entries.lookup name = some node) : (name, node) ∈ entries := by
  obtain ⟨before, after, rfl, -⟩ := List.lookup_eq_some_iff.1 h
  simp

theorem lookup_of_mem {entries : List (Text × Node)} {name : Text} {node : Node}
    (hnodup : (entries.map Prod.fst).Nodup) (h : (name, node) ∈ entries) :
    entries.lookup name = some node := by
  rw [List.lookup_eq_some_iff]
  obtain ⟨before, after, rfl⟩ := List.append_of_mem h
  refine ⟨before, after, rfl, ?_⟩
  intro entry hentry
  rw [bne_iff_ne]
  rintro rfl
  rw [List.map_append, List.nodup_append] at hnodup
  exact hnodup.2.2 entry.1 (List.mem_map_of_mem hentry) entry.1 (by simp) rfl

theorem IsTrail.isWellFormed (hfs : fs.IsWellFormed) (h : IsTrail fs.root trail) :
    (nodeAt fs.root trail).IsWellFormed ∧ ∀ step ∈ trail, Path.IsFileName step.1 := by
  induction h with
  | nil => exact ⟨hfs.root, by simp⟩
  | cons above entry notLink ih =>
    obtain ⟨habove, hnames⟩ := ih
    obtain ⟨entries, faults, hnode, hlookup⟩ := child?_eq_some.1 entry
    rw [hnode] at habove
    cases habove with
    | directory names nodup below =>
      have hmem := mem_of_lookup hlookup
      exact ⟨below _ hmem, List.forall_mem_cons.2 ⟨names _ hmem, hnames⟩⟩

theorem IsTrail.isFileName (hfs : fs.IsWellFormed) (h : IsTrail fs.root trail) :
    ∀ name ∈ trail.reverse.map Prod.fst, Path.IsFileName name := by
  intro name hname
  obtain ⟨step, hstep, rfl⟩ := List.mem_map.1 hname
  exact (h.isWellFormed hfs).2 step (List.mem_reverse.1 hstep)

/-- The path of a trail leads along the trail. -/
theorem locate_pathOf (hfs : fs.IsWellFormed) (h : IsTrail fs.root trail) :
    fs.locate (pathOf trail) = .ok trail := by
  have hnames := h.isFileName hfs
  have habsolute : Path.isAbsolute (pathOf trail) := by
    rw [pathOf_eq]
    exact Path.isAbsolute_ofNames _
  have hne : (pathOf trail).isEmpty = false := by
    cases hpath : pathOf trail with
    | nil =>
      rw [hpath] at habsolute
      cases habsolute
    | cons c path => rfl
  have hsteps : steps (pathOf trail) = .root :: (trail.reverse.map (.name ·.1) ++
      if trail.isEmpty then [.current] else []) := by
    rw [steps, pathOf_eq, Path.components_ofNames hnames, Path.endsInside_ofNames hnames,
      List.map_map, List.cons_append]
    simp
  rw [locate, hne, if_neg Bool.false_ne_true, Path.join, habsolute, Bool.true_or, if_pos rfl,
    hsteps, follow, follow_names h]
  cases trail with
  | nil =>
    rw [List.isEmpty_nil, if_pos rfl, follow]
    simp only [nodeAt, hfs.isDirectory, if_true]
    rw [follow]
  | cons step trail =>
    simp [follow]

theorem node_pathOf (hfs : fs.IsWellFormed) (h : IsTrail fs.root trail) :
    fs.node (pathOf trail) = .ok (nodeAt fs.root trail) := by
  rw [node, locate_pathOf hfs h]
  rfl

theorem exists_trail_of_canonical {p path : Path} (h : fs.canonical p = .ok path) :
    ∃ trail, IsTrail fs.root trail ∧ path = pathOf trail := by
  rw [canonical, locate] at h
  split at h
  · cases h
  · cases hfollow : follow fs.root linkLimit [] (steps (Path.join fs.workingDirectory p)) with
    | error fault =>
      rw [hfollow] at h
      cases h
    | ok trail =>
      rw [hfollow] at h
      cases h
      exact ⟨trail, isTrail_follow .nil hfollow, rfl⟩

theorem join_pathOf (hfs : fs.IsWellFormed) (h : IsTrail fs.root trail) {name : Text}
    (hname : Path.IsFileName name) (node : Node) :
    Path.join (pathOf trail) name = pathOf ((name, node) :: trail) := by
  rw [pathOf_eq, pathOf_eq, Path.join_ofNames (h.isFileName hfs) hname]
  simp

/-! ## Entries of directories -/

variable {entries : List (Text × Node)} {faults : List ListingFault}

theorem IsTrail.proper_entries (hfs : fs.IsWellFormed) (h : IsTrail fs.root trail)
    (hdirectory : nodeAt fs.root trail = .directory entries faults) :
    (∀ entry ∈ entries, Path.IsFileName entry.1) ∧ (entries.map Prod.fst).Nodup := by
  have hnode := (h.isWellFormed hfs).1
  rw [hdirectory] at hnode
  cases hnode with
  | directory names nodup _ => exact ⟨names, nodup⟩

/-- An entry that is no link is one step further. -/
theorem IsTrail.entry (hfs : fs.IsWellFormed) (h : IsTrail fs.root trail)
    (hdirectory : nodeAt fs.root trail = .directory entries faults) {name : Text} {node : Node}
    (hentry : (name, node) ∈ entries) (hlink : ∀ target, node ≠ .link target) :
    IsTrail fs.root ((name, node) :: trail) := by
  apply IsTrail.cons h _ hlink
  rw [hdirectory]
  exact lookup_of_mem (h.proper_entries hfs hdirectory).2 hentry

/-- What stands at the path of an entry that is no link is the entry. -/
theorem node_join (hfs : fs.IsWellFormed) (h : IsTrail fs.root trail)
    (hdirectory : nodeAt fs.root trail = .directory entries faults) {name : Text} {node : Node}
    (hentry : (name, node) ∈ entries) (hlink : ∀ target, node ≠ .link target) :
    fs.node (Path.join (pathOf trail) name) = .ok node := by
  have hname : Path.IsFileName name := (h.proper_entries hfs hdirectory).1 _ hentry
  rw [join_pathOf hfs h hname node]
  exact node_pathOf hfs (h.entry hfs hdirectory hentry hlink)

theorem components_join_pathOf (hfs : fs.IsWellFormed) (h : IsTrail fs.root trail) {name : Text}
    (hname : Path.IsFileName name) :
    Path.components (Path.join (pathOf trail) name) =
      Path.components (pathOf trail) ++ [.name name] := by
  have hnames := h.isFileName hfs
  rw [pathOf_eq, Path.join_ofNames hnames hname, Path.components_ofNames hnames,
    Path.components_ofNames, List.map_append, List.cons_append]
  · rfl
  · exact List.forall_mem_append.2 ⟨hnames, List.forall_mem_singleton.2 hname⟩

end FileSystem

end SourceAtlas
