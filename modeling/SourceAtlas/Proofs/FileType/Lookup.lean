import Mathlib.Data.List.Lex
import SourceAtlas.FileType.Basic
import SourceAtlas.Proofs.Text.ByteOrder

/-!
# Tables of file types as linear searches

A table of file types keeps an index of the extensions that were claimed. Looking an extension up in
it comes to the same as searching the types in the order of their labels for the first one that
lists the extension (`exists_ofTypes_eq_ok`), however often extensions are repeated in one type or
in several. There is no table if the color of some type is none, and then the first such type is
named.
-/

namespace SourceAtlas.FileTypes

/-- Types as a map from labels: no label comes twice, and the labels are in the order of their
bytes. -/
def IsMap (types : List (Text × FileType)) : Prop :=
  types.Pairwise fun a b => Text.encode a.1 < Text.encode b.1

/-- The first type with a property, in the order of the bytes of the labels. -/
structure IsFirst (types : List (Text × FileType)) (P : FileType → Prop) (label : Text)
    (type : FileType) : Prop where
  mem : (label, type) ∈ types
  holds : P type
  first : ∀ entry ∈ types, P entry.2 → ¬ Text.encode entry.1 < Text.encode label

variable {types : List (Text × FileType)} {found : List (Text × Text) × List Notice}
  {label extension : Text} {type : FileType} {table : FileTypes}

/-! ## Maps -/

theorem lookup_of_mem (h : IsMap types) (hmem : (label, type) ∈ types) :
    types.lookup label = some type := by
  obtain ⟨before, after, rfl⟩ := List.append_of_mem hmem
  refine List.lookup_eq_some_iff.2 ⟨before, after, rfl, fun entry hentry => ?_⟩
  have hlt := (List.pairwise_append.1 h).2.2 entry hentry _ List.mem_cons_self
  refine bne_iff_ne.2 fun heq => ?_
  rw [heq] at hlt
  exact List.lt_irrefl _ hlt

theorem mem_insert {entry : Text × FileType} (h : entry ∈ insert label type types) :
    entry = (label, type) ∨ entry ∈ types := by
  induction types with
  | nil => exact .inl (List.mem_singleton.1 h)
  | cons first types ih =>
    obtain ⟨l, t⟩ := first
    unfold insert at h
    split at h
    · exact List.mem_cons.1 h
    · split at h
      · exact (List.mem_cons.1 h).imp_right (List.mem_cons_of_mem _)
      · rcases List.mem_cons.1 h with rfl | h
        · exact .inr List.mem_cons_self
        · exact (ih h).imp_right (List.mem_cons_of_mem _)

theorem isMap_insert (h : IsMap types) : IsMap (insert label type types) := by
  induction types with
  | nil => exact List.pairwise_singleton _ _
  | cons entry types ih =>
    obtain ⟨l, t⟩ := entry
    obtain ⟨hfirst, htypes⟩ := List.pairwise_cons.1 h
    unfold insert
    split
    · rename_i hlt
      have hlt := Text.encode_lt_encode hlt
      refine List.pairwise_cons.2 ⟨List.forall_mem_cons.2 ⟨hlt, fun other hother => ?_⟩, h⟩
      exact List.lt_trans hlt (hfirst other hother)
    · split
      · rename_i heq
        exact List.pairwise_cons.2 ⟨heq ▸ hfirst, htypes⟩
      · rename_i hnlt hne
        have hlt : l < label := (List.le_iff_lt_or_eq.1 hnlt).resolve_right (Ne.symm hne)
        refine List.pairwise_cons.2 ⟨fun other hother => ?_, ih htypes⟩
        rcases mem_insert hother with rfl | hother
        · exact Text.encode_lt_encode hlt
        · exact hfirst other hother

/-- Entries in any order make a map. -/
theorem isMap_arrange (entries : List (Text × FileType)) : IsMap (arrange entries) := by
  unfold arrange
  generalize hstart : ([] : List (Text × FileType)) = start
  have hmap : IsMap start := hstart ▸ .nil
  clear hstart
  induction entries generalizing start with
  | nil => exact hmap
  | cons entry entries ih => exact ih _ (isMap_insert hmap)

/-- In a map the first type with a property is the one that a search finds. -/
theorem find?_eq_some_iff (h : IsMap types) (P : FileType → Prop) [DecidablePred P] :
    types.find? (fun entry => decide (P entry.2)) = some (label, type) ↔
      IsFirst types P label type := by
  rw [List.find?_eq_some_iff_append]
  constructor
  · rintro ⟨hholds, before, after, rfl, hbefore⟩
    obtain ⟨-, hafter, -⟩ := List.pairwise_append.1 h
    refine ⟨by simp, of_decide_eq_true hholds, fun entry hentry hP hlt => ?_⟩
    rcases List.mem_append.1 hentry with hentry | hentry
    · simpa [hP] using hbefore entry hentry
    · rcases List.mem_cons.1 hentry with rfl | hentry
      · exact List.lt_irrefl _ hlt
      · exact List.lt_asymm hlt ((List.pairwise_cons.1 hafter).1 entry hentry)
  · rintro ⟨hmem, hholds, hfirst⟩
    obtain ⟨before, after, rfl⟩ := List.append_of_mem hmem
    refine ⟨decide_eq_true hholds, before, after, rfl, fun entry hentry => ?_⟩
    have hlt := (List.pairwise_append.1 h).2.2 entry hentry _ List.mem_cons_self
    have hnot : ¬ P entry.2 := fun hP =>
      hfirst entry (List.mem_append_left _ hentry) hP hlt
    simp [hnot]

/-! ## Claims -/

/-- A claim counts only if there is none for the extension yet. -/
theorem lookup_claim (claimed : Text) :
    (claim label found claimed).1.lookup extension =
      (found.1.lookup extension).or (if extension = claimed then some label else none) := by
  unfold claim
  split
  · rename_i hclaimed
    split
    · rename_i heq
      obtain ⟨earlier, hearlier⟩ := Option.isSome_iff_exists.1 hclaimed
      rw [heq, hearlier, Option.some_or]
    · rw [Option.or_none]
  · rw [List.lookup_append]
    by_cases heq : extension = claimed
    · simp [heq]
    · simp [List.lookup_cons, beq_false_of_ne heq, heq]

theorem lookup_foldl_claim (extensions : List Text) :
    (extensions.foldl (claim label) found).1.lookup extension =
      (found.1.lookup extension).or (if extension ∈ extensions then some label else none) := by
  induction extensions generalizing found with
  | nil => simp
  | cons claimed extensions ih =>
    rw [List.foldl_cons, ih, lookup_claim, Option.or_assoc]
    congr 1
    by_cases heq : extension = claimed <;> simp [heq]

/-- Claiming ends at the first type whose color is none. -/
theorem claimAll_eq_error {entry : Text × FileType}
    (h : types.find? (fun entry => decide (Color.parse? entry.2.color = none)) = some entry) :
    (claimAll types found).1 = .error (.invalidColor entry.1 entry.2.color) := by
  induction types generalizing found with
  | nil => cases h
  | cons first types ih =>
    obtain ⟨label, type⟩ := first
    unfold claimAll
    by_cases hcolor : Color.parse? type.color = none
    · rw [List.find?_cons_of_pos (by simpa using hcolor)] at h
      obtain rfl := Option.some.inj h
      simp [hcolor]
    · rw [List.find?_cons_of_neg (by simpa using hcolor)] at h
      simpa [hcolor] using ih h

/-- If all colors are colors, every extension goes to the first type that lists it, unless it was
claimed before. -/
theorem exists_claimAll_eq_ok (found : List (Text × Text) × List Notice)
    (h : ∀ entry ∈ types, Color.parse? entry.2.color ≠ none) :
    ∃ claims, (claimAll types found).1 = .ok claims ∧ ∀ extension,
      claims.lookup extension = (found.1.lookup extension).or
        ((types.find? fun entry => decide (extension ∈ entry.2.extensions)).map Prod.fst) := by
  induction types generalizing found with
  | nil => exact ⟨found.1, rfl, fun extension => by simp⟩
  | cons first types ih =>
    obtain ⟨label, type⟩ := first
    obtain ⟨hcolor, htypes⟩ := List.forall_mem_cons.1 h
    obtain ⟨claims, hclaims, hlookup⟩ := ih (type.extensions.foldl (claim label) found) htypes
    refine ⟨claims, ?_, fun extension => ?_⟩
    · unfold claimAll
      simpa [hcolor] using hclaims
    · rw [hlookup, lookup_foldl_claim, Option.or_assoc]
      by_cases hlisted : extension ∈ type.extensions <;> simp [hlisted]

/-! ## Tables -/

theorem ofTypes_eq_error {entry : Text × FileType}
    (h : types.find? (fun entry => decide (Color.parse? entry.2.color = none)) = some entry) :
    (ofTypes types).1 = .error (.invalidColor entry.1 entry.2.color) := by
  show (claimAll types ([], [])).1.map _ = _
  rw [claimAll_eq_error h]
  rfl

/-- A table looks every extension up as a search through its types would. -/
theorem exists_ofTypes_eq_ok (hmap : IsMap types)
    (h : ∀ entry ∈ types, Color.parse? entry.2.color ≠ none) :
    ∃ table, (ofTypes types).1 = .ok table ∧ ∀ extension,
      table.lookup? extension =
        (types.find? fun entry => decide (extension ∈ entry.2.extensions)).map fun entry =>
          ⟨entry.1, entry.2.color, entry.2.code⟩ := by
  obtain ⟨claims, hclaims, hlookup⟩ := exists_claimAll_eq_ok ([], []) h
  refine ⟨⟨types, claims⟩, ?_, fun extension => ?_⟩
  · show (claimAll types ([], [])).1.map _ = _
    rw [hclaims]
    rfl
  · have hlabel : claims.lookup extension = _ := (hlookup extension).trans (Option.none_or)
    cases hfind : types.find? fun entry => decide (extension ∈ entry.2.extensions) with
    | none => simp [lookup?, hlabel, hfind]
    | some entry =>
      have htype := lookup_of_mem hmap (List.mem_of_find?_eq_some hfind)
      simp [lookup?, get?, hlabel, hfind, htype]

theorem ofTypes_eq_ok (h : (ofTypes types).1 = .ok table) :
    table.types = types ∧ ∀ entry ∈ types, Color.parse? entry.2.color ≠ none := by
  cases hfind : types.find? (fun entry => decide (Color.parse? entry.2.color = none)) with
  | some entry =>
    rw [ofTypes_eq_error hfind] at h
    cases h
  | none =>
    refine ⟨?_, by simpa using hfind⟩
    change (claimAll types ([], [])).1.map _ = _ at h
    cases hclaims : (claimAll types ([], [])).1 with
    | error error =>
      rw [hclaims] at h
      cases h
    | ok claims =>
      rw [hclaims] at h
      cases h
      rfl

/-- The colors that a table tells are colors. -/
theorem exists_color_of_lookup? (h : (ofTypes types).1 = .ok table) {info : Info}
    (hinfo : table.lookup? extension = some info) :
    ∃ color, Color.parse? info.color = some color := by
  obtain ⟨htypes, hcolors⟩ := ofTypes_eq_ok h
  obtain ⟨label, -, hinfo⟩ := Option.bind_eq_some_iff.1 hinfo
  obtain ⟨type, htype, hinfo⟩ := Option.bind_eq_some_iff.1 hinfo
  obtain ⟨before, after, hsplit, -⟩ := List.lookup_eq_some_iff.1 htype
  have hmem : (label, type) ∈ types := by
    rw [← htypes, hsplit]
    simp
  cases hinfo
  exact Option.ne_none_iff_exists'.1 (hcolors _ hmem)

/-- There is a table of a map of types unless some color is none, and the first type without a color
is then named. A table tells of an extension what the first type that lists it has, and nothing of
extensions that no type lists. -/
theorem lookup_agrees_with_search (h : IsMap types) :
    ((∃ error, (ofTypes types).1 = .error error) ↔
      ∃ entry ∈ types, Color.parse? entry.2.color = none) ∧
    (∀ error, (ofTypes types).1 = .error error → ∃ label type,
      IsFirst types (fun type => Color.parse? type.color = none) label type ∧
        error = .invalidColor label type.color) ∧
    ∀ table, (ofTypes types).1 = .ok table → ∀ extension,
      (∀ info, table.lookup? extension = some info ↔ ∃ label type,
        IsFirst types (extension ∈ ·.extensions) label type ∧
          info = ⟨label, type.color, type.code⟩) ∧
      (table.lookup? extension = none ↔ ∀ entry ∈ types, extension ∉ entry.2.extensions) := by
  cases hfind : types.find? (fun entry => decide (Color.parse? entry.2.color = none)) with
  | some entry =>
    obtain ⟨label, type⟩ := entry
    have herror := ofTypes_eq_error hfind
    have hfirst := (find?_eq_some_iff h fun type => Color.parse? type.color = none).1 hfind
    rw [herror]
    refine ⟨iff_of_true ⟨_, rfl⟩ ⟨_, hfirst.mem, hfirst.holds⟩, ?_, ?_⟩
    · rintro error ⟨⟩
      exact ⟨label, type, hfirst, rfl⟩
    · rintro table ⟨⟩
  | none =>
    have hcolors : ∀ entry ∈ types, Color.parse? entry.2.color ≠ none := by
      simpa using hfind
    obtain ⟨table, hok, hlookup⟩ := exists_ofTypes_eq_ok h hcolors
    rw [hok]
    refine ⟨iff_of_false ?_ ?_, ?_, ?_⟩
    · rintro ⟨error, ⟨⟩⟩
    · rintro ⟨entry, hentry, hnone⟩
      exact hcolors entry hentry hnone
    · rintro error ⟨⟩
    · rintro table ⟨⟩ extension
      rw [hlookup]
      refine ⟨fun info => ?_, by simp⟩
      rw [Option.map_eq_some_iff]
      constructor
      · rintro ⟨⟨label, type⟩, hfound, rfl⟩
        exact ⟨label, type, (find?_eq_some_iff h _).1 hfound, rfl⟩
      · rintro ⟨label, type, hfirst, rfl⟩
        exact ⟨(label, type), (find?_eq_some_iff h _).2 hfirst, rfl⟩

/-- Entries out of order, with an extension that is listed twice in one type and again in
another. -/
theorem lookup_agrees_with_search_repeated :
    let types := arrange [(['z'], ⟨['Z'], [['y'], []], "#0000ff".toList, false⟩),
      (['b'], ⟨['B'], [['x'], ['x'], []], "#00FF00".toList, true⟩),
      (['a'], ⟨['A'], [['y'], ['x']], "#FF0000".toList, false⟩)]
    IsMap types ∧ ∃ table type, (ofTypes types).1 = .ok table ∧
      table.lookup? ['x'] = some ⟨['a'], "#FF0000".toList, false⟩ ∧
      IsFirst types (['x'] ∈ ·.extensions) ['a'] type ∧
      table.lookup? ['v'] = none ∧ ∀ entry ∈ types, ['v'] ∉ entry.2.extensions := by
  intro types
  have hmap : IsMap types := isMap_arrange _
  have hsome : (ofTypes types).1.toOption.map
      (fun table => (table.lookup? ['x'], table.lookup? ['v'])) =
        some (some ⟨['a'], "#FF0000".toList, false⟩, none) := by
    rfl
  refine ⟨hmap, ?_⟩
  obtain ⟨-, -, hlookup⟩ := lookup_agrees_with_search hmap
  cases hok : (ofTypes types).1 with
  | error error =>
    rw [hok] at hsome
    cases hsome
  | ok table =>
    rw [hok] at hsome
    obtain ⟨hx, hv⟩ := Prod.mk.inj (Option.some.inj hsome)
    obtain ⟨label, type, hfirst, heq⟩ := ((hlookup table hok ['x']).1 _).1 hx
    obtain rfl : ['a'] = label := congrArg Info.label heq
    exact ⟨table, type, rfl, hx, hfirst, hv, (hlookup table hok ['v']).2.1 hv⟩

end SourceAtlas.FileTypes
