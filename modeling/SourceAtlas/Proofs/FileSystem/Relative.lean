import SourceAtlas.Proofs.FileSystem.Trails

/-!
# Paths as seen from a root

Below a root, a path is shown as the names that lead to it from there, with slashes between them,
and the root as a dot. Names of entries hold no slash and none of them is a dot, so the names can be
read off what is shown.
-/

namespace SourceAtlas.Path

/-- How the path is shown to which some names lead. -/
def shown (names : List Text) : Path := if names.isEmpty then ['.'] else slashed names

variable {top names others : List Text}

theorem stripPieces_names (h : ∀ name ∈ top, IsFileName name) (names : List Text) :
    stripPieces (top.map .name) (top ++ names) = some names := by
  induction top with
  | nil => rw [List.map_nil, stripPieces, List.nil_append]
  | cons name top ih =>
    obtain ⟨hname, htop⟩ := List.forall_mem_cons.1 h
    rw [List.map_cons, List.cons_append, stripPieces, hname.component?_eq]
    simp only [if_true]
    exact ih htop

theorem dropWhile_isVoid (h : ∀ name ∈ names, IsFileName name) :
    names.dropWhile isVoid = names := by
  cases names with
  | nil => rfl
  | cons name names =>
    exact List.dropWhile_cons_of_neg (by simp [(h name List.mem_cons_self).isVoid_eq])

theorem dropVoidEnd_names (h : ∀ name ∈ names, IsFileName name) : dropVoidEnd names = names := by
  rw [dropVoidEnd, dropWhile_isVoid fun name hname => h name (List.mem_reverse.1 hname),
    List.reverse_reverse]

/-- The names are what stands between the slashes. -/
theorem cutAt_slashed (h : ∀ name ∈ names, IsFileName name) (hne : names ≠ []) :
    Text.cutAt (· == '/') (slashed names) = names := by
  induction names with
  | nil => exact absurd rfl hne
  | cons name names ih =>
    obtain ⟨hname, hnames⟩ := List.forall_mem_cons.1 h
    cases names with
    | nil => exact cutAt_slash hname.slash
    | cons next names =>
      have hjoin : slashed (name :: next :: names) = name ++ '/' :: slashed (next :: names) := by
        rw [slashed, Text.join, List.append_assoc, List.singleton_append]
        rfl
      rw [hjoin, Text.cutAt_append name (by simp), cutAt_slash hname.slash,
        ih hnames (List.cons_ne_nil _ _), List.singleton_append]

theorem cutAt_shown (h : ∀ name ∈ names, IsFileName name) :
    Text.cutAt (· == '/') (shown names) = if names.isEmpty then [['.']] else names := by
  rw [shown]
  split
  · rfl
  · rename_i hne
    exact cutAt_slashed h (by simpa using hne)

theorem eq_of_shown_eq (hnames : ∀ name ∈ names, IsFileName name)
    (hothers : ∀ name ∈ others, IsFileName name) (h : shown names = shown others) :
    names = others := by
  have hdot {names : List Text} (hnames : ∀ name ∈ names, IsFileName name) : names ≠ [['.']] := by
    rintro rfl
    exact (hnames ['.'] List.mem_cons_self).ne_current rfl
  have hcut := cutAt_shown hnames
  rw [h, cutAt_shown hothers] at hcut
  cases names with
  | nil =>
    cases others with
    | nil => rfl
    | cons other others => exact absurd hcut (hdot hothers)
  | cons name names =>
    cases others with
    | nil => exact absurd hcut.symm (hdot hnames)
    | cons other others => exact hcut.symm

/-- A path below a root is shown by the names that lead to it from the root. -/
theorem relativeTo_ofNames (htop : ∀ name ∈ top, IsFileName name)
    (hnames : ∀ name ∈ names, IsFileName name) :
    relativeTo (ofNames top) (ofNames (top ++ names)) = shown names := by
  have hall : ∀ name ∈ top ++ names, IsFileName name := List.forall_mem_append.2 ⟨htop, hnames⟩
  have hstrip : strip? (ofNames top) (ofNames (top ++ names)) = some (slashed names) := by
    rw [strip?, components_ofNames htop]
    simp only [isAbsolute_ofNames, beq_self_eq_true, Bool.and_self, Bool.true_or, if_true,
      Option.bind_some]
    rw [pieces_ofNames hall]
    split
    · rename_i hnil
      obtain ⟨rfl, rfl⟩ := List.append_eq_nil_iff.1 (List.isEmpty_iff.1 hnil)
      rfl
    · rw [stripPieces_names htop, Option.map_some, dropWhile_isVoid hnames,
        dropVoidEnd_names hnames]
  rw [relativeTo, hstrip, shown]
  cases names with
  | nil => rfl
  | cons name names =>
    have hne : slashed (name :: names) ≠ [] := by
      intro hnil
      have hcut := cutAt_slashed hnames (List.cons_ne_nil _ _)
      rw [hnil] at hcut
      obtain ⟨rfl, -⟩ := List.cons.inj hcut
      exact (hnames [] List.mem_cons_self).ne_nil rfl
    split
    · rename_i hnil
      exact absurd (Option.some.inj hnil) hne
    · rename_i heq
      exact (Option.some.inj heq).symm
    · rename_i heq
      cases heq

end SourceAtlas.Path
