import Mathlib.Data.List.Infix
import Mathlib.Order.Bounds.Basic
import SourceAtlas.Text.Basic

/-!
# Searching texts

The position that a search finds is the least one at which the text goes on with what is searched
for. Two places at which the same text stands may overlap, but only if a proper end of that text is
also a beginning of it: its border.

A text is cut at a delimiter from the left: at the leftmost place of the delimiter, then at the
leftmost one behind that, and so on. This leaves every text in one way.
-/

namespace SourceAtlas.Text

variable {needle t : Text} {p q n : Nat}

/-- A text stands at a position of another one. -/
def StandsAt (needle t : Text) (position : Nat) : Prop := needle <+: t.drop position

instance : Decidable (StandsAt needle t p) := inferInstanceAs (Decidable (needle <+: _))

theorem standsAt_drop : StandsAt needle (t.drop n) p ↔ StandsAt needle t (n + p) := by
  rw [StandsAt, List.drop_drop, StandsAt]

theorem StandsAt.isInfix_self (h : StandsAt needle t p) : needle <:+: t :=
  (List.IsPrefix.isInfix h).trans (List.drop_suffix p t).isInfix

theorem StandsAt.add_length_le (h : StandsAt needle t p) (hne : needle ≠ []) :
    p + needle.length ≤ t.length := by
  have hlength := List.IsPrefix.length_le h
  have hpos := List.length_pos_iff.2 hne
  rw [List.length_drop] at hlength
  omega

theorem StandsAt.take_add_length (h : StandsAt needle t p) :
    t.take (p + needle.length) = t.take p ++ needle := by
  rw [List.take_add, ← List.prefix_iff_eq_take.1 h]

theorem StandsAt.drop_eq (h : StandsAt needle t p) :
    t.drop p = needle ++ t.drop (p + needle.length) := by
  rw [← List.drop_drop]
  exact (List.prefix_iff_eq_append.1 h).symm

/-! ## The leftmost position -/

theorem isLeast_of_find? (h : find? needle t = some p) : IsLeast {q | StandsAt needle t q} p := by
  induction t generalizing p with
  | nil =>
    rw [find?] at h
    split at h
    · rename_i hempty
      cases h
      exact ⟨by simpa [StandsAt] using hempty, fun _ _ => Nat.zero_le _⟩
    · cases h
  | cons c t ih =>
    rw [find?] at h
    split at h
    · rename_i hstart
      cases h
      exact ⟨List.isPrefixOf_iff_prefix.1 hstart, fun _ _ => Nat.zero_le _⟩
    · rename_i hstart
      obtain ⟨i, hi, rfl⟩ := Option.map_eq_some_iff.1 h
      obtain ⟨hstands, hleast⟩ := ih hi
      refine ⟨hstands, ?_⟩
      intro q hq
      cases q with
      | zero => exact absurd (List.isPrefixOf_iff_prefix.2 hq) hstart
      | succ q => exact Nat.succ_le_succ (hleast hq)

/-- A search finds the leftmost position. -/
theorem find?_eq_some_iff : find? needle t = some p ↔ IsLeast {q | StandsAt needle t q} p := by
  refine ⟨isLeast_of_find?, fun h => ?_⟩
  cases hfind : find? needle t with
  | none => exact absurd h.1.isInfix_self (find?_eq_none.1 hfind)
  | some q => rw [(isLeast_of_find? hfind).unique h]

theorem not_standsAt_of_find? (h : find? needle t = none) (p : Nat) : ¬ StandsAt needle t p :=
  fun hstands => find?_eq_none.1 h hstands.isInfix_self

theorem contains_iff : contains t needle ↔ needle <:+: t := by
  rw [contains, Option.isSome_iff_ne_none, Ne, find?_eq_none, not_not]

/-- A search in the rest of a text finds the leftmost position from there on. -/
theorem isLeast_of_find?_drop (h : find? needle (t.drop n) = some p) :
    IsLeast {q | n ≤ q ∧ StandsAt needle t q} (n + p) := by
  obtain ⟨hstands, hleast⟩ := isLeast_of_find? h
  refine ⟨⟨Nat.le_add_right n p, standsAt_drop.1 hstands⟩, ?_⟩
  rintro q ⟨hbehind, hq⟩
  obtain ⟨i, rfl⟩ := Nat.exists_eq_add_of_le hbehind
  exact Nat.add_le_add_left (hleast (standsAt_drop.2 hq)) n

theorem standsAt_append_right {u : Text} :
    StandsAt needle (t ++ u) (t.length + p) ↔ StandsAt needle u p := by
  rw [← standsAt_drop, List.drop_left]

theorem exists_standsAt (h : needle <:+: t) : ∃ p, StandsAt needle t p := by
  obtain ⟨before, after, rfl⟩ := h
  refine ⟨before.length, ?_⟩
  rw [StandsAt, List.append_assoc, List.drop_left]
  exact List.prefix_append _ _

/-! ## Cutting at a delimiter -/

/-- The needle stands at no position inside the text, whatever follows the text. -/
def Repels (needle t : Text) : Prop :=
  ∀ rest position, StandsAt needle (t ++ rest) position → t.length ≤ position

theorem Repels.append {u : Text} (ht : Repels needle t) (hu : Repels needle u) :
    Repels needle (t ++ u) := by
  intro rest position hstands
  rw [List.append_assoc] at hstands
  obtain ⟨i, rfl⟩ := Nat.exists_eq_add_of_le (ht _ _ hstands)
  have hi := hu _ _ (standsAt_append_right.1 hstands)
  rw [List.length_append]
  exact Nat.add_le_add_left hi _

/-- A needle that stood inside would start with a character of the text. -/
theorem repels_of_forall_not_mem (hne : needle ≠ []) (h : ∀ c ∈ needle, c ∉ t) :
    Repels needle t := by
  intro rest position hstands
  by_contra hlt
  have hlt : position < t.length := Nat.lt_of_not_le hlt
  obtain ⟨c, needle, rfl⟩ := List.exists_cons_of_ne_nil hne
  rw [StandsAt, List.drop_append_of_le_length hlt.le, List.drop_eq_getElem_cons hlt] at hstands
  have hc : c = t[position] := (List.cons_prefix_cons.1 hstands).1
  refine h c List.mem_cons_self ?_
  rw [hc]
  exact List.getElem_mem hlt

/-- Cutting a text at the leftmost places of a delimiter that do not overlap leaves these pieces. -/
inductive Cuts (delimiter : Text) : Text → List Text → Prop where
  | last {t : Text} (absent : ¬ delimiter <:+: t) : Cuts delimiter t [t]
  | next {piece t : Text} {pieces : List Text}
      (leftmost : ∀ position, StandsAt delimiter (piece ++ delimiter ++ t) position →
        piece.length ≤ position)
      (rest : Cuts delimiter t pieces) : Cuts delimiter (piece ++ delimiter ++ t) (piece :: pieces)

variable {delimiter piece : Text} {pieces : List Text}

theorem find?_of_leftmost
    (h : ∀ position, StandsAt delimiter (piece ++ delimiter ++ t) position →
      piece.length ≤ position) :
    find? delimiter (piece ++ delimiter ++ t) = some piece.length := by
  refine find?_eq_some_iff.2 ⟨?_, fun position hstands => h position hstands⟩
  rw [Set.mem_ofPred_eq, StandsAt, List.append_assoc, List.drop_left]
  exact List.prefix_append _ _

/-- Where a search finds the delimiter, the text is cut. -/
theorem Cuts.of_find? {i : Nat} (h : find? delimiter t = some i)
    (rest : Cuts delimiter (t.drop (i + delimiter.length)) pieces) :
    Cuts delimiter t (t.take i :: pieces) := by
  obtain ⟨hstands, hleast⟩ := isLeast_of_find? h
  have hlength := find?_le h
  have ht : t.take i ++ delimiter ++ t.drop (i + delimiter.length) = t := by
    rw [← hstands.take_add_length, List.take_append_drop]
  have hcut : Cuts delimiter (t.take i ++ delimiter ++ t.drop (i + delimiter.length))
      (t.take i :: pieces) := by
    refine .next (fun position hposition => ?_) rest
    rw [ht] at hposition
    rw [List.length_take_of_le (by omega)]
    exact hleast hposition
  rwa [ht] at hcut

theorem exists_cuts (hne : delimiter ≠ []) (t : Text) : ∃ pieces, Cuts delimiter t pieces := by
  cases hfind : find? delimiter t with
  | none => exact ⟨[t], .last (find?_eq_none.1 hfind)⟩
  | some i =>
    have hlength := find?_le hfind
    have hpos := List.length_pos_iff.2 hne
    obtain ⟨pieces, hpieces⟩ := exists_cuts hne (t.drop (i + delimiter.length))
    exact ⟨t.take i :: pieces, .of_find? hfind hpieces⟩
termination_by t.length
decreasing_by simp only [List.length_drop]; omega

namespace Cuts

theorem unique {pieces' : List Text} (h : Cuts delimiter t pieces)
    (h' : Cuts delimiter t pieces') : pieces = pieces' := by
  induction h generalizing pieces' with
  | last absent =>
    cases h' with
    | last _ => rfl
    | next _ _ => exact absurd ⟨_, _, rfl⟩ absent
  | @next piece t pieces leftmost rest ih =>
    generalize ht : piece ++ delimiter ++ t = whole at h'
    cases h' with
    | last absent => exact absurd ⟨_, _, ht⟩ absent
    | @next piece' t' pieces' leftmost' rest' =>
      have hfind := find?_of_leftmost leftmost
      rw [ht, find?_of_leftmost leftmost'] at hfind
      have hlength : piece.length = piece'.length := (Option.some.inj hfind).symm
      rw [List.append_assoc, List.append_assoc] at ht
      obtain ⟨rfl, hrest⟩ := List.append_inj ht hlength
      rw [ih (List.append_cancel_left hrest ▸ rest')]

/-- A text that repels the delimiter becomes part of the first piece of what follows it. -/
theorem prepend {u : Text} (hu : Repels delimiter u) (h : Cuts delimiter t (piece :: pieces)) :
    Cuts delimiter (u ++ t) ((u ++ piece) :: pieces) := by
  cases h with
  | last absent =>
    refine .last fun hinside => absent ?_
    obtain ⟨position, hstands⟩ := exists_standsAt hinside
    obtain ⟨i, rfl⟩ := Nat.exists_eq_add_of_le (hu _ _ hstands)
    exact (standsAt_append_right.1 hstands).isInfix_self
  | @next _ t _ leftmost rest =>
    have hcut : Cuts delimiter (u ++ piece ++ delimiter ++ t) ((u ++ piece) :: pieces) := by
      refine .next (fun position hstands => ?_) rest
      rw [List.append_assoc, List.append_assoc, ← List.append_assoc piece] at hstands
      obtain ⟨i, rfl⟩ := Nat.exists_eq_add_of_le (hu _ _ hstands)
      rw [List.length_append]
      exact Nat.add_le_add_left (leftmost i (standsAt_append_right.1 hstands)) _
    rwa [List.append_assoc, List.append_assoc, ← List.append_assoc piece] at hcut

end Cuts

/-! ## Overlaps -/

/-- No proper end of the text is also a beginning of it. -/
def IsUnbordered (t : Text) : Prop := ∀ n < t.length, 0 < n → ¬ t.drop n <+: t

instance : Decidable (IsUnbordered t) := inferInstanceAs (Decidable (∀ n < t.length, _))

/-- The places at which a text without border stands do not overlap. -/
theorem IsUnbordered.add_length_le (h : IsUnbordered needle) (hp : StandsAt needle t p)
    (hq : StandsAt needle t q) (hlt : p < q) : p + needle.length ≤ q := by
  by_contra hclose
  have hrest : needle.drop (q - p) <+: t.drop q := by
    have hdrop := List.IsPrefix.drop hp (q - p)
    rwa [List.drop_drop, show p + (q - p) = q by omega] at hdrop
  refine h (q - p) (by omega) (by omega) (List.prefix_of_prefix_length_le hrest hq ?_)
  rw [List.length_drop]
  omega

end SourceAtlas.Text
