import SourceAtlas.Proofs.Extraction.Templates

/-!
# Substitution in one pass

The values that are put into a template are not looked at again: which pieces of the template are
names is settled before any of them is resolved. If no value brings in a character of the mark, what
comes out holds at most one mark, so that a second pass finds nothing to replace. This is so even
where a value is empty and two pieces come to stand side by side, since a mark is taken at its
leftmost place and leaves no half of another one in front of it.
-/

namespace SourceAtlas.Template

open Text (StandsAt Repels Cuts)

variable {m : Marker} {resolve : Text → Text} {t : Text} {pieces : List Text}

/-- The pieces of a template that are names. -/
def names : List Text → List Text
  | _ :: name :: next :: pieces => name :: names (next :: pieces)
  | _ => []

theorem exists_delimiter_eq (m : Marker) : ∃ c, m.delimiter = [c, c] := by
  cases m <;> exact ⟨_, rfl⟩

/-- A piece in front of a mark ends in no half of a mark. -/
theorem repels_of_leftmost {piece rest : Text}
    (h : ∀ position, StandsAt m.delimiter (piece ++ m.delimiter ++ rest) position →
      piece.length ≤ position) : Repels m.delimiter piece := by
  obtain ⟨c, hdelimiter⟩ := exists_delimiter_eq m
  rw [hdelimiter] at h ⊢
  intro other position hstands
  by_contra hlt
  have hlt : position < piece.length := Nat.lt_of_not_le hlt
  refine absurd (h position ?_) (Nat.not_le_of_lt hlt)
  rw [StandsAt, List.drop_append_of_le_length hlt.le] at hstands
  rw [StandsAt, List.append_assoc, List.drop_append_of_le_length hlt.le]
  rw [List.drop_eq_getElem_cons hlt, List.cons_append, List.cons_prefix_cons] at hstands ⊢
  refine ⟨hstands.1, ?_⟩
  -- The second half of the mark stands in the piece as well, or is the first one of the next mark.
  cases hbehind : piece.drop (position + 1) with
  | nil => exact List.prefix_append [c] _
  | cons d behind =>
    rw [hbehind, List.cons_append, List.cons_prefix_cons] at hstands
    exact List.cons_prefix_cons.2 ⟨hstands.2.1, List.nil_prefix⟩

/-- A text with at most one mark stays as it is. -/
theorem expand_of_cuts (h : Cuts m.delimiter t pieces) (hfew : pieces.length ≤ 2) :
    expand m resolve t = t := by
  cases h with
  | last absent => exact expand_of_unmarked (unmarked_of_not_isInfix absent)
  | next leftmost rest =>
    cases rest with
    | last absent => exact expand_loose leftmost absent
    | @next _ _ pieces _ rest =>
      have hnone : pieces = [] := List.eq_nil_of_length_eq_zero (by simpa using hfew)
      rw [hnone] at rest
      cases rest

/-- What a template is expanded to holds at most one mark, if the values hold no part of one. -/
theorem exists_cuts_weave (h : Cuts m.delimiter t pieces)
    (hvalues : ∀ name ∈ names pieces, ∀ c ∈ m.delimiter, c ∉ resolve name) :
    ∃ first others, others.length ≤ 1 ∧
      Cuts m.delimiter (weave m.delimiter resolve pieces) (first :: others) := by
  induction pieces using weave.induct generalizing t with
  | case1 => cases h
  | case2 piece =>
    cases h with
    | last absent => exact ⟨piece, [], Nat.zero_le 1, .last absent⟩
    | next _ rest => cases rest
  | case3 piece loose =>
    cases h with
    | next leftmost rest =>
      cases rest with
      | last absent => exact ⟨piece, [loose], Nat.le_refl 1, .next leftmost (.last absent)⟩
      | next _ rest => cases rest
  | case4 piece name next pieces ih =>
    rw [names, List.forall_mem_cons] at hvalues
    cases h with
    | next leftmost rest =>
      cases rest with
      | next _ rest =>
        obtain ⟨first, others, hfew, hcut⟩ := ih rest hvalues.2
        have hvalue := Text.repels_of_forall_not_mem (delimiter_ne_nil m) hvalues.1
        exact ⟨_, others, hfew, hcut.prepend ((repels_of_leftmost leftmost).append hvalue)⟩

/-- A template falls into pieces in one way, whatever the names in it stand for. Substitution puts
values in the places of the names, and nothing else: it never looks for a mark in a value. If the
values hold no part of a mark, substituting once more changes nothing. -/
theorem substitute_in_one_pass (m : Marker) (t : Text) :
    ∃ pieces, (∀ cut, Cuts m.delimiter t cut ↔ cut = pieces) ∧
      ∀ e : Entity,
        substitute m e t = weave m.delimiter (Template.resolve e) pieces ∧
        ((∀ name ∈ names pieces, ∀ c ∈ m.delimiter, c ∉ Template.resolve e name) →
          substitute m e (substitute m e t) = substitute m e t) := by
  obtain ⟨pieces, hpieces⟩ := Text.exists_cuts (delimiter_ne_nil m) t
  refine ⟨pieces, fun cut => ⟨fun hcut => hcut.unique hpieces, fun hcut => hcut ▸ hpieces⟩, ?_⟩
  intro e
  have hwoven : substitute m e t = weave m.delimiter (Template.resolve e) pieces :=
    expand_eq_weave hpieces
  refine ⟨hwoven, fun hvalues => ?_⟩
  obtain ⟨first, others, hfew, hcut⟩ := exists_cuts_weave hpieces hvalues
  rw [hwoven]
  exact expand_of_cuts hcut (Nat.succ_le_succ hfew)

/-- Bars in odd numbers: the second name starts with one, and the last mark has no partner. A value
that reads like a marked name is left alone. -/
theorem substitute_in_one_pass_odd_bars :
    let t : Text := "a||V|||||W||||x".toList
    let named : Entity := (Entity.file 0 ['f']).addVariable ⟨['V'], "||W||".toList, false⟩
    let plain : Entity := (Entity.file 0 ['f']).addVariable ⟨['V'], ['v'], false⟩
    substitute .source named t = "a||W||||x".toList ∧
      substitute .source plain t = "av||x".toList ∧
      substitute .source plain (substitute .source plain t) = substitute .source plain t := by
  intro t named plain
  have hcut : Cuts Marker.source.delimiter t [['a'], ['V'], [], ['|', 'W'], [], ['x']] :=
    .of_find? (i := 1) (by decide) <| .of_find? (i := 1) (by decide) <|
      .of_find? (i := 0) (by decide) <| .of_find? (i := 2) (by decide) <|
        .of_find? (i := 0) (by decide) <| .last (by decide)
  obtain ⟨pieces, hpieces, hpass⟩ := substitute_in_one_pass .source t
  obtain rfl := (hpieces _).1 hcut
  obtain ⟨hplain, hagain⟩ := hpass plain
  have hvalues : ∀ name ∈ [['V'], ['|', 'W']], ∀ c ∈ ['|', '|'],
      c ∉ Template.resolve plain name := by
    intro name hname c hc
    obtain rfl : c = '|' := by simpa using hc
    rcases List.mem_pair.1 hname with rfl | rfl
    · decide
    · decide
  exact ⟨(hpass named).1.trans (by decide), hplain.trans (by decide), hagain hvalues⟩

end SourceAtlas.Template
