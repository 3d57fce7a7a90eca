import SourceAtlas.Proofs.Source.Scanner

/-!
# States between lines

A comment or a literal that is open between two lines is one that the language has, and there is
never one of each (`Fits`). Stripping keeps this from line to line.

A line that does not get out of what is open, or that starts with a line comment, holds no code and
leaves the state as it is (`IsSilent`).
-/

namespace SourceAtlas

/-- What is open at the end of a line of a language: a comment or a literal, but not both, and only
what the language has. -/
structure LineState.Fits (state : LineState) (set : RuleSet) : Prop where
  apart : state.insideComment → state.openLiteral = none
  comment : state.insideComment → set.blockComments ≠ []
  literal : ∀ index, state.openLiteral = some index → index < set.literals.length

namespace LineState

variable {set : RuleSet} {state : LineState}

theorem fits_clear (set : RuleSet) : clear.Fits set := by
  refine ⟨fun _ => rfl, ?_, ?_⟩
  · intro hinside
    cases hinside
  · intro index hopen
    cases hopen

theorem Fits.leaveComment (h : state.Fits set) :
    { state with insideComment := false }.Fits set := by
  refine ⟨?_, ?_, h.literal⟩
  · intro hinside
    cases hinside
  · intro hinside
    cases hinside

theorem Fits.leaveLiteral (h : state.Fits set) : { state with openLiteral := none }.Fits set := by
  refine ⟨fun _ => rfl, h.comment, ?_⟩
  intro index hopen
  cases hopen

end LineState

namespace Stripping

variable {set : RuleSet} {state : LineState} {t : Text}

theorem mark_of_findMark? {α : Type} {text : Text} {mark : α} {found : Found α}
    (h : findMark? text t mark = some found) : found.mark = mark := by
  rw [findMark?, Option.ite_none_left_eq_some] at h
  obtain ⟨i, -, rfl⟩ := Option.map_eq_some_iff.1 h.2
  rfl

/-- What is opened is one of the comments or literals of the language. -/
theorem fits_enter {found : Found Opening} (h : opening? set t = some found) :
    found.mark.enter.Fits set := by
  rcases List.mem_append.1 (Found.foremost?_mem h) with hmem | hmem
  · obtain ⟨c, hc, hfound⟩ := List.mem_filterMap.1 hmem
    rw [mark_of_findMark? hfound]
    refine ⟨fun _ => rfl, fun _ => List.ne_nil_of_mem hc, ?_⟩
    intro index hopen
    cases hopen
  · obtain ⟨⟨l, i⟩, hl, hfound⟩ := List.mem_filterMap.1 hmem
    rw [mark_of_findMark? hfound]
    refine ⟨?_, ?_, ?_⟩
    · intro hinside
      cases hinside
    · intro hinside
      cases hinside
    · intro index hopen
      cases hopen
      exact (List.getElem?_eq_some_iff.1 (List.mem_zipIdx_iff_getElem?.1 hl)).1

theorem fits_strip (h : state.Fits set) (t : Text) : (set.strip state t).2.Fits set := by
  -- Each way through stripping leaves what is open, opens something, or stops.
  fun_induction RuleSet.strip set state t with
  | case1 state t hcomment n hend ih => exact ih h.leaveComment
  | case2 => exact h
  | case3 state t hcomment index hliteral hmark ih => exact ih h.leaveLiteral
  | case4 state t hcomment index hliteral mark hmark n hend ih => exact ih h.leaveLiteral
  | case5 => exact h
  | case6 => exact h
  | case7 => exact h
  | case8 state t hcomment hliteral hline found hopening _ code last hstrip ih =>
    rw [hstrip] at ih
    exact ih (fits_enter hopening)

/-! ## Lines without code -/

theorem commentEnd?_eq_none (h : ∀ c ∈ set.blockComments, ¬ c.stop <:+: t) :
    commentEnd? set t = none := by
  have hnone : (set.blockComments.filterMap fun c => findMark? c.stop t ()) = [] := by
    rw [List.filterMap_eq_nil_iff]
    intro c hc
    rw [findMark?, Text.find?_eq_none.2 (h c hc), Option.map_none, ite_self]
  rw [commentEnd?, hnone]
  rfl

theorem literalEnd?_eq_none {mark : LiteralMark} (h : ¬ mark.stop <:+: t) :
    literalEnd? mark t = none := by
  have hne : mark.stop ≠ [] := by
    intro hnil
    rw [hnil] at h
    exact h List.nil_infix
  rw [literalEnd?, if_neg (by simpa using hne), literalEndFrom?, Text.find?_eq_none.2 h]

theorem lineComment?_eq_zero {start : Text} (hmem : start ∈ set.lineComments) (hne : start ≠ [])
    (h : start <+: t) : lineComment? set t = some 0 := by
  have hhere : startsWithAny (set.lineComments.filter (!·.isEmpty)) t = some () := by
    apply if_pos
    rw [List.any_eq_true]
    exact ⟨start, List.mem_filter.2 ⟨hmem, by simpa using hne⟩, List.isPrefixOf_iff_prefix.2 h⟩
  rw [lineComment?_eq, firstWhere.eq_def, hhere]
  rfl

/-- A line that shows by itself, in the state in which it starts, that it holds no code. -/
inductive IsSilent (set : RuleSet) (state : LineState) (line : Text) : Prop
  | blank (h : line = [])
  | lineComment {start : Text} (clear : state.isClear) (mem : start ∈ set.lineComments)
      (h : start <+: line)
  | insideComment (inside : state.insideComment)
      (h : ∀ c ∈ set.blockComments, ¬ c.stop <:+: line)
  | insideLiteral {index : Nat} {mark : LiteralMark} (inside : state.openLiteral = some index)
      (literal : set.literals[index]? = some mark) (h : ¬ mark.stop <:+: line)

theorem IsSilent.strip_eq (hstarts : ∀ start ∈ set.lineComments, start ≠ [])
    (hfits : state.Fits set) (h : IsSilent set state t) (hne : t ≠ []) :
    set.strip state t = ([], state) := by
  cases h with
  | blank h => exact absurd h hne
  | @lineComment start clear mem h =>
    simp only [LineState.isClear, Bool.and_eq_true, Bool.not_eq_true', Option.isNone_iff_eq_none]
      at clear
    have hzero := lineComment?_eq_zero mem (hstarts start mem) h
    rw [RuleSet.strip, dif_neg (by simp [clear.1])]
    split
    · rename_i hsome
      rw [clear.2] at hsome
      cases hsome
    · rw [hzero]
      rfl
  | insideComment inside h =>
    rw [RuleSet.strip, dif_pos inside, commentEnd?_eq_none h]
  | @insideLiteral index mark inside literal h =>
    have houtside : ¬ state.insideComment := by
      intro hcomment
      rw [hfits.apart hcomment] at inside
      cases inside
    rw [RuleSet.strip, dif_neg houtside]
    split
    · rename_i index' hsome
      cases inside.symm.trans hsome
      simp only [literal, literalEnd?_eq_none h]
    · rename_i hnone
      rw [inside] at hnone
      cases hnone

end Stripping

end SourceAtlas
