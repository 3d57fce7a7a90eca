import SourceAtlas.Proofs.Source.Turns

/-!
# Stripping a line in two parts

A line may be cut in two and stripped part by part, with the state of the first part handed on to
the second, unless the cut goes through a mark, a line comment stands on the line, or a literal is
open at the cut. Turn by turn, what is found in the first part alone is what is found in the whole
line: the rest of the line holds nothing that comes sooner, and nothing that is longer at the same
position.
-/

namespace SourceAtlas.Stripping

variable {set : RuleSet} {state last next : LineState} {x y t rest code mark : Text}

/-! ## Marks at the cut -/

/-- A mark stands in the first part of a text and reaches into the second. -/
def Straddles (mark x y : Text) : Prop :=
  ∃ position < x.length, x.length < position + mark.length ∧ mark <+: (x ++ y).drop position

instance : Decidable (Straddles mark x y) :=
  inferInstanceAs (Decidable (∃ position < x.length, _))

/-- A line that may be cut between two parts: it has no line comment, and the cut goes through no
mark that starts a comment or a literal or that ends a comment. -/
structure Seamless (set : RuleSet) (x y : Text) : Prop where
  lineComment : ∀ start ∈ lineStarts set, ¬ start <:+: x ++ y
  comment : ∀ c ∈ set.blockComments, ¬ Straddles c.start x y ∧ ¬ Straddles c.stop x y
  literal : ∀ l ∈ set.literals, ¬ Straddles l.start x y

theorem Straddles.of_suffix (hrest : rest <:+ x) (h : Straddles mark rest y) :
    Straddles mark x y := by
  obtain ⟨passed, rfl⟩ := hrest
  obtain ⟨position, hposition, hlength, hmark⟩ := h
  refine ⟨passed.length + position, ?_, ?_, ?_⟩
  · rw [List.length_append]
    omega
  · rw [List.length_append]
    omega
  · rwa [List.append_assoc, ← List.drop_drop, List.drop_left]

theorem Seamless.of_suffix (hrest : rest <:+ x) (h : Seamless set x y) : Seamless set rest y := by
  refine ⟨?_, ?_, ?_⟩
  · intro start hstart hwithin
    obtain ⟨passed, rfl⟩ := hrest
    refine h.lineComment start hstart (hwithin.trans ?_)
    rw [List.append_assoc]
    exact (List.suffix_append _ _).isInfix
  · intro c hc
    obtain ⟨hstart, hstop⟩ := h.comment c hc
    exact ⟨mt (.of_suffix hrest) hstart, mt (.of_suffix hrest) hstop⟩
  · intro l hl
    exact mt (.of_suffix hrest) (h.literal l hl)

section

variable {α β : Type} {marks : List (Text × α)} {here : Text → Option β} {passed : Text} {b : β}

theorem stands_append {mark : Text × α} (hne : x ≠ []) (h : ¬ Straddles mark.1 x y) :
    stands (x ++ y) mark = stands x mark := by
  rw [stands, stands, Bool.eq_iff_iff]
  simp only [Bool.and_eq_true, List.isPrefixOf_iff_prefix]
  refine and_congr_right fun _ => ⟨fun hmark => ?_, fun hmark => ?_⟩
  · by_contra hnot
    refine h ⟨0, List.length_pos_iff.2 hne, ?_, hmark⟩
    by_contra hlength
    exact hnot (List.prefix_of_prefix_length_le hmark (List.prefix_append x y) (by omega))
  · exact hmark.trans (List.prefix_append x y)

/-- The same mark is chosen at every position in the first part, whether the second follows or
not. -/
theorem longest?_append (h : ∀ mark ∈ marks, ¬ Straddles mark.1 x y) :
    ∀ r, r ≠ [] → r <:+ x → longest? marks (r ++ y) = longest? marks r := by
  intro r hne hr
  rw [longest?, longest?, List.filter_congr fun mark hmark =>
    stands_append hne (mt (.of_suffix hr) (h mark hmark))]

theorem longest?_nil (marks : List (Text × α)) : longest? marks [] = none := by
  rw [longest?_eq_none]
  intro mark _ hstands
  obtain ⟨hne, hmark⟩ := Bool.and_eq_true_iff.1 hstands
  rw [List.eq_nil_of_prefix_nil (List.isPrefixOf_iff_prefix.1 hmark)] at hne
  cases hne

theorem prefix_of_longest? {mark : Text × α} (h : longest? marks t = some mark) : mark.1 <+: t := by
  have hstands := (List.mem_filter.1 (List.argmax_mem h)).2
  exact List.isPrefixOf_iff_prefix.1 (Bool.and_eq_true_iff.1 hstands).2

/-! ## The first position -/

theorem here_of_firstWhere (h : firstWhere here t = some (passed, b, rest)) :
    here rest = some b := by
  induction t generalizing passed with
  | nil =>
    rw [firstWhere] at h
    split at h <;> cases h
    assumption
  | cons c t ih =>
    rw [firstWhere] at h
    split at h
    · cases h
      assumption
    · obtain ⟨⟨passed', _, _⟩, h, heq⟩ := Option.map_eq_some_iff.1 h
      cases heq
      exact ih h

theorem firstWhere_eq_none (h : ∀ r, r <:+ t → here r = none) : firstWhere here t = none := by
  induction t with
  | nil => rw [firstWhere, h [] List.suffix_rfl]
  | cons c t ih =>
    rw [firstWhere, h (c :: t) List.suffix_rfl]
    exact Option.map_eq_none_iff.2 (ih fun r hr => h r (hr.trans (List.suffix_cons c t)))

/-- If the second part makes no difference at any position in the first, the search ends in the
first part as it does there alone, or goes on in the second. -/
theorem firstWhere_append (hnil : here [] = none)
    (hsame : ∀ r, r ≠ [] → r <:+ x → here (r ++ y) = here r) :
    firstWhere here (x ++ y) =
      match firstWhere here x with
      | some (passed, b, rest) => some (passed, b, rest ++ y)
      | none => (firstWhere here y).map fun (passed, b, rest) => (x ++ passed, b, rest) := by
  induction x with
  | nil =>
    have hempty : firstWhere here [] = none := by rw [firstWhere, hnil]
    simp [hempty]
  | cons c x ih =>
    have hfirst := hsame (c :: x) (List.cons_ne_nil c x) List.suffix_rfl
    have hrest := ih fun r hne hr => hsame r hne (hr.trans (List.suffix_cons c x))
    rw [List.cons_append] at hfirst ⊢
    rw [firstWhere, hfirst, hrest, firstWhere]
    cases here (c :: x) with
    | some b => rfl
    | none =>
      cases firstWhere here x with
      | some found => rfl
      | none =>
        simp only [Option.map_none, Option.map_map]
        rfl

/-- What is left behind a mark in the first part. -/
theorem drop_mark_append {mark : Text × α}
    (h : firstWhere (longest? marks) x = some (passed, mark, rest)) (y : Text) :
    (rest ++ y).drop mark.1.length = rest.drop mark.1.length ++ y ∧
      rest.drop mark.1.length <:+ x := by
  have hlength := (prefix_of_longest? (here_of_firstWhere h)).length_le
  refine ⟨List.drop_append_of_le_length hlength, ?_⟩
  rw [eq_append_of_firstWhere h]
  exact (List.drop_suffix _ _).trans (List.suffix_append _ _)

end

theorem Seamless.not_straddles_commentEnds (h : Seamless set x y) :
    ∀ mark ∈ commentEnds set, ¬ Straddles mark.1 x y := by
  intro mark hmark
  obtain ⟨c, hc, rfl⟩ := List.mem_map.1 hmark
  exact (h.comment c hc).2

theorem Seamless.not_straddles_openings (h : Seamless set x y) :
    ∀ mark ∈ openings set, ¬ Straddles mark.1 x y := by
  intro mark hmark
  rcases List.mem_append.1 hmark with hmark | hmark
  · obtain ⟨c, hc, rfl⟩ := List.mem_map.1 hmark
    exact (h.comment c hc).1
  · obtain ⟨⟨l, i⟩, hl, rfl⟩ := List.mem_map.1 hmark
    exact h.literal l (List.fst_mem_of_mem_zipIdx hl)

theorem Seamless.firstWhere_lineStarts (h : Seamless set x y) (ht : t <:+: x ++ y) :
    firstWhere (startsWithAny (lineStarts set)) t = none := by
  refine firstWhere_eq_none fun r hr => if_neg fun hany => ?_
  obtain ⟨start, hstart, hmark⟩ := List.any_eq_true.1 hany
  have hwithin := (List.isPrefixOf_iff_prefix.1 hmark).isInfix.trans hr.isInfix
  exact h.lineComment start hstart (hwithin.trans ht)

/-! ## Ends of literals -/

theorem find?_append {needle : Text} {i : Nat} (h : Text.find? needle t = some i) (y : Text) :
    Text.find? needle (t ++ y) = some i := by
  induction t generalizing i with
  | nil =>
    rw [Text.find?] at h
    split at h
    · rename_i hempty
      cases h
      rw [List.isEmpty_iff.1 hempty]
      cases y <;> rfl
    · cases h
  | cons c t ih =>
    rw [Text.find?] at h
    rw [List.cons_append, Text.find?]
    split at h
    · rename_i hmark
      cases h
      have hmark := (List.isPrefixOf_iff_prefix.1 hmark).trans (List.prefix_append (c :: t) y)
      exact if_pos (List.isPrefixOf_iff_prefix.2 hmark)
    · rename_i hmark
      obtain ⟨j, hj, rfl⟩ := Option.map_eq_some_iff.1 h
      -- The text is long enough for an end mark further on, so none begins here.
      have hlength := Text.find?_le hj
      rw [if_neg, ih hj, Option.map_some]
      intro hlonger
      refine hmark (List.isPrefixOf_iff_prefix.2 (List.prefix_of_prefix_length_le
        (List.isPrefixOf_iff_prefix.1 hlonger) (List.prefix_append (c :: t) y) ?_))
      rw [List.length_cons]
      omega

theorem literalEndFrom?_append {literal : LiteralMark} {before : Text} {n : Nat}
    (h : literalEndFrom? literal before t = some n) (y : Text) :
    literalEndFrom? literal before (t ++ y) = some n ∧ n ≤ before.length + t.length := by
  fun_induction literalEndFrom? literal before t with
  | case1 => cases h
  | case2 before t i hfind passed hends =>
    cases h
    have hlength := Text.find?_le hfind
    rw [literalEndFrom?, find?_append hfind]
    simp only [List.take_append_of_le_length (show i ≤ t.length by omega), if_pos hends]
    exact ⟨rfl, by omega⟩
  | case3 before t i hfind passed hexcepted hgoesOn ih =>
    have hlength := Text.find?_le hfind
    obtain ⟨hrest, hbound⟩ := ih h
    rw [literalEndFrom?, find?_append hfind]
    simp only [List.take_append_of_le_length (show i ≤ t.length by omega), if_neg hexcepted]
    refine ⟨?_, ?_⟩
    · rw [if_pos, List.take_append_of_le_length hlength, List.drop_append_of_le_length hlength]
      · exact hrest
      · rw [List.length_append]
        omega
    · simp only [List.length_append, List.length_take, List.length_drop] at hbound
      omega
  | case4 => cases h

theorem literalEnd?_append {literal : LiteralMark} {n : Nat} (h : literalEnd? literal t = some n)
    (y : Text) : literalEnd? literal (t ++ y) = some n ∧ n ≤ t.length := by
  rw [literalEnd?] at h ⊢
  split at h
  · rename_i hempty
    cases h
    exact ⟨if_pos hempty, Nat.zero_le _⟩
  · rename_i hstop
    rw [if_neg hstop]
    simpa using literalEndFrom?_append h y

/-! ## Turns -/

theorem turn_append_of_goOn (h : Seamless set x y)
    (hturn : turn set (lineStarts set) state x = .goOn code next rest) :
    turn set (lineStarts set) state (x ++ y) = .goOn code next (rest ++ y) ∧ rest <:+ x := by
  by_cases hcomment : state.insideComment
  · rw [turn, if_pos hcomment] at hturn ⊢
    split at hturn
    · rename_i passed mark found hfirst
      cases hturn
      obtain ⟨hdrop, hsuffix⟩ := drop_mark_append hfirst y
      rw [firstWhere_append (longest?_nil _) (longest?_append h.not_straddles_commentEnds), hfirst]
      exact ⟨congrArg _ hdrop, hsuffix⟩
    · cases hturn
  · rw [turn, if_neg hcomment] at hturn ⊢
    cases hliteral : state.openLiteral with
    | some index =>
      rw [hliteral] at hturn
      simp only at hturn ⊢
      cases hmark : set.literals[index]? with
      | none =>
        rw [hmark] at hturn
        cases hturn
        exact ⟨rfl, List.suffix_rfl⟩
      | some literal =>
        rw [hmark] at hturn
        simp only at hturn ⊢
        split at hturn
        · rename_i n hend
          cases hturn
          obtain ⟨hwhole, hlength⟩ := literalEnd?_append hend y
          rw [hwhole]
          exact ⟨congrArg _ (List.drop_append_of_le_length hlength), List.drop_suffix _ _⟩
        · cases hturn
    | none =>
      rw [hliteral] at hturn
      simp only [h.firstWhere_lineStarts (List.prefix_append x y).isInfix] at hturn
      simp only [h.firstWhere_lineStarts List.infix_rfl]
      split at hturn
      · rename_i passed mark found hfirst
        cases hturn
        obtain ⟨hdrop, hsuffix⟩ := drop_mark_append hfirst y
        rw [firstWhere_append (longest?_nil _) (longest?_append h.not_straddles_openings), hfirst]
        exact ⟨congrArg _ hdrop, hsuffix⟩
      · cases hturn

/-- A turn that copies some more code first. -/
def Turn.after (code : Text) : Turn → Turn
  | stop others state => stop (code ++ others) state
  | goOn others state rest => goOn (code ++ others) state rest

/-- A turn that stops at the end of the first part is continued by that of the second part. -/
theorem turn_append_of_stop (h : Seamless set x y) (hclosed : last.openLiteral = none)
    (hturn : turn set (lineStarts set) state x = .stop code last) :
    turn set (lineStarts set) state (x ++ y) = (turn set (lineStarts set) last y).after code := by
  by_cases hcomment : state.insideComment
  · rw [turn, if_pos hcomment] at hturn ⊢
    split at hturn
    · cases hturn
    · rename_i hfirst
      cases hturn
      rw [firstWhere_append (longest?_nil _) (longest?_append h.not_straddles_commentEnds), hfirst,
        turn, if_pos hcomment]
      cases firstWhere (longest? (commentEnds set)) y <;> rfl
  · rw [turn, if_neg hcomment] at hturn ⊢
    cases hliteral : state.openLiteral with
    | some index =>
      rw [hliteral] at hturn
      simp only at hturn
      split at hturn
      · cases hturn
      · split at hturn
        · cases hturn
        · cases hturn
          cases hclosed.symm.trans hliteral
    | none =>
      rw [hliteral] at hturn
      simp only [h.firstWhere_lineStarts (List.prefix_append x y).isInfix] at hturn
      simp only [h.firstWhere_lineStarts List.infix_rfl]
      split at hturn
      · cases hturn
      · rename_i hfirst
        cases hturn
        rw [firstWhere_append (longest?_nil _) (longest?_append h.not_straddles_openings), hfirst,
          turn, if_neg hcomment, hliteral]
        simp only [h.firstWhere_lineStarts (List.suffix_append x y).isInfix]
        cases firstWhere (longest? (openings set)) y <;> rfl

/-! ## Lines -/

theorem strip_of_stop (h : turn set (lineStarts set) state t = .stop code last) :
    set.strip state t = (code, last) := by
  obtain ⟨hcode, hlast⟩ := (scans_strip set state t).unique (.stop h)
  exact Prod.ext hcode hlast

theorem strip_of_turn_eq_after
    (h : turn set (lineStarts set) state t = (turn set (lineStarts set) last y).after code) :
    set.strip state t = (code ++ (set.strip last y).1, (set.strip last y).2) := by
  cases hturn : turn set (lineStarts set) last y with
  | stop others finish =>
    rw [hturn] at h
    rw [strip_of_stop hturn, strip_of_stop h]
  | goOn others next rest =>
    rw [hturn] at h
    rw [strip_of_turn hturn, strip_of_turn h, List.append_assoc]

/-- A line may be cut anywhere but through a mark or a literal, if it has no line comment: its code
is the code of both parts, where the second one starts in the state that the first one has left. -/
theorem strip_append_of_seamless (set : RuleSet) (state : LineState) (h : Seamless set x y)
    (hclosed : (set.strip state x).2.openLiteral = none) :
    set.strip state (x ++ y) =
      ((set.strip state x).1 ++ (set.strip (set.strip state x).2 y).1,
        (set.strip (set.strip state x).2 y).2) := by
  have hscan := scans_strip set state x
  generalize (set.strip state x).1 = code, (set.strip state x).2 = last at hscan hclosed ⊢
  -- The turns of the whole line are those of the first part, each with the second part behind it.
  induction hscan with
  | stop hturn => exact strip_of_turn_eq_after (turn_append_of_stop h hclosed hturn)
  | goOn hturn hrest ih =>
    obtain ⟨hwhole, hsuffix⟩ := turn_append_of_goOn h hturn
    rw [strip_of_turn hwhole, ih (h.of_suffix hsuffix) hclosed, List.append_assoc]

/-- The first part leaves a literal that was open before, behind an escaped quote, and opens a
comment that the second part closes. -/
theorem strip_append_of_seamless_inside_comment :
    let set : RuleSet := ⟨[⟨"//".toList, []⟩, ⟨"/*".toList, "*/".toList⟩],
      [⟨['"'], ['"'], ["\\\"".toList]⟩], []⟩
    let x := "a\\\" b\" c /* d".toList
    let y := "e */ f".toList
    Seamless set x y ∧ (set.strip ⟨false, some 0⟩ x).2 = ⟨true, none⟩ ∧
      set.strip ⟨false, some 0⟩ (x ++ y) =
        ((set.strip ⟨false, some 0⟩ x).1 ++ (set.strip ⟨true, none⟩ y).1,
          (set.strip ⟨true, none⟩ y).2) := by
  intro set x y
  have hseamless : Seamless set x y :=
    ⟨by decide +kernel, by decide +kernel, by decide +kernel⟩
  have hlast : (set.strip ⟨false, some 0⟩ x).2 = ⟨true, none⟩ := by decide +kernel
  have hstrip := strip_append_of_seamless set ⟨false, some 0⟩ hseamless (by rw [hlast])
  rw [hlast] at hstrip
  exact ⟨hseamless, hlast, hstrip⟩

end SourceAtlas.Stripping
