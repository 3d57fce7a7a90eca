import Mathlib.Data.List.Forall2
import SourceAtlas.Proofs.RuleFile.Groups

/-!
# Marks of comments and literals

The marks that a rule file yields are `IsReadable`: trimmed texts, without the characters that the
notation of marks is made of. Comment marks that are readable always come back from their printed
list. Literal marks do so exactly if their elements are `BracketsApart`, since an element that ends
in a closing bracket and the next one that starts with an opening bracket look like the end of one
group and the start of another.
-/

namespace SourceAtlas

open Text (IsBlank IsTrimmed)

/-- No element ends in a closing bracket while the next one starts with an opening bracket. -/
def RuleFile.BracketsApart (elements : List Text) : Prop :=
  elements.IsChain fun a b => ¬(a.getLast? = some ']' ∧ b.head? = some '[')

instance (elements : List Text) : Decidable (RuleFile.BracketsApart elements) :=
  inferInstanceAs (Decidable (elements.IsChain _))

/-- A text that may stand between the commas of a group. -/
structure RuleFile.IsElement (x : Text) : Prop where
  ne_nil : x ≠ []
  trimmed : IsTrimmed x
  comma : ',' ∉ x
  newline : '\n' ∉ x

structure CommentMark.IsReadable (mark : CommentMark) : Prop where
  start : RuleFile.IsElement mark.start
  stop_trimmed : IsTrimmed mark.stop
  stop_newline : '\n' ∉ mark.stop
  unbroken : RuleFile.Unbroken (mark.start ++ ", ".toList ++ mark.stop)

structure LiteralMark.IsReadable (mark : LiteralMark) : Prop where
  element : ∀ x ∈ mark.elements, RuleFile.IsElement x

namespace RuleFile

/-! ## Separators between elements -/

/-- A comma behind an element is part of a separator exactly if brackets of both sides meet. -/
theorem unbroken_comma_iff {x rest : Text} (hx : IsTrimmed x) (hc : ',' ∉ x)
    (hr : ∀ c ∈ rest.head?, ¬Text.isSpace c) :
    Unbroken (x ++ ", ".toList ++ rest) ↔
      ¬(x.getLast? = some ']' ∧ rest.head? = some '[') ∧ Unbroken rest := by
  have hblank : IsBlank [' '] := Text.isBlank_cons.2 ⟨by decide, Text.isBlank_nil⟩
  have hsep : ", ".toList = [',', ' '] := rfl
  rw [hsep]
  constructor
  · intro h
    refine ⟨?_, h.of_append⟩
    rintro ⟨hlast, hhead⟩
    obtain ⟨u, rfl⟩ := List.getLast?_eq_some_iff.1 hlast
    obtain ⟨v, rfl⟩ := List.head?_eq_some_iff.1 hhead
    have hnone := h u ([',', ' '] ++ '[' :: v) (by simp)
    have hsome : groupStart? ([',', ' '] ++ '[' :: v) = some v :=
      groupStart?_of_blank Text.isBlank_nil hblank v
    rw [hsome] at hnone
    cases hnone
  · rintro ⟨hapart, hrest⟩
    -- From the right: a separator starts in the rest, at the comma, or in the element.
    have hcomma : Unbroken ([',', ' '] ++ rest) := by
      refine unbroken_cons.2 ⟨fun h => absurd h (by decide), ?_⟩
      exact unbroken_cons.2 ⟨fun h => absurd h (by decide), hrest⟩
    intro u v h
    by_contra hne
    obtain ⟨found, hfound⟩ := Option.ne_none_iff_exists'.1 hne
    rw [List.append_assoc] at h
    rcases List.append_eq_append_iff.1 h with ⟨w, hu, hw⟩ | ⟨w, hxw, hv⟩
    · exact hne (hcomma w v hw)
    · cases w with
      | nil => exact hne (hcomma [] v hv.symm)
      | cons d w =>
        obtain ⟨rfl, rfl⟩ := List.cons.inj hv
        have hcw : ',' ∉ w := fun hmem => hc (by rw [hxw]; simp [hmem])
        obtain ⟨hw, hopen⟩ := isBlank_of_groupStart? hcw hfound
        have hhead : rest.head? = some '[' := by
          rw [← hopen]
          exact congrArg List.head?
            ((Text.trimStart_append hblank).trans (Text.trimStart_of_head hr)).symm
        have hlast : x.getLast? = some ']' := by
          cases hw' : w.getLast? with
          | none => rw [hxw, List.getLast?_eq_none_iff.1 hw', List.getLast?_concat]
          | some c =>
            have hmem : c ∈ x.getLast? := by
              rw [hxw, List.getLast?_append_cons, List.getLast?_cons, hw']
              rfl
            exact absurd (hw c (List.mem_of_getLast? hw')) (hx.last c hmem)
        exact hapart ⟨hlast, hhead⟩

theorem head?_join {sep x : Text} {xs : List Text} (hx : x ≠ []) :
    (Text.join sep (x :: xs)).head? = x.head? := by
  obtain ⟨c, t, rfl⟩ := List.exists_cons_of_ne_nil hx
  cases xs <;> rfl

/-- A printed group holds no separator exactly if its elements have their brackets apart. -/
theorem unbroken_join_iff {xs : List Text} (h : ∀ x ∈ xs, IsElement x) :
    Unbroken (Text.join ", ".toList xs) ↔ BracketsApart xs := by
  induction xs with
  | nil => exact iff_of_true unbroken_nil .nil
  | cons x xs ih =>
    have hx := h x List.mem_cons_self
    cases xs with
    | nil => exact iff_of_true (unbroken_of_comma_not_mem hx.comma) (.singleton x)
    | cons y ys =>
      have hy := h y (by simp)
      have hhead : (Text.join ", ".toList (y :: ys)).head? = y.head? := head?_join hy.ne_nil
      have hspace : ∀ c ∈ (Text.join ", ".toList (y :: ys)).head?, ¬Text.isSpace c := by
        rw [hhead]
        exact hy.trimmed.head
      rw [Text.join, unbroken_comma_iff hx.trimmed hx.comma hspace, hhead,
        ih fun z hz => h z (List.mem_cons_of_mem _ hz), BracketsApart, BracketsApart,
        List.isChain_cons_cons]

/-! ## Single marks -/

theorem commentMark_eq_ok {g : Text} {mark : CommentMark} (h : commentMark g = .ok mark) :
    mark.start ≠ [] ∧ mark.start = Text.trim (g.takeWhile (· != ',')) ∧
      mark.stop = Text.trim ((g.dropWhile (· != ',')).drop 1) := by
  unfold commentMark at h
  simp only at h
  split at h
  · cases h
  · rename_i hne
    cases h
    exact ⟨by simpa using hne, rfl, rfl⟩

/-- The two sides of the first comma of a text, or a text without comma. -/
theorem comma_cases (g : Text) :
    (',' ∉ g ∧ g.takeWhile (· != ',') = g ∧ (g.dropWhile (· != ',')).drop 1 = []) ∨
      ∃ p q, g = p ++ ',' :: q ∧ ',' ∉ p ∧ g.takeWhile (· != ',') = p ∧
        (g.dropWhile (· != ',')).drop 1 = q := by
  have hsplit := List.takeWhile_append_dropWhile (p := (· != ',')) (l := g)
  have hclean : ',' ∉ g.takeWhile (· != ',') := by
    intro hmem
    simpa using List.mem_takeWhile_imp hmem
  cases hd : g.dropWhile (· != ',') with
  | nil =>
    rw [hd, List.append_nil] at hsplit
    exact .inl ⟨hsplit ▸ hclean, hsplit, rfl⟩
  | cons c q =>
    have hc : c = ',' := by
      have := List.head?_dropWhile_not (· != ',') g
      rw [hd] at this
      simpa using this
    subst hc
    exact .inr ⟨_, q, by rw [← hd, hsplit], hclean, rfl, rfl⟩

theorem CommentMark.isReadable_of_group {g : Text} {mark : CommentMark}
    (h : commentMark g = .ok mark) (hg : Unbroken g) (hn : '\n' ∉ g) : mark.IsReadable := by
  obtain ⟨hne, hstart, hstop⟩ := commentMark_eq_ok h
  have htrimmed : IsTrimmed mark.start := hstart ▸ Text.isTrimmed_trim _
  have hstopTrimmed : IsTrimmed mark.stop := hstop ▸ Text.isTrimmed_trim _
  rcases comma_cases g with ⟨hcomma, htake, hdrop⟩ | ⟨p, q, rfl, hcomma, htake, hdrop⟩
  · rw [htake] at hstart
    have hnone : mark.stop = [] := by rw [hstop, hdrop, Text.trim_eq_nil.2 Text.isBlank_nil]
    have hcs : ',' ∉ mark.start := fun hc => hcomma (Text.mem_of_mem_trim (hstart ▸ hc))
    refine ⟨⟨hne, htrimmed, hcs, fun hc => hn (Text.mem_of_mem_trim (hstart ▸ hc))⟩,
      hstopTrimmed, ?_, ?_⟩
    · rw [hnone]
      exact List.not_mem_nil
    · rw [unbroken_comma_iff htrimmed hcs hstopTrimmed.head, hnone]
      exact ⟨by simp, unbroken_nil⟩
  · rw [htake] at hstart
    rw [hdrop] at hstop
    have hcs : ',' ∉ mark.start := fun hc => hcomma (Text.mem_of_mem_trim (hstart ▸ hc))
    have hns : '\n' ∉ mark.start := fun hc =>
      hn (List.mem_append_left _ (Text.mem_of_mem_trim (hstart ▸ hc)))
    have hnt : '\n' ∉ mark.stop := fun hc =>
      hn (List.mem_append_right _ (List.mem_cons_of_mem _ (Text.mem_of_mem_trim (hstop ▸ hc))))
    refine ⟨⟨hne, htrimmed, hcs, hns⟩, hstopTrimmed, hnt, ?_⟩
    rw [unbroken_comma_iff htrimmed hcs hstopTrimmed.head]
    obtain ⟨a, b, ha, hb, hp⟩ := Text.exists_eq_trim p
    obtain ⟨c, d, hc, hd, hq⟩ := Text.exists_eq_trim q
    rw [← hstart] at hp
    rw [← hstop] at hq
    constructor
    · -- Brackets that met here would have met in the group, with only blanks between them.
      rintro ⟨hlast, hhead⟩
      obtain ⟨u, hu⟩ := List.getLast?_eq_some_iff.1 hlast
      obtain ⟨v, hv⟩ := List.head?_eq_some_iff.1 hhead
      have hnone := hg (a ++ u) (b ++ ',' :: (c ++ '[' :: (v ++ d))) (by
        rw [hp, hq, hu, hv]
        simp)
      rw [groupStart?_of_blank hb hc] at hnone
      cases hnone
    · have hq' : Unbroken q := Unbroken.of_append (u := p ++ [',']) (by simpa using hg)
      rw [hq, List.append_assoc] at hq'
      exact hq'.of_append.of_append_right

theorem commentMark_print {mark : CommentMark} (h : mark.IsReadable) :
    commentMark (mark.start ++ ", ".toList ++ mark.stop) = .ok mark := by
  have hclean : ∀ c ∈ mark.start, (c != ',') = true := by
    intro c hc
    have : c ≠ ',' := fun heq => h.start.comma (heq ▸ hc)
    simpa using this
  have hsep : mark.start ++ ", ".toList ++ mark.stop = mark.start ++ ',' :: ' ' :: mark.stop := by
    simp
  have htake : (mark.start ++ ", ".toList ++ mark.stop).takeWhile (· != ',') = mark.start := by
    rw [hsep, List.takeWhile_append_of_pos hclean]
    simp
  have hdrop : ((mark.start ++ ", ".toList ++ mark.stop).dropWhile (· != ',')).drop 1 =
      ' ' :: mark.stop := by
    rw [hsep, List.dropWhile_append_of_pos hclean]
    rfl
  have hstop : Text.trim (' ' :: mark.stop) = mark.stop := by
    simpa using Text.trim_pad (a := [' ']) (by simp [IsBlank]; rfl) h.stop_trimmed Text.isBlank_nil
  unfold commentMark
  simp only [htake, hdrop, hstop, Text.trim_of_isTrimmed h.start.trimmed]
  rw [if_neg (by simpa using h.start.ne_nil)]

/-- The elements of a mark that was read from a group. -/
theorem literalMark_eq_ok {g : Text} {mark : LiteralMark} (h : literalMark g = .ok mark) :
    ∀ x ∈ mark.elements, x ∈ ((Text.cutAt (· == ',') g).map Text.trim).filter (!·.isEmpty) := by
  unfold literalMark at h
  split at h
  · cases h
  · rename_i start hs
    cases h
    simp [LiteralMark.elements, hs]
  · rename_i start second others hs
    cases h
    rw [hs]
    intro x hx
    simpa [LiteralMark.elements, List.dropLast_append_getLast] using hx

theorem LiteralMark.isReadable_of_group {g : Text} {mark : LiteralMark}
    (h : literalMark g = .ok mark) (hn : '\n' ∉ g) : mark.IsReadable := by
  refine ⟨fun x hx => ?_⟩
  obtain ⟨hx, hne⟩ := List.mem_filter.1 (literalMark_eq_ok h x hx)
  obtain ⟨w, hw, rfl⟩ := List.mem_map.1 hx
  refine ⟨by simpa using hne, Text.isTrimmed_trim w, ?_, ?_⟩
  · intro hc
    simpa using (Text.mem_of_mem_cutAt hw (Text.mem_of_mem_trim hc)).2
  · intro hc
    exact hn (Text.mem_of_mem_cutAt hw (Text.mem_of_mem_trim hc)).1

theorem literalMark_print {mark : LiteralMark} (h : mark.IsReadable) :
    literalMark (Text.join ", ".toList mark.elements) = .ok mark := by
  have hcut : ((Text.cutAt (· == ',') (Text.join ", ".toList mark.elements)).map Text.trim).filter
      (!·.isEmpty) = mark.elements := by
    have hne : mark.elements ≠ [] := by simp [LiteralMark.elements]
    have hread := Text.map_trim_cutAt_join hne
      (fun x hx => ⟨(h.element x hx).trimmed, (h.element x hx).comma⟩) Text.isBlank_nil (by simp)
    rw [List.nil_append] at hread
    rw [hread, List.filter_eq_self]
    intro x hx
    simpa using (h.element x hx).ne_nil
  obtain ⟨start, stop, exceptions⟩ := mark
  unfold literalMark
  rw [hcut]
  cases exceptions with
  | nil => rfl
  | cons e es =>
    have hdrop : (e :: (es ++ [stop])).dropLast = e :: es := by
      rw [← List.cons_append, List.dropLast_concat]
    simp [LiteralMark.elements, hdrop]

/-! ## Lists of marks -/

theorem mapM_eq_ok_iff {α β ε : Type} {f : α → Except ε β} {xs : List α} {ys : List β} :
    xs.mapM f = .ok ys ↔ List.Forall₂ (fun x y => f x = .ok y) xs ys := by
  induction xs generalizing ys with
  | nil =>
    constructor
    · intro h
      cases h
      exact .nil
    · intro h
      cases h
      rfl
  | cons x xs ih =>
    rw [List.mapM_cons]
    constructor
    · intro h
      obtain ⟨y, hy, h⟩ := bind_eq_ok h
      obtain ⟨zs, hzs, h⟩ := bind_eq_ok h
      cases h
      exact .cons hy (ih.1 hzs)
    · intro h
      cases h with
      | cons hy hzs =>
        rw [hy, ih.2 hzs]
        rfl

theorem exists_of_mem_mapM {α β ε : Type} {f : α → Except ε β} {xs : List α} {ys : List β}
    (h : xs.mapM f = .ok ys) {y : β} (hy : y ∈ ys) : ∃ x ∈ xs, f x = .ok y := by
  have hpairs := mapM_eq_ok_iff.1 h
  clear h
  induction hpairs with
  | nil => cases hy
  | @cons x z xs zs hx _ ih =>
    rcases List.mem_cons.1 hy with rfl | hy
    · exact ⟨x, List.mem_cons_self, hx⟩
    · obtain ⟨x', hmem, hx'⟩ := ih hy
      exact ⟨x', List.mem_cons_of_mem _ hmem, hx'⟩

theorem CommentMark.not_isBlank {mark : CommentMark} :
    ¬IsBlank (mark.start ++ ", ".toList ++ mark.stop) := by
  intro h
  exact absurd (h ',' (by simp)) (by decide)

theorem LiteralMark.not_isBlank {mark : LiteralMark} (h : mark.IsReadable) :
    ¬IsBlank (Text.join ", ".toList mark.elements) := by
  intro hblank
  have hstart := h.element mark.start (by simp [LiteralMark.elements])
  obtain ⟨c, u, hcons⟩ := List.exists_cons_of_ne_nil hstart.ne_nil
  have hhead : (Text.join ", ".toList mark.elements).head? = some c := by
    rw [LiteralMark.elements, List.cons_append, head?_join hstart.ne_nil, hcons]
    rfl
  exact hstart.trimmed.head c (by rw [hcons]; rfl) (hblank c (List.mem_of_head? hhead))

theorem CommentMark.map_print (marks : List CommentMark) :
    marks.map CommentMark.print =
      (marks.map fun m => m.start ++ ", ".toList ++ m.stop).map bracketed := by
  rw [List.map_map]
  exact List.map_congr_left fun m _ => by simp [CommentMark.print, bracketed]

theorem LiteralMark.map_print (marks : List LiteralMark) :
    marks.map LiteralMark.print =
      (marks.map fun m => Text.join ", ".toList m.elements).map bracketed := by
  rw [List.map_map]
  rfl

/-- The groups of a printed list of marks, whose groups may each be several again. -/
theorem groups_printed {name : Text} {gs : List Text} (hname : '[' ∉ name) (hne : gs ≠ [])
    (hmark : ∀ g ∈ gs, ¬IsBlank g) :
    groups (name ++ " = [".toList ++ Text.join ", ".toList (gs.map bracketed) ++ [']']) =
      .ok (gs.flatMap splitGroups) := by
  have hblank : ¬IsBlank (Text.join separator gs) := by
    obtain ⟨g, gs, rfl⟩ := List.exists_cons_of_ne_nil hne
    intro h
    refine hmark g List.mem_cons_self fun c hc => h c ?_
    cases gs with
    | nil => exact hc
    | cons g' gs => simp [Text.join, hc]
  have hline : name ++ " = [".toList ++ Text.join ", ".toList (gs.map bracketed) ++ [']'] =
      (name ++ " = ".toList) ++ '[' :: bracketed (Text.join separator gs) ++ [']'] := by
    rw [join_bracketed hne]
    simp
  rw [hline, groups_brackets (by simp [hname]) hblank, splitGroups_join hne]

theorem flatMap_splitGroups {gs : List Text} (h : ∀ g ∈ gs, Unbroken g) :
    gs.flatMap splitGroups = gs := by
  induction gs with
  | nil => rfl
  | cons g gs ih =>
    rw [List.flatMap_cons, splitGroups_of_unbroken (h g List.mem_cons_self),
      ih fun g hg => h g (List.mem_cons_of_mem _ hg)]
    rfl

theorem length_le_flatMap_splitGroups (gs : List Text) :
    gs.length ≤ (gs.flatMap splitGroups).length := by
  induction gs with
  | nil => exact Nat.le_refl 0
  | cons g gs ih =>
    have := List.length_pos_iff.2 (splitGroups_ne_nil g)
    rw [List.flatMap_cons, List.length_append, List.length_cons]
    omega

/-- If as many groups come back as were written, then none of them was broken. -/
theorem unbroken_of_length_eq {gs : List Text}
    (h : (gs.flatMap splitGroups).length = gs.length) : ∀ g ∈ gs, Unbroken g := by
  induction gs with
  | nil => simp
  | cons g gs ih =>
    have hrest := length_le_flatMap_splitGroups gs
    have hpos := List.length_pos_iff.2 (splitGroups_ne_nil g)
    rw [List.flatMap_cons, List.length_append, List.length_cons] at h
    intro g' hg'
    rcases List.mem_cons.1 hg' with rfl | hg'
    · by_contra hbroken
      have := one_lt_length_splitGroups hbroken
      omega
    · exact ih (by omega) g' hg'

theorem mapM_commentMark_print {marks : List CommentMark} (h : ∀ m ∈ marks, m.IsReadable) :
    ((marks.map fun m => m.start ++ ", ".toList ++ m.stop).flatMap splitGroups).mapM commentMark =
      .ok marks := by
  rw [flatMap_splitGroups, mapM_eq_ok_iff, List.forall₂_map_left_iff, List.forall₂_same]
  · intro m hm
    exact commentMark_print (h m hm)
  · intro g hg
    obtain ⟨m, hm, rfl⟩ := List.mem_map.1 hg
    exact (h m hm).unbroken

/-- Literal marks are read back from their groups exactly if all of them have the brackets of their
elements apart. Otherwise there are more groups than marks. -/
theorem mapM_literalMark_print_iff {marks : List LiteralMark} (h : ∀ m ∈ marks, m.IsReadable) :
    ((marks.map fun m => Text.join ", ".toList m.elements).flatMap splitGroups).mapM literalMark =
        .ok marks ↔
      ∀ m ∈ marks, BracketsApart m.elements := by
  have happart : (∀ g ∈ marks.map fun m => Text.join ", ".toList m.elements, Unbroken g) ↔
      ∀ m ∈ marks, BracketsApart m.elements := by
    rw [List.forall_mem_map]
    refine forall₂_congr fun m hm => ?_
    exact unbroken_join_iff (h m hm).element
  rw [← happart]
  constructor
  · intro hread
    apply unbroken_of_length_eq
    rw [(mapM_eq_ok_iff.1 hread).length_eq, List.length_map]
  · intro hunbroken
    rw [flatMap_splitGroups hunbroken, mapM_eq_ok_iff, List.forall₂_map_left_iff,
      List.forall₂_same]
    intro m hm
    exact literalMark_print (h m hm)

end RuleFile

end SourceAtlas
