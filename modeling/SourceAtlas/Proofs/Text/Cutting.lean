import Mathlib.Data.List.Basic
import SourceAtlas.Proofs.Text.Trimming

/-!
# Cutting and joining texts

A text that is put together from pieces is cut back into them, provided that no piece holds what
separates them: lines from newlines, elements from commas, words from blanks. In the other
direction, what cutting yields never holds a separator and consists of characters of the text.
-/

namespace SourceAtlas.Text

/-! ## Lines -/

theorem lines_cons {c : Char} {t : Text} (hn : c ≠ '\n') (hr : c = '\r' → t.head? ≠ some '\n') :
    lines (c :: t) =
      match lines t with
      | [] => [[c]]
      | l :: ls => (c :: l) :: ls := by
  rw [lines.eq_def]
  split
  · rename_i h
    cases h
  · rename_i h
    exact absurd (List.cons.inj h).1 hn
  · rename_i h
    obtain ⟨rfl, rfl⟩ := List.cons.inj h
    exact absurd rfl (hr rfl)
  · rename_i h
    obtain ⟨rfl, rfl⟩ := List.cons.inj h
    rfl

/-- A line that is ended by a newline is read as it is. The carriage return is excluded because
the reader drops it together with the newline. -/
theorem lines_append_newline {l : Text} (hn : '\n' ∉ l) (hr : l.getLast? ≠ some '\r') (t : Text) :
    lines (l ++ '\n' :: t) = l :: lines t := by
  induction l with
  | nil => rfl
  | cons c l ih =>
    have hc : c ≠ '\n' := fun h => hn (h ▸ List.mem_cons_self)
    have hl : '\n' ∉ l := fun h => hn (List.mem_cons_of_mem c h)
    have hnext : c = '\r' → (l ++ '\n' :: t).head? ≠ some '\n' := by
      rintro rfl
      cases l with
      | nil => exact absurd rfl hr
      | cons d l =>
        intro h
        exact hl (Option.some.inj h ▸ List.mem_cons_self)
    have hlast : l.getLast? ≠ some '\r' := by
      cases l with
      | nil => simp
      | cons d l => simpa using hr
    rw [List.cons_append, lines_cons hc hnext, ih hl hlast]

theorem lines_flatMap_newline {ls : List Text}
    (h : ∀ l ∈ ls, '\n' ∉ l ∧ l.getLast? ≠ some '\r') :
    lines (ls.flatMap (· ++ ['\n'])) = ls := by
  induction ls with
  | nil => rfl
  | cons l ls ih =>
    obtain ⟨hn, hr⟩ := h l List.mem_cons_self
    rw [List.flatMap_cons, List.append_assoc, List.singleton_append, lines_append_newline hn hr,
      ih fun l hl => h l (List.mem_cons_of_mem _ hl)]

theorem newline_not_mem_lines {t l : Text} (h : l ∈ lines t) : '\n' ∉ l := by
  fun_induction lines t generalizing l with
  | case1 => cases h
  | case2 t ih =>
    rcases List.mem_cons.1 h with rfl | h
    · simp
    · exact ih h
  | case3 t ih =>
    rcases List.mem_cons.1 h with rfl | h
    · simp
    · exact ih h
  | case4 c t hn hr heq ih =>
    obtain rfl := List.mem_singleton.1 h
    simpa using Ne.symm hn
  | case5 c t hn hr first rest heq ih =>
    rw [heq] at ih
    rcases List.mem_cons.1 h with rfl | h
    · simpa [Ne.symm hn] using ih List.mem_cons_self
    · exact ih (List.mem_cons_of_mem _ h)

/-! ## Pieces between characters -/

section CutAt

variable {p : Char → Bool}

theorem cutAt_ne_nil (t : Text) : cutAt p t ≠ [] := by
  cases t with
  | nil => simp [cutAt]
  | cons c t =>
    rw [cutAt]
    split
    · simp
    · split <;> simp

theorem cutAt_of_forall_not {t : Text} (h : ∀ c ∈ t, ¬p c) : cutAt p t = [t] := by
  induction t with
  | nil => rfl
  | cons c t ih =>
    rw [cutAt, if_neg (h c List.mem_cons_self), ih fun d hd => h d (List.mem_cons_of_mem _ hd)]

theorem cutAt_append_cons {a : Text} (ha : ∀ c ∈ a, ¬p c) {s : Char} (hs : p s) (t : Text) :
    cutAt p (a ++ s :: t) = a :: cutAt p t := by
  induction a with
  | nil => rw [List.nil_append, cutAt, if_pos hs]
  | cons c a ih =>
    rw [List.cons_append, cutAt, if_neg (ha c List.mem_cons_self),
      ih fun d hd => ha d (List.mem_cons_of_mem _ hd)]

/-- The pieces hold the characters of the text that do not separate, in their order. -/
theorem cutAt_append (a : Text) {s : Char} (hs : p s) (t : Text) :
    cutAt p (a ++ s :: t) = cutAt p a ++ cutAt p t := by
  induction a with
  | nil =>
    rw [List.nil_append, cutAt.eq_2, if_pos hs]
    rfl
  | cons c a ih =>
    rw [List.cons_append, cutAt, cutAt, ih]
    split
    · rfl
    · obtain ⟨w, ws, hcut⟩ := List.exists_cons_of_ne_nil (cutAt_ne_nil a)
      rw [hcut]
      rfl

theorem flatten_cutAt (t : Text) : (cutAt p t).flatten = t.filter (!p ·) := by
  fun_induction cutAt p t with
  | case1 => rfl
  | case2 c t hp ih => simpa [hp] using ih
  | case3 c t hp hnil ih => exact absurd hnil (cutAt_ne_nil t)
  | case4 c t hp w ws heq ih =>
    rw [heq] at ih
    simpa [hp] using ih

theorem mem_of_mem_cutAt {t w : Text} (hw : w ∈ cutAt p t) {c : Char} (hc : c ∈ w) :
    c ∈ t ∧ ¬p c := by
  have h : c ∈ (cutAt p t).flatten := List.mem_flatten.2 ⟨w, hw, hc⟩
  rw [flatten_cutAt] at h
  simpa using List.mem_filter.1 h

/-- The pieces are parts of the text, and the first one starts it. -/
theorem isInfix_of_mem_cutAt {t w : Text} (hw : w ∈ cutAt p t) : w <:+: t := by
  suffices (∀ w ∈ (cutAt p t).head?, w <+: t) ∧ ∀ w ∈ cutAt p t, w <:+: t from this.2 w hw
  clear hw
  fun_induction cutAt p t with
  | case1 => simp
  | case2 c t hp ih =>
    refine ⟨by simp, ?_⟩
    intro w hw
    rcases List.mem_cons.1 hw with rfl | hw
    · exact List.nil_infix
    · exact (ih.2 w hw).trans (List.suffix_cons c t).isInfix
  | case3 c t hp hnil ih => exact absurd hnil (cutAt_ne_nil t)
  | case4 c t hp first rest heq ih =>
    rw [heq] at ih
    have hfirst : c :: first <+: c :: t := List.cons_prefix_cons.2 ⟨rfl, ih.1 first rfl⟩
    refine ⟨by simpa using hfirst, ?_⟩
    intro w hw
    rcases List.mem_cons.1 hw with rfl | hw
    · exact hfirst.isInfix
    · exact (ih.2 w (List.mem_cons_of_mem _ hw)).trans (List.suffix_cons c t).isInfix

end CutAt

/-! ## Elements between commas -/

theorem mem_of_mem_join {c : Char} {sep : Text} {ts : List Text} (h : c ∈ join sep ts) :
    c ∈ sep ∨ ∃ t ∈ ts, c ∈ t := by
  fun_induction join sep ts with
  | case1 => cases h
  | case2 t => exact .inr ⟨t, List.mem_singleton_self t, h⟩
  | case3 t u ts ih =>
    rcases List.mem_append.1 h with h | h
    · rcases List.mem_append.1 h with h | h
      · exact .inr ⟨t, List.mem_cons_self, h⟩
      · exact .inl h
    · rcases ih h with h | ⟨v, hv, h⟩
      · exact .inl h
      · exact .inr ⟨v, List.mem_cons_of_mem _ hv, h⟩

/-- Elements that are joined by a comma and a blank come back from the pieces between commas. The
blank text in front stands for the blank that follows each comma. -/
theorem map_trim_cutAt_join {xs : List Text} (hne : xs ≠ [])
    (h : ∀ x ∈ xs, IsTrimmed x ∧ ',' ∉ x) {a : Text} (ha : IsBlank a) (hc : ',' ∉ a) :
    (cutAt (· == ',') (a ++ join ", ".toList xs)).map trim = xs := by
  induction xs generalizing a with
  | nil => exact absurd rfl hne
  | cons x xs ih =>
    obtain ⟨hx, hxc⟩ := h x List.mem_cons_self
    have hclean : ∀ c ∈ a ++ x, ¬(c == ',') = true := by
      intro c hmem heq
      obtain rfl := beq_iff_eq.1 heq
      rcases List.mem_append.1 hmem with hmem | hmem
      · exact hc hmem
      · exact hxc hmem
    have htrim : trim (a ++ x) = x := by simpa using trim_pad ha hx isBlank_nil
    cases xs with
    | nil =>
      rw [join, cutAt_of_forall_not hclean]
      simp [htrim]
    | cons y ys =>
      have hsplit : a ++ join ", ".toList (x :: y :: ys) =
          (a ++ x) ++ ',' :: ([' '] ++ join ", ".toList (y :: ys)) := by
        simp [join]
      rw [hsplit, cutAt_append_cons hclean (by rfl), List.map_cons, htrim,
        ih (by simp) (fun z hz => h z (List.mem_cons_of_mem _ hz)) (by simp [IsBlank]; rfl)
          (by simp)]

/-! ## Words -/

theorem not_isSpace_of_all {t : Text} (h : t.all (!isSpace ·)) : ∀ c ∈ t, ¬isSpace c := by
  simpa using h

theorem flatten_words (t : Text) : (words t).flatten = t.filter (!isSpace ·) := by
  rw [words, List.flatten_filter_not_isEmpty, flatten_cutAt]

theorem mem_words {t w : Text} (h : w ∈ words t) : w ≠ [] ∧ ∀ c ∈ w, ¬isSpace c := by
  obtain ⟨hw, hne⟩ := List.mem_filter.1 h
  exact ⟨by simpa using hne, fun c hc => (mem_of_mem_cutAt hw hc).2⟩

theorem isInfix_of_mem_words {t w : Text} (h : w ∈ words t) : w <:+: t :=
  isInfix_of_mem_cutAt (List.mem_filter.1 h).1

theorem words_of_forall_not {t : Text} (hne : t ≠ []) (h : ∀ c ∈ t, ¬isSpace c) :
    words t = [t] := by
  rw [words, cutAt_of_forall_not h]
  simp [hne]

theorem words_append_space {a : Text} (hne : a ≠ []) (ha : ∀ c ∈ a, ¬isSpace c) {s : Char}
    (hs : isSpace s) (t : Text) : words (a ++ s :: t) = a :: words t := by
  rw [words, cutAt_append_cons ha hs]
  simp [hne, words]

/-- A trimmed text that is not empty starts with its first word: it is that word, or a blank
follows the word. -/
theorem IsTrimmed.exists_word {t : Text} (h : IsTrimmed t) (hne : t ≠ []) :
    ∃ w, w ≠ [] ∧ (∀ c ∈ w, ¬isSpace c) ∧
      (t = w ∨ ∃ s u, isSpace s ∧ t = w ++ s :: u) := by
  have hsplit := List.takeWhile_append_dropWhile (p := (!isSpace ·)) (l := t)
  have hclean : ∀ c ∈ t.takeWhile (!isSpace ·), ¬isSpace c := by
    intro c hc
    simpa using List.mem_takeWhile_imp hc
  refine ⟨t.takeWhile (!isSpace ·), ?_, hclean, ?_⟩
  · obtain ⟨c, t, rfl⟩ := List.exists_cons_of_ne_nil hne
    have hc : isSpace c = false := by simpa using h.head c rfl
    simp [hc]
  · cases hd : t.dropWhile (!isSpace ·) with
    | nil =>
      rw [hd, List.append_nil] at hsplit
      exact .inl hsplit.symm
    | cons s u =>
      refine .inr ⟨s, u, ?_, ?_⟩
      · have := List.head?_dropWhile_not (!isSpace ·) t
        rw [hd] at this
        simpa using this
      · rw [← hd]
        exact hsplit.symm

theorem words_eq_nil {t : Text} : words t = [] ↔ IsBlank t := by
  constructor
  · intro h c hc
    have hflat := flatten_words t
    rw [h, List.flatten_nil] at hflat
    by_contra hs
    have : c ∈ t.filter (!isSpace ·) := List.mem_filter.2 ⟨hc, by simpa using hs⟩
    rw [← hflat] at this
    cases this
  · intro h
    rw [List.eq_nil_iff_forall_not_mem]
    intro w hw
    obtain ⟨hne, hclean⟩ := mem_words hw
    obtain ⟨c, w, rfl⟩ := List.exists_cons_of_ne_nil hne
    have hmem := mem_of_mem_cutAt (List.mem_filter.1 hw).1 List.mem_cons_self
    exact hmem.2 (h c hmem.1)

/-- A trimmed text with a single word is that word. -/
theorem IsTrimmed.eq_of_words {t w : Text} (h : IsTrimmed t) (hw : words t = [w]) : t = w := by
  have hne : t ≠ [] := by
    rintro rfl
    cases hw
  obtain ⟨v, hv, hclean, rfl | ⟨s, u, hs, rfl⟩⟩ := h.exists_word hne
  · rw [words_of_forall_not hv hclean] at hw
    exact List.head_eq_of_cons_eq hw
  · rw [words_append_space hv hclean hs] at hw
    have hu : IsBlank u := words_eq_nil.1 (List.tail_eq_of_cons_eq hw)
    -- The rest of the text would be blank, so that the text ended in white space.
    have hblank : IsBlank (s :: u) := isBlank_cons.2 ⟨hs, hu⟩
    have hlast := h.last ((s :: u).getLast (by simp)) (by
      rw [List.getLast?_append_cons]
      exact List.getLast?_eq_some_getLast _)
    exact absurd (hblank _ (List.getLast_mem _)) hlast

end SourceAtlas.Text
