import Mathlib.Data.List.TakeWhile
import SourceAtlas.Text.Basic

/-!
# Trimmed texts

Trimming takes white space off both ends of a text and leaves everything else in place. A text is
`IsTrimmed` if there is none to take off. Blank texts around a trimmed one are exactly what
trimming removes, so a reader that trims gets back what a printer has padded.
-/

namespace SourceAtlas.Text

/-- The text holds nothing but white space. -/
def IsBlank (t : Text) : Prop := ∀ c ∈ t, isSpace c

/-- No white space stands at either end of the text. -/
structure IsTrimmed (t : Text) : Prop where
  head : ∀ c ∈ t.head?, ¬isSpace c
  last : ∀ c ∈ t.getLast?, ¬isSpace c

@[simp] theorem isBlank_nil : IsBlank [] := by
  intro c hc
  cases hc

theorem isBlank_cons {c : Char} {t : Text} : IsBlank (c :: t) ↔ isSpace c ∧ IsBlank t := by
  simp [IsBlank]

theorem isBlank_reverse {t : Text} : IsBlank t.reverse ↔ IsBlank t := by
  simp [IsBlank]

/-! ## One end -/

theorem trimStart_append {a t : Text} (ha : IsBlank a) : trimStart (a ++ t) = trimStart t :=
  List.dropWhile_append_of_pos ha

theorem trimStart_of_head {t : Text} (h : ∀ c ∈ t.head?, ¬isSpace c) : trimStart t = t := by
  cases t with
  | nil => rfl
  | cons c t => exact List.dropWhile_cons_of_neg (h c rfl)

theorem trimStart_cons {c : Char} {t : Text} (hc : ¬isSpace c) : trimStart (c :: t) = c :: t :=
  List.dropWhile_cons_of_neg hc

theorem head_trimStart {t : Text} : ∀ c ∈ (trimStart t).head?, ¬isSpace c := by
  intro c hc
  have h := List.head?_dropWhile_not isSpace t
  rw [trimStart] at hc
  rw [hc] at h
  simpa using h

/-- What trimming the front of a text takes off. -/
theorem exists_eq_append_trimStart (t : Text) : ∃ a, IsBlank a ∧ t = a ++ trimStart t := by
  refine ⟨t.takeWhile isSpace, ?_, List.takeWhile_append_dropWhile.symm⟩
  intro c hc
  exact List.mem_takeWhile_imp hc

theorem trimStart_append_cons {c : Char} (hc : ¬isSpace c) (t u : Text) :
    trimStart (t ++ c :: u) = trimStart t ++ c :: u := by
  obtain ⟨a, ha, ht⟩ := exists_eq_append_trimStart t
  have hhead : ∀ d ∈ (trimStart t ++ c :: u).head?, ¬isSpace d := by
    intro d hd
    have hstart := head_trimStart (t := t)
    cases h : trimStart t with
    | nil =>
      rw [h] at hd
      cases hd
      exact hc
    | cons e v =>
      rw [h] at hd hstart
      exact hstart d hd
  calc
    trimStart (t ++ c :: u) = trimStart (a ++ (trimStart t ++ c :: u)) := by
      rw [← List.append_assoc, ← ht]
    _ = trimStart t ++ c :: u := by rw [trimStart_append ha, trimStart_of_head hhead]

theorem trimStart_eq_nil {t : Text} : trimStart t = [] ↔ IsBlank t :=
  List.dropWhile_eq_nil_iff

theorem trimEnd_eq_reverse (t : Text) : trimEnd t = (trimStart t.reverse).reverse := rfl

theorem trimEnd_append {t b : Text} (hb : IsBlank b) : trimEnd (t ++ b) = trimEnd t := by
  rw [trimEnd_eq_reverse, List.reverse_append, trimStart_append (isBlank_reverse.2 hb)]
  rfl

theorem trimEnd_of_last {t : Text} (h : ∀ c ∈ t.getLast?, ¬isSpace c) : trimEnd t = t := by
  rw [trimEnd_eq_reverse, trimStart_of_head (by simpa using h), List.reverse_reverse]

theorem exists_eq_trimEnd_append (t : Text) : ∃ b, IsBlank b ∧ t = trimEnd t ++ b := by
  obtain ⟨a, ha, h⟩ := exists_eq_append_trimStart t.reverse
  refine ⟨a.reverse, isBlank_reverse.2 ha, ?_⟩
  have := congrArg List.reverse h
  simpa [trimEnd_eq_reverse] using this

/-! ## Both ends -/

theorem trim_of_isTrimmed {t : Text} (h : IsTrimmed t) : trim t = t := by
  rw [trim, trimStart_of_head h.head, trimEnd_of_last h.last]

/-- Trimming takes a blank text off each end. -/
theorem exists_eq_trim (t : Text) :
    ∃ a b, IsBlank a ∧ IsBlank b ∧ t = a ++ trim t ++ b := by
  obtain ⟨a, ha, hs⟩ := exists_eq_append_trimStart t
  obtain ⟨b, hb, he⟩ := exists_eq_trimEnd_append (trimStart t)
  refine ⟨a, b, ha, hb, ?_⟩
  rw [trim, List.append_assoc, ← he, ← hs]

theorem isTrimmed_trim (t : Text) : IsTrimmed (trim t) := by
  obtain ⟨b, hb, he⟩ := exists_eq_trimEnd_append (trimStart t)
  refine ⟨?_, ?_⟩
  · intro c hc
    have hmem : c ∈ (trimStart t).head? := by
      rw [he, List.head?_append, ← trim, Option.mem_def.1 hc]
      rfl
    exact head_trimStart c hmem
  · intro c hc
    rw [trim, trimEnd_eq_reverse, List.getLast?_reverse] at hc
    exact head_trimStart c hc

theorem trim_append_of_isBlank {a t b : Text} (ha : IsBlank a) (hb : IsBlank b) :
    trim (a ++ t ++ b) = trim t := by
  rw [trim, List.append_assoc, trimStart_append ha]
  by_cases hnil : trimStart t = []
  · have hblank : IsBlank (t ++ b) := by
      intro c hc
      rcases List.mem_append.1 hc with hc | hc
      · exact trimStart_eq_nil.1 hnil c hc
      · exact hb c hc
    rw [trimStart_eq_nil.2 hblank, trim, hnil]
  · have hne : ¬(t.dropWhile isSpace).isEmpty = true := fun h => hnil (List.isEmpty_iff.1 h)
    have hstart : trimStart (t ++ b) = trimStart t ++ b :=
      List.dropWhile_append.trans (if_neg hne)
    rw [hstart, trimEnd_append hb, trim]

/-- A trimmed text between blank ones is what trimming them together gives. -/
theorem trim_pad {a t b : Text} (ha : IsBlank a) (h : IsTrimmed t) (hb : IsBlank b) :
    trim (a ++ t ++ b) = t := by
  rw [trim_append_of_isBlank ha hb, trim_of_isTrimmed h]

theorem trim_eq_nil {t : Text} : trim t = [] ↔ IsBlank t := by
  constructor
  · intro h
    obtain ⟨a, b, ha, hb, ht⟩ := exists_eq_trim t
    rw [h, List.append_nil] at ht
    intro c hc
    rw [ht] at hc
    rcases List.mem_append.1 hc with hc | hc
    · exact ha c hc
    · exact hb c hc
  · intro h
    rw [trim, trimStart_eq_nil.2 h]
    rfl

theorem trim_isInfix (t : Text) : trim t <:+: t := by
  obtain ⟨a, b, -, -, ht⟩ := exists_eq_trim t
  exact ⟨a, b, ht.symm⟩

theorem mem_of_mem_trim {c : Char} {t : Text} (h : c ∈ trim t) : c ∈ t :=
  (trim_isInfix t).subset h

theorem trimStart_suffix (t : Text) : trimStart t <:+ t := List.dropWhile_suffix _

/-- Trimming a text without white space in front only shortens it. -/
theorem trim_isPrefix {t : Text} (h : ∀ c ∈ t.head?, ¬isSpace c) : trim t <+: t := by
  obtain ⟨b, -, ht⟩ := exists_eq_trimEnd_append t
  rw [trim, trimStart_of_head h]
  exact ⟨b, ht.symm⟩

/-! ## What is not white space -/

theorem filter_trim (t : Text) :
    (trim t).filter (!isSpace ·) = t.filter (!isSpace ·) := by
  obtain ⟨a, b, ha, hb, ht⟩ := exists_eq_trim t
  have blank {u : Text} (hu : IsBlank u) : u.filter (!isSpace ·) = [] := by
    rw [List.filter_eq_nil_iff]
    intro c hc
    simpa using hu c hc
  calc
    (trim t).filter (!isSpace ·) = (a ++ trim t ++ b).filter (!isSpace ·) := by
      rw [List.filter_append, List.filter_append, blank ha, blank hb, List.nil_append,
        List.append_nil]
    _ = t.filter (!isSpace ·) := by rw [← ht]

theorem head?_filter {t : Text} (h : ∀ c ∈ t.head?, ¬isSpace c) :
    (t.filter (!isSpace ·)).head? = t.head? := by
  cases t with
  | nil => rfl
  | cons c t => simp [h c rfl]

theorem getLast?_filter {t : Text} (h : ∀ c ∈ t.getLast?, ¬isSpace c) :
    (t.filter (!isSpace ·)).getLast? = t.getLast? := by
  have hfilter : (t.reverse.filter (!isSpace ·)).head? = t.reverse.head? :=
    head?_filter (by simpa using h)
  rwa [List.filter_reverse, List.head?_reverse, List.head?_reverse] at hfilter

theorem head?_trim {t : Text} (h : ∀ c ∈ t.head?, ¬isSpace c) : (trim t).head? = t.head? := by
  rw [← head?_filter (isTrimmed_trim t).head, filter_trim, head?_filter h]

end SourceAtlas.Text
