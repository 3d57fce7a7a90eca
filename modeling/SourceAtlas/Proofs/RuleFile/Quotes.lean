import Mathlib.Algebra.Group.Nat.Even
import SourceAtlas.Proofs.Text.Cutting
import SourceAtlas.Rule.Parser

/-!
# Quotes and the ends of statements

A statement of a rule ends at a semicolon or a closing brace. Texts that are read up to such a
terminator are `Contained`: none stands outside double quotes. Texts that are read between double
quotes are `Quotable`: no quote inside is followed by the end of the statement.

Both kinds of texts are read back when a semicolon follows them, with one exception. A contained
text with an odd number of quotes leaves a quote open, and the semicolon becomes part of it.
-/

namespace SourceAtlas.RuleFile

open Text (IsBlank IsTrimmed)

/-! ## Texts up to a terminator -/

/-- Whether a double quote is open behind a text, if `quoted` says so before it. -/
def quotedAfter (quoted : Bool) (t : Text) : Bool :=
  t.foldl (fun q c => if c = '"' then !q else q) quoted

/-- No semicolon and no closing brace stands outside double quotes. -/
def Contained (quoted : Bool) (t : Text) : Prop := untilTerminator quoted t = (t, [])

theorem contained_nil (quoted : Bool) : Contained quoted [] := rfl

theorem contained_cons {quoted : Bool} {c : Char} {t : Text} :
    Contained quoted (c :: t) ↔
      ((c = ';' ∨ c = '}') → quoted = true) ∧
        Contained (if c = '"' then !quoted else quoted) t := by
  unfold Contained
  rw [untilTerminator]
  by_cases hend : (c = ';' ∨ c = '}') ∧ quoted = false
  · simp [hend.1, hend.2]
  · have hq : (c = ';' ∨ c = '}') → quoted = true := by
      intro hc
      simpa [hc] using hend
    rw [if_neg (by simpa using hq)]
    simp only [List.cons.injEq, true_and, Prod.ext_iff]
    exact (and_iff_right hq).symm

theorem quotedAfter_cons (quoted : Bool) (c : Char) (t : Text) :
    quotedAfter quoted (c :: t) = quotedAfter (if c = '"' then !quoted else quoted) t := rfl

/-- A text leaves a quote open exactly if it holds an odd number of quotes. -/
theorem quotedAfter_eq (quoted : Bool) (t : Text) :
    quotedAfter quoted t = (quoted != decide (¬Even (t.count '"'))) := by
  induction t generalizing quoted with
  | nil => simp [quotedAfter]
  | cons c t ih =>
    rw [quotedAfter_cons, ih]
    by_cases hc : c = '"'
    · subst hc
      by_cases he : Even (t.count '"') <;> simp [Nat.even_add_one, he]
    · simp [hc]

theorem untilTerminator_append {quoted : Bool} {t : Text} (h : Contained quoted t) (u : Text) :
    untilTerminator quoted (t ++ u) =
      (t ++ (untilTerminator (quotedAfter quoted t) u).1,
        (untilTerminator (quotedAfter quoted t) u).2) := by
  induction t generalizing quoted with
  | nil => rfl
  | cons c t ih =>
    obtain ⟨hc, ht⟩ := contained_cons.1 h
    rw [List.cons_append, untilTerminator, if_neg (by simpa using hc), ih ht, quotedAfter_cons]
    rfl

/-- What is read up to a terminator is contained, and nothing is lost. -/
theorem contained_untilTerminator (quoted : Bool) (t : Text) :
    Contained quoted (untilTerminator quoted t).1 ∧
      (untilTerminator quoted t).1 ++ (untilTerminator quoted t).2 = t := by
  induction t generalizing quoted with
  | nil => exact ⟨rfl, rfl⟩
  | cons c t ih =>
    rw [untilTerminator]
    split
    · exact ⟨rfl, rfl⟩
    · rename_i hend
      obtain ⟨hc, ht⟩ := ih (if c = '"' then !quoted else quoted)
      refine ⟨contained_cons.2 ⟨by simpa using hend, hc⟩, ?_⟩
      rw [List.cons_append, ht]

/-- White space has no part in where a text ends. -/
theorem contained_filter {quoted : Bool} {t : Text} :
    Contained quoted (t.filter (!Text.isSpace ·)) ↔ Contained quoted t := by
  induction t generalizing quoted with
  | nil => exact Iff.rfl
  | cons c t ih =>
    by_cases hc : Text.isSpace c
    · have hne : c ≠ ';' ∧ c ≠ '}' ∧ c ≠ '"' := by
        refine ⟨?_, ?_, ?_⟩ <;> rintro rfl <;> exact absurd hc (by decide)
      rw [List.filter_cons_of_neg (by simpa using hc), ih, contained_cons]
      simp [hne]
    · rw [List.filter_cons_of_pos (by simpa using hc), contained_cons, contained_cons, ih]

/-- A text that may stand behind the name of a statement, up to a terminator. -/
structure IsPhrase (t : Text) : Prop where
  ne_nil : t ≠ []
  trimmed : IsTrimmed t
  contained : Contained false t
  newline : '\n' ∉ t

/-- A phrase as it is read back: if it leaves a quote open, the semicolon behind it belongs to
it. -/
def reread (t : Text) : Text := if Even (t.count '"') then t else t ++ [';']

theorem reread_eq_self_iff {t : Text} : reread t = t ↔ Even (t.count '"') := by
  unfold reread
  split
  · rename_i he
    exact iff_of_true rfl he
  · rename_i he
    refine iff_of_false ?_ he
    simp

theorem reread_ne_nil {t : Text} (h : t ≠ []) : reread t ≠ [] := by
  unfold reread
  split
  · exact h
  · simp

/-- A text without white space and without the marks that the reader looks for is a phrase. -/
theorem isPhrase_of_forall {t : Text} (hne : t ≠ [])
    (h : ∀ c ∈ t, ¬Text.isSpace c ∧ c ≠ ';' ∧ c ≠ '}' ∧ c ≠ '"') : IsPhrase t := by
  refine ⟨hne, ⟨?_, ?_⟩, ?_, ?_⟩
  · intro c hc
    exact (h c (List.mem_of_head? hc)).1
  · intro c hc
    exact (h c (List.mem_of_getLast? hc)).1
  · clear hne
    induction t with
    | nil => exact contained_nil false
    | cons c t ih =>
      obtain ⟨-, hsemi, hbrace, hquote⟩ := h c List.mem_cons_self
      rw [contained_cons, if_neg hquote]
      exact ⟨fun hc => by simp [hsemi, hbrace] at hc,
        ih fun d hd => h d (List.mem_cons_of_mem _ hd)⟩
  · intro hmem
    exact (h _ hmem).1 (by decide)

theorem isPhrase_trim {t : Text} (h : Contained false t) (hne : Text.trim t ≠ [])
    (hn : '\n' ∉ t) : IsPhrase (Text.trim t) := by
  refine ⟨hne, Text.isTrimmed_trim t, ?_, fun hc => hn (Text.mem_of_mem_trim hc)⟩
  rw [← contained_filter, Text.filter_trim, contained_filter]
  exact h

/-- Reading a printed phrase: what stands before the terminator, and what is left. -/
theorem IsPhrase.untilTerminator {t : Text} (h : IsPhrase t) {a : Text} (ha : IsBlank a) :
    Text.trim (untilTerminator false (a ++ t ++ [';'])).1 = reread t ∧
      skipTerminator (untilTerminator false (a ++ t ++ [';'])).2 = [] := by
  have hcontained : Contained false (a ++ t) := by
    have hfilter : (a ++ t).filter (!Text.isSpace ·) = t.filter (!Text.isSpace ·) := by
      rw [List.filter_append, List.filter_eq_nil_iff.2, List.nil_append]
      intro c hc
      simpa using ha c hc
    rw [← contained_filter, hfilter, contained_filter]
    exact h.contained
  have hcount : (a ++ t).count '"' = t.count '"' := by
    rw [List.count_append, List.count_eq_zero.2, Nat.zero_add]
    intro hq
    exact absurd (ha _ hq) (by decide)
  rw [untilTerminator_append hcontained, quotedAfter_eq, hcount]
  by_cases he : Even (t.count '"')
  · have htrim : Text.trim (a ++ t) = t := by
      simpa using Text.trim_pad ha h.trimmed Text.isBlank_nil
    simp [he, RuleFile.untilTerminator, reread, htrim, skipTerminator, Text.trimStart, Text.isSpace]
  · have htrimmed : IsTrimmed (t ++ [';']) := by
      refine ⟨?_, ?_⟩
      · intro c hc
        obtain ⟨d, u, rfl⟩ := List.exists_cons_of_ne_nil h.ne_nil
        exact h.trimmed.head c hc
      · intro c hc
        rw [List.getLast?_concat] at hc
        cases hc
        decide
    have htrim : Text.trim (a ++ t ++ [';']) = t ++ [';'] := by
      simpa using Text.trim_pad ha htrimmed Text.isBlank_nil
    simp [he, RuleFile.untilTerminator, reread, skipTerminator, Text.trimStart]
    simpa using htrim

/-! ## Texts between double quotes -/

/-- No quote inside the text is taken for the closing one. -/
def Quotable (t : Text) : Prop := closeQuote? (t ++ ['"']) = some (t, [])

theorem atTerminator_append_quote (t u : Text) :
    atTerminator (t ++ '"' :: u) = atTerminator (t ++ ['"']) := by
  unfold atTerminator
  rw [Text.trimStart_append_cons (by decide), Text.trimStart_append_cons (by decide)]
  cases Text.trimStart t <;> rfl

theorem quotable_cons {c : Char} {t : Text} :
    Quotable (c :: t) ↔ (c = '"' → atTerminator (t ++ ['"']) = false) ∧ Quotable t := by
  unfold Quotable
  rw [List.cons_append, closeQuote?]
  by_cases hc : c = '"' ∧ atTerminator (t ++ ['"']) = true
  · simp [hc.1, hc.2]
  · rw [if_neg (by simpa using hc), Option.map_eq_some_iff]
    have hq : c = '"' → atTerminator (t ++ ['"']) = false := by
      intro h
      simpa [h] using hc
    constructor
    · rintro ⟨⟨quoted, rest⟩, hfound, heq⟩
      obtain ⟨hquoted, rfl⟩ := Prod.mk.inj heq
      obtain rfl := List.tail_eq_of_cons_eq hquoted
      exact ⟨hq, hfound⟩
    · rintro ⟨-, hfound⟩
      exact ⟨_, hfound, rfl⟩

theorem closeQuote?_append {t : Text} (h : Quotable t) {u : Text} (hu : atTerminator u) :
    closeQuote? (t ++ '"' :: u) = some (t, u) := by
  induction t with
  | nil => simp [closeQuote?, hu]
  | cons c t ih =>
    obtain ⟨hc, ht⟩ := quotable_cons.1 h
    rw [← atTerminator_append_quote t u] at hc
    rw [List.cons_append, closeQuote?, if_neg (by simpa using hc), ih ht]
    rfl

theorem closeQuote?_eq_some {t quoted rest : Text} (h : closeQuote? t = some (quoted, rest)) :
    t = quoted ++ '"' :: rest ∧ Quotable quoted := by
  induction t generalizing quoted with
  | nil => cases h
  | cons c t ih =>
    rw [closeQuote?] at h
    split at h
    · rename_i hc
      cases h
      simp only [Bool.and_eq_true, decide_eq_true_eq] at hc
      exact ⟨by rw [hc.1]; rfl, by simp [Quotable, closeQuote?, atTerminator, Text.trimStart]⟩
    · rename_i hc
      obtain ⟨⟨q, r⟩, hfound, heq⟩ := Option.map_eq_some_iff.1 h
      cases heq
      obtain ⟨rfl, hq⟩ := ih hfound
      refine ⟨rfl, quotable_cons.2 ⟨?_, hq⟩⟩
      rw [← atTerminator_append_quote q rest]
      simpa using hc

theorem takeQuoted_eq_ok {t quoted rest : Text} (h : takeQuoted t = .ok (quoted, rest)) :
    t = '"' :: (quoted ++ '"' :: rest) ∧ Quotable quoted := by
  unfold takeQuoted at h
  split at h
  · split at h
    · rename_i hfound
      cases h
      obtain ⟨rfl, hq⟩ := closeQuote?_eq_some hfound
      exact ⟨rfl, hq⟩
    · cases h
  · cases h

theorem takeQuoted_append {t : Text} (h : Quotable t) {u : Text} (hu : atTerminator u) :
    takeQuoted ('"' :: (t ++ '"' :: u)) = .ok (t, u) := by
  simp only [takeQuoted, closeQuote?_append h hu]

end SourceAtlas.RuleFile
