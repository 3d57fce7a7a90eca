import SourceAtlas.Proofs.RuleFile.Quotes
import SourceAtlas.Rule.Printer

/-!
# Values of constant rules

The value of a constant rule is kept as an expression, and not as the text it was read from.
Printing an expression gives that text back up to white space, which is enough for parsing to give
the expression back.

A value that is no quoted text is written as a phrase. It suffers the same as other phrases from a
quote that is left open: reading takes the semicolon behind it for a part of it.
-/

namespace SourceAtlas.ValueExpr

open Text (IsTrimmed)
open RuleFile (IsPhrase Quotable Contained)

/-! ## Parsing what was printed -/

theorem unquote?_eq_some {t inner : Text} :
    unquote? t = some inner ↔ t = '"' :: inner ++ ['"'] := by
  constructor
  · intro h
    unfold unquote? at h
    split at h
    · rename_i rest
      split at h
      · rename_i hlast
        cases h
        obtain ⟨init, rfl⟩ := List.getLast?_eq_some_iff.1 hlast
        rw [List.dropLast_concat]
        rfl
      · cases h
    · cases h
  · rintro rfl
    simp [unquote?]

/-- White space inside a trimmed text has no part in whether it is quoted. -/
theorem unquote?_filter_eq_none {t : Text} (h : IsTrimmed t) :
    unquote? (t.filter (!Text.isSpace ·)) = none ↔ unquote? t = none := by
  rw [← not_iff_not, ← Ne.eq_1, ← Ne.eq_1, Option.ne_none_iff_exists', Option.ne_none_iff_exists']
  simp only [unquote?_eq_some]
  constructor
  · rintro ⟨inner, hinner⟩
    have hhead := Text.head?_filter h.head
    have hlast := Text.getLast?_filter h.last
    rw [hinner] at hhead hlast
    cases t with
    | nil => cases hhead
    | cons c t =>
      obtain rfl : '"' = c := Option.some.inj hhead
      have hne : t ≠ [] := by
        rintro rfl
        simp [Text.isSpace] at hinner
      rw [List.getLast?_concat, List.getLast?_cons_of_ne_nil hne, eq_comm] at hlast
      obtain ⟨init, rfl⟩ := List.getLast?_eq_some_iff.1 hlast
      exact ⟨init, rfl⟩
  · rintro ⟨inner, rfl⟩
    refine ⟨inner.filter (!Text.isSpace ·), ?_⟩
    have hquote : (!Text.isSpace '"') = true := by decide
    simp [hquote]

theorem ofToken?_eq_some {t : Text} {op : ValueOp} :
    ValueOp.ofToken? t = some op ↔ t = op.token := by
  unfold ValueOp.ofToken?
  cases op <;> grind [ValueOp.token]

theorem parse_quoted (inner : Text) : parse ('"' :: inner ++ ['"']) = .literal inner := by
  have htrimmed : IsTrimmed ('"' :: inner ++ ['"']) := by
    refine ⟨fun c hc => ?_, fun c hc => ?_⟩
    · cases hc
      decide
    · rw [List.getLast?_concat] at hc
      cases hc
      decide
  rw [parse, Text.trim_of_isTrimmed htrimmed, unquote?_eq_some.2 rfl]

/-- The forms of a parsed text. -/
theorem parse_cases (t : Text) :
    (∃ inner, Text.trim t = '"' :: inner ++ ['"'] ∧ parse t = .literal inner) ∨
      unquote? (Text.trim t) = none ∧
        (parse t = .token (Text.trim t) ∨ parse t = .other (Text.trim t) ∨
          ∃ lhs op rhs, Text.words (Text.trim t) = [lhs, ValueOp.token op, rhs] ∧
            parse t = .binary lhs op rhs) := by
  cases hquote : unquote? (Text.trim t) with
  | some inner =>
    refine .inl ⟨inner, unquote?_eq_some.1 hquote, ?_⟩
    simp only [parse, hquote]
  | none =>
    refine .inr ⟨rfl, ?_⟩
    unfold parse
    simp only [hquote]
    split
    · rename_i single hwords
      left
      rw [(Text.isTrimmed_trim t).eq_of_words hwords]
    · rename_i lhs op rhs hwords
      split
      · rename_i op hop
        rw [ofToken?_eq_some.1 hop] at hwords
        exact .inr (.inr ⟨lhs, op, rhs, hwords, rfl⟩)
      · exact .inr (.inl rfl)
    · exact .inr (.inl rfl)

/-- Printing an expression gives back the text it was parsed from, up to white space. -/
theorem filter_print_parse (t : Text) :
    (parse t).print.filter (!Text.isSpace ·) = t.filter (!Text.isSpace ·) := by
  rw [← Text.filter_trim t]
  rcases parse_cases t with ⟨inner, ht, hp⟩ | ⟨-, hp | hp | ⟨lhs, op, rhs, hwords, hp⟩⟩
  · rw [hp, ht, print]
  · rw [hp, print]
  · rw [hp, print]
  · have hclean {w : Text} (hw : w ∈ Text.words (Text.trim t)) :
        w.filter (!Text.isSpace ·) = w := by
      rw [List.filter_eq_self]
      intro c hc
      simpa using (Text.mem_words hw).2 c hc
    have hspace : (!Text.isSpace ' ') = false := by decide
    rw [← Text.flatten_words (Text.trim t), hp, print, List.filter_append, List.filter_append,
      List.filter_cons_of_neg (by simp [hspace]), List.filter_cons_of_neg (by simp [hspace]),
      hclean (by simp [hwords]), hclean (by simp [hwords]), hclean (by simp [hwords]), hwords]
    simp

theorem isTrimmed_print_parse (t : Text) : IsTrimmed (parse t).print := by
  rcases parse_cases t with ⟨inner, ht, hp⟩ | ⟨-, hp | hp | ⟨lhs, op, rhs, hwords, hp⟩⟩
  · rw [hp, print, ← ht]
    exact Text.isTrimmed_trim t
  · rw [hp, print]
    exact Text.isTrimmed_trim t
  · rw [hp, print]
    exact Text.isTrimmed_trim t
  · obtain ⟨hlne, hlclean⟩ := Text.mem_words (t := Text.trim t) (w := lhs) (by simp [hwords])
    obtain ⟨hrne, hrclean⟩ := Text.mem_words (t := Text.trim t) (w := rhs) (by simp [hwords])
    rw [hp, print]
    refine ⟨fun c hc => hlclean c ?_, fun c hc => hrclean c ?_⟩
    · obtain ⟨d, u, rfl⟩ := List.exists_cons_of_ne_nil hlne
      cases hc
      exact List.mem_cons_self
    · rw [List.getLast?_append_of_ne_nil _ (by simp), List.getLast?_cons_of_ne_nil hrne] at hc
      exact List.mem_of_getLast? hc

/-- Parsing what was printed of a parsed text gives the same expression. -/
theorem parse_print_parse (t : Text) : parse (parse t).print = parse t := by
  have htrim : Text.trim (parse t).print = (parse t).print :=
    Text.trim_of_isTrimmed (isTrimmed_print_parse t)
  rcases parse_cases t with ⟨inner, ht, hp⟩ | ⟨hquote, hp | hp | ⟨lhs, op, rhs, hwords, hp⟩⟩
  · rw [hp, print, parse_quoted]
  · rw [hp, print, ← hp, parse.eq_1, parse.eq_1, Text.trim_of_isTrimmed (Text.isTrimmed_trim t)]
  · rw [hp, print, ← hp, parse.eq_1, parse.eq_1, Text.trim_of_isTrimmed (Text.isTrimmed_trim t)]
  · have hnone : unquote? (parse t).print = none := by
      rw [← unquote?_filter_eq_none (isTrimmed_print_parse t), filter_print_parse,
        ← Text.filter_trim, unquote?_filter_eq_none (Text.isTrimmed_trim t)]
      exact hquote
    have hword {w : Text} (hw : w ∈ Text.words (Text.trim t)) := Text.mem_words hw
    obtain ⟨hlne, hlclean⟩ := hword (w := lhs) (by simp [hwords])
    obtain ⟨hone, hoclean⟩ := hword (w := op.token) (by simp [hwords])
    obtain ⟨hrne, hrclean⟩ := hword (w := rhs) (by simp [hwords])
    have hprinted : Text.words (parse t).print = [lhs, op.token, rhs] := by
      rw [hp, print, List.append_assoc, List.cons_append,
        Text.words_append_space hlne hlclean (by decide),
        Text.words_append_space hone hoclean (by decide), Text.words_of_forall_not hrne hrclean]
    rw [parse.eq_1 (parse t).print, htrim, hnone, hprinted]
    simp only [ofToken?_eq_some.2 rfl, hp]

/-! ## Values of a rule file -/

/-- A value that a statement holds: a text between quotes, or a phrase that starts without one. -/
inductive IsReadable : ValueExpr → Prop where
  | quoted {t : Text} (quotable : Quotable t) (newline : '\n' ∉ t) : IsReadable (.literal t)
  | phrase {t : Text} (phrase : IsPhrase t) (head : t.head? ≠ some '"') : IsReadable (parse t)

/-- What reading takes for the value, if it is printed and a semicolon follows. -/
def taken : ValueExpr → Text
  | literal t => '"' :: t ++ ['"']
  | v => RuleFile.reread v.print

/-- A value as it is read back from its printed form. -/
def reread (v : ValueExpr) : ValueExpr := parse v.taken

theorem head?_print_parse (t : Text) : (parse t).print.head? = (Text.trim t).head? := by
  rw [← Text.head?_filter (isTrimmed_print_parse t).head, filter_print_parse, ← Text.filter_trim,
    Text.head?_filter (Text.isTrimmed_trim t).head]

theorem parse_ne_literal {t : Text} (ht : IsTrimmed t) (hq : t.head? ≠ some '"') (u : Text) :
    parse t ≠ .literal u := by
  intro h
  have hhead := head?_print_parse t
  rw [h, Text.trim_of_isTrimmed ht] at hhead
  exact hq hhead.symm

theorem newline_not_mem_print_parse {t : Text} (hn : '\n' ∉ t) : '\n' ∉ (parse t).print := by
  have htrim : '\n' ∉ Text.trim t := fun h => hn (Text.mem_of_mem_trim h)
  rcases parse_cases t with ⟨inner, ht, hp⟩ | ⟨-, hp | hp | ⟨lhs, op, rhs, hwords, hp⟩⟩
  · rwa [hp, print, ← ht]
  · rwa [hp, print]
  · rwa [hp, print]
  · have hclean {w : Text} (hw : w ∈ Text.words (Text.trim t)) : '\n' ∉ w :=
      fun hmem => (Text.mem_words hw).2 _ hmem (by decide)
    rw [hp, print]
    simp [hclean (w := lhs) (by simp [hwords]), hclean (w := op.token) (by simp [hwords]),
      hclean (w := rhs) (by simp [hwords])]

/-- What is printed of a phrase is a phrase. -/
theorem isPhrase_print_parse {t : Text} (h : IsPhrase t) : IsPhrase (parse t).print := by
  refine ⟨?_, isTrimmed_print_parse t, ?_, newline_not_mem_print_parse h.newline⟩
  · intro hnil
    have hhead := head?_print_parse t
    rw [hnil, Text.trim_of_isTrimmed h.trimmed, List.head?_nil, eq_comm,
      List.head?_eq_none_iff] at hhead
    exact h.ne_nil hhead
  · rw [← RuleFile.contained_filter, filter_print_parse, RuleFile.contained_filter]
    exact h.contained

theorem IsReadable.newline_not_mem_print {v : ValueExpr} (h : v.IsReadable) : '\n' ∉ v.print := by
  cases h with
  | quoted _ hn => simp [print, hn]
  | phrase hphrase _ => exact newline_not_mem_print_parse hphrase.newline

theorem taken_of_ne_literal {v : ValueExpr} (h : ∀ t, v ≠ .literal t) :
    v.taken = RuleFile.reread v.print := by
  cases v with
  | literal t => exact absurd rfl (h t)
  | token t => rfl
  | binary lhs op rhs => rfl
  | other t => rfl

/-- A quoted text is always read back. Any other value is read back exactly if it leaves no quote
open. -/
theorem IsReadable.reread_eq_self_iff {v : ValueExpr} (h : v.IsReadable) :
    v.reread = v ↔ (∀ t, v ≠ .literal t) → Even (v.print.count '"') := by
  cases h with
  | @quoted t hquotable hn =>
    exact iff_of_true (parse_quoted t) fun hv => absurd rfl (hv t)
  | @phrase t hphrase hhead =>
    have hne := parse_ne_literal hphrase.trimmed hhead
    rw [reread, taken_of_ne_literal hne, forall_prop_of_true hne]
    by_cases he : Even ((parse t).print.count '"')
    · refine iff_of_true ?_ he
      rw [RuleFile.reread_eq_self_iff.2 he, parse_print_parse]
    · refine iff_of_false ?_ he
      -- The semicolon is not white space, so printing shows it.
      intro heq
      have hprint := congrArg (fun v => v.print.filter (!Text.isSpace ·)) heq
      have hsemi : (!Text.isSpace ';') = true := by decide
      simp only [filter_print_parse, RuleFile.reread, if_neg he, List.filter_append] at hprint
      simp [hsemi] at hprint

end SourceAtlas.ValueExpr
