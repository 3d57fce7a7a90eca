import SourceAtlas.Proofs.Extraction.Decisions
import SourceAtlas.Proofs.Extraction.Templates

/-!
# Quotes in conditions

Quotes mean two things in a condition. An operand in quotes stands for what it finds in the line,
and a condition in quotes asks whether it matches the line.

Operands are looked at after their names were replaced. So a variable stands for its value only if
the value has no quotes around it and marks no names of its own. A condition is looked at word by
word before it is looked at as a whole, so three words with a comparison between them are compared,
even if quotes enclose them all.
-/

namespace SourceAtlas.Condition

variable {language : Pattern.Language} {ctx : Context} {t name value lhs rhs r : Text}

theorem expand_of_unmarked (h : ∀ (m : Marker) name, ¬ m.wrap name <:+: t) : expand ctx t = t := by
  have hsource : Template.substitute .source ctx.source t = t :=
    Template.expand_of_unmarked (h .source)
  rw [expand, hsource]
  exact Template.expand_of_unmarked (h .target)

/-! ## Comparisons of operands -/

/-- A comparison as it is written. -/
def comparison (lhs : Text) (c : Comparison) (rhs : Text) : Text :=
  lhs ++ ' ' :: (c.token ++ ' ' :: rhs)

theorem Comparison.token_isWord (c : Comparison) :
    c.token ≠ [] ∧ ∀ d ∈ c.token, ¬ Text.isSpace d := by
  refine ⟨?_, Text.not_isSpace_of_all ?_⟩
  · cases c <;> decide
  · cases c <;> decide

theorem evaluate_comparison {c : Comparison} (hlhs : lhs ≠ [] ∧ ∀ d ∈ lhs, ¬ Text.isSpace d)
    (hrhs : rhs ≠ [] ∧ ∀ d ∈ rhs, ¬ Text.isSpace d) (hnot : lhs ≠ "not".toList) :
    evaluate language ctx (comparison lhs c rhs) =
      c.holds (operand language ctx lhs) (operand language ctx rhs) := by
  have hwords : Text.words (comparison lhs c rhs) = [lhs, c.token, rhs] := by
    rw [comparison, Text.words_append_space hlhs.1 hlhs.2 rfl,
      Text.words_append_space c.token_isWord.1 c.token_isWord.2 rfl,
      Text.words_of_forall_not hrhs.1 hrhs.2]
  have htrimmed : Text.trim (comparison lhs c rhs) = comparison lhs c rhs := by
    refine Text.trim_of_isTrimmed ⟨?_, ?_⟩
    · rw [comparison, List.head?_append_of_ne_nil _ hlhs.1]
      exact fun d hd => hlhs.2 d (List.mem_of_mem_head? hd)
    · have hends : comparison lhs c rhs = lhs ++ ' ' :: c.token ++ [' '] ++ rhs := by
        simp [comparison]
      rw [hends, List.getLast?_append_of_ne_nil _ hrhs.1]
      exact fun d hd => hrhs.2 d (List.mem_of_getLast? hd)
  have hnegated : ¬ IsNegated (Text.trim (comparison lhs c rhs)) := by
    rintro ⟨s, rest, hs, hcondition⟩
    rw [htrimmed] at hcondition
    have hspace := Text.not_isSpace_of_all (t := "not".toList) (by decide)
    rw [hcondition, Text.words_append_space (by decide) hspace hs] at hwords
    exact hnot (List.head_eq_of_cons_eq hwords).symm
  rw [evaluate_of_not_isNegated hnegated, htrimmed, decide?_operands hwords]
  rfl

/-- What an operand stands for once its names are replaced. -/
def reading (language : Pattern.Language) (line t : Text) : Text :=
  match ValueExpr.unquote? t with
  | none => t
  | some pattern => (firstGroup? language pattern line).getD pattern

theorem reading_of_not_quoted {line : Text} (h : ∀ r, t ≠ quoted r) :
    reading language line t = t := by
  have hnone : ValueExpr.unquote? t = none :=
    Option.eq_none_iff_forall_ne_some.2 fun r hr => h r (ValueExpr.unquote?_eq_some.1 hr)
  rw [reading, hnone]

theorem reading_quoted (line : Text) :
    reading language line (quoted r) = (firstGroup? language r line).getD r := by
  rw [reading, unquote?_quoted]

theorem operand_eq_reading (t : Text) :
    operand language ctx t = reading language ctx.line (expand ctx t) := rfl

/-- An operand that is taken as it is written: a word without quotes and marks. -/
structure IsLiteral (t : Text) : Prop where
  isWord : t ≠ [] ∧ ∀ d ∈ t, ¬ Text.isSpace d
  noQuote : '"' ∉ t
  noMark : ∀ m : Marker, ¬ m.delimiter <:+: t

theorem IsLiteral.operand_eq (h : IsLiteral t) : operand language ctx t = t := by
  rw [operand_eq_reading,
    expand_of_unmarked fun m => Template.unmarked_of_not_isInfix (h.noMark m)]
  refine reading_of_not_quoted ?_
  rintro r rfl
  exact h.noQuote List.mem_cons_self

/-! ## Names of the source as operands -/

theorem expand_source_wrap (hbar : '|' ∉ name) (hbuiltin : name ∉ Template.builtinNames)
    (hvalue : ctx.source.valueOf? name = some value) :
    expand ctx (Marker.source.wrap name) = Template.substitute .target ctx.target value := by
  have hsource : Template.substitute .source ctx.source (Marker.source.wrap name) = value := by
    rw [Template.substitute, Template.expand_wrap,
      Template.resolve_of_valueOf? hbuiltin hvalue]
    simpa [Marker.delimiter] using hbar
  rw [expand, hsource]

/-- A variable of the source stands for its value, if the value marks no names and has no quotes
around it. Otherwise the names of the target in the value are replaced first, and what is in quotes
after that is read as a pattern. -/
theorem source_name_stands_for_value (language : Pattern.Language) (ctx : Context)
    {name value : Text} (hspace : ∀ c ∈ name, ¬ Text.isSpace c) (hbar : '|' ∉ name)
    (hbuiltin : name ∉ Template.builtinNames) (hvalue : ctx.source.valueOf? name = some value) :
    let stands := reading language ctx.line (Template.substitute .target ctx.target value)
    operand language ctx (Marker.source.wrap name) = stands ∧
      (∀ (c : Comparison) (rhs : Text), IsLiteral rhs →
        evaluate language ctx (comparison (Marker.source.wrap name) c rhs) = c.holds stands rhs) ∧
      ((∀ other, ¬ Marker.target.wrap other <:+: value) → (∀ r, value ≠ quoted r) →
        stands = value) := by
  intro stands
  have hoperand : operand language ctx (Marker.source.wrap name) = stands := by
    rw [operand_eq_reading, expand_source_wrap hbar hbuiltin hvalue]
  refine ⟨hoperand, ?_, ?_⟩
  · intro c rhs hrhs
    have hword := Marker.not_isSpace_of_mem_wrap (m := .source) hspace
    have hnot : Marker.source.wrap name ≠ "not".toList := by
      intro h
      cases List.head_eq_of_cons_eq h
    rw [evaluate_comparison ⟨Marker.wrap_ne_nil _ _, hword⟩ hrhs.isWord hnot, hoperand,
      hrhs.operand_eq]
  · intro hunmarked hunquoted
    have hsame : Template.substitute .target ctx.target value = value :=
      Template.expand_of_unmarked hunmarked
    exact (congrArg _ hsame).trans (reading_of_not_quoted hunquoted)

/-- A value that holds a single mark, which has no partner, is compared as it is. -/
theorem source_name_stands_for_value_lone_mark :
    let language := Pattern.Language.occurrences
    let source := (Entity.file 0 ['a']).addVariable ⟨['V'], "<sys/x!!.h>".toList, false⟩
    let ctx : Context := ⟨source, Entity.file 1 ['b'], [], .empty⟩
    ctx.source.valueOf? ['V'] = some "<sys/x!!.h>".toList ∧
      operand language ctx "||V||".toList = "<sys/x!!.h>".toList ∧
      evaluate language ctx "||V|| startswith <sys/".toList := by
  intro language source ctx
  have hvalue : ctx.source.valueOf? ['V'] = some "<sys/x!!.h>".toList := by decide
  have hunmarked (other : Text) : ¬ Marker.target.wrap other <:+: "<sys/x!!.h>".toList := by
    -- Two marks would take four exclamation marks.
    intro hother
    have hcount := hother.sublist.count_le '!'
    rw [Marker.wrap, List.count_append, List.count_append] at hcount
    have hmarks : Marker.target.delimiter.count '!' = 2 := by decide
    have hvalue : "<sys/x!!.h>".toList.count '!' = 2 := by decide
    omega
  have hunquoted (r : Text) : "<sys/x!!.h>".toList ≠ quoted r := by
    intro hquoted
    cases List.head_eq_of_cons_eq hquoted
  have hspace := Text.not_isSpace_of_all (t := ['V']) (by decide)
  obtain ⟨hoperand, hcompares, hplain⟩ := source_name_stands_for_value language ctx hspace
    (by decide) (by decide) hvalue
  have hliteral : IsLiteral "<sys/".toList :=
    ⟨⟨by decide, Text.not_isSpace_of_all (by decide)⟩, by decide, fun m => by cases m <;> decide⟩
  refine ⟨hvalue, hoperand.trans (hplain hunmarked hunquoted), ?_⟩
  have hstarts := hcompares .startsWith "<sys/".toList hliteral
  rw [hplain hunmarked hunquoted] at hstarts
  exact hstarts.trans (by decide)

/-- A value in quotes is compared without them, as if it were a pattern of the condition. -/
theorem quoted_value_loses_its_quotes :
    ¬ ∀ (language : Pattern.Language) (ctx : Context) (name value : Text), name ≠ [] →
      (∀ c ∈ name, ¬ Text.isSpace c) → '|' ∉ name → name ∉ Template.builtinNames →
      ctx.source.valueOf? name = some value →
      operand language ctx (Marker.source.wrap name) = value ∧
        ∀ (c : Comparison) (rhs : Text), IsLiteral rhs →
          (evaluate language ctx (comparison (Marker.source.wrap name) c rhs) ↔
            c.holds value rhs) := by
  intro h
  let language := Pattern.Language.occurrences
  let source := (Entity.file 0 ['a']).addVariable ⟨['V'], "\"x\"".toList, false⟩
  have hoperand := (h language ⟨source, Entity.file 1 ['b'], [], .empty⟩ ['V'] "\"x\"".toList
    (by decide) (Text.not_isSpace_of_all (by decide)) (by decide) (by decide) (by decide)).1
  revert hoperand
  decide +kernel

/-! ## Conditions in quotes -/

theorem isTrimmed_quoted (r : Text) : Text.IsTrimmed (quoted r) := by
  refine ⟨?_, ?_⟩
  · rintro c ⟨⟩
    decide
  · rw [quoted, List.getLast?_concat]
    rintro c ⟨⟩
    decide

theorem evaluate_quoted (language : Pattern.Language) (ctx : Context) (r : Text) :
    evaluate language ctx (quoted r) = (decide? language ctx (quoted r)).getD false ∧
      evaluate language ctx ("not ".toList ++ quoted r) =
        (decide? language ctx (quoted r)).any (!·) := by
  have htrim := Text.trim_of_isTrimmed (isTrimmed_quoted r)
  have hnegated : ¬ IsNegated (Text.trim (quoted r)) := by
    rintro ⟨s, rest, -, hnot⟩
    rw [htrim] at hnot
    cases hnot
  have hblank : ¬ Text.IsBlank (quoted r) := by
    rw [← Text.trim_eq_nil, htrim]
    exact List.cons_ne_nil _ _
  rw [evaluate_of_not_isNegated hnegated, evaluate_not hblank, htrim]
  exact ⟨rfl, rfl⟩

/-- The first word starts with the quote, so that it is no comparison. -/
theorem words_quoted_ne (r : Text) (c : Comparison) (name : Text) :
    Text.words (quoted r) ≠ [c.token, name] := by
  intro hwords
  have hflat := Text.flatten_words (quoted r)
  rw [hwords, quoted, List.cons_append, List.filter_cons_of_pos (by decide)] at hflat
  cases c <;> cases List.head_eq_of_cons_eq hflat

theorem single?_quoted (haccepts : language.accepts r)
    (hmark : ∀ (m : Marker) name, ¬ m.wrap name <:+: r)
    (hvars : ∀ v ∈ ctx.source.vars, v.name ≠ quoted r) :
    single? language ctx (quoted r) = some (language.isMatch r ctx.line) := by
  have hwrap (m : Marker) : m.unwrap? (quoted r) = none := by cases m <;> rfl
  simp only [single?, Entity.valueOf?_eq_none.2 hvars, hwrap, unquote?_quoted,
    expand_of_unmarked hmark, Pattern.Language.isMatch]
  rw [Pattern.Language.accepts] at haccepts
  cases hread : language r with
  | error fault =>
    rw [hread] at haccepts
    cases haccepts
  | ok find => rfl

/-- The quotes around a text do not take part in a mark. -/
theorem not_isInfix_quoted {m : Marker} (h : ¬ m.delimiter <:+: r) :
    ¬ m.delimiter <:+: quoted r := by
  have hhead : m.delimiter.head? ≠ some '"' := by cases m <;> decide
  have hlast : m.delimiter.getLast? ≠ some '"' := by cases m <;> decide
  have hne := Template.delimiter_ne_nil m
  intro hquoted
  rw [quoted, List.cons_append] at hquoted
  rcases List.infix_cons_iff.1 hquoted with ⟨rest, hstart⟩ | hwithin
  · have hstarts := congrArg List.head? hstart
    rw [List.head?_append_of_ne_nil _ hne] at hstarts
    exact hhead hstarts
  · rcases List.infix_concat_iff.1 hwithin with ⟨init, hend⟩ | hwithin
    · have hends := congrArg List.getLast? hend
      rw [List.getLast?_append_of_ne_nil _ hne, List.getLast?_concat] at hends
      exact hlast hends
    · exact h hwithin

theorem operand_quoted (hmark : ∀ m : Marker, ¬ m.delimiter <:+: quoted r) :
    operand language ctx (quoted r) = (firstGroup? language r ctx.line).getD r := by
  rw [operand_eq_reading,
    expand_of_unmarked fun m => Template.unmarked_of_not_isInfix (hmark m), reading_quoted]

/-- A condition in quotes holds exactly if the pattern between them matches the line, and its
negation exactly if it does not, unless the condition is a comparison of three words. One whose
operands have quotes of their own compares what the two patterns find in the line. -/
theorem quoted_condition_matches_line (language : Pattern.Language) (ctx : Context) {r : Text}
    (haccepts : language.accepts r) (hmark : ∀ m : Marker, ¬ m.delimiter <:+: r)
    (hvars : ∀ v ∈ ctx.source.vars, v.name ≠ quoted r) :
    let holds := evaluate language ctx (quoted r)
    let fails := evaluate language ctx ("not ".toList ++ quoted r)
    ((∀ (c : Comparison) lhs rhs, Text.words (quoted r) ≠ [lhs, c.token, rhs]) →
      (holds ↔ language.isMatch r ctx.line) ∧ (fails ↔ ¬ language.isMatch r ctx.line)) ∧
    ∀ (c : Comparison) p q, Text.words (quoted r) = [quoted p, c.token, quoted q] →
      let compared := c.holds ((firstGroup? language p ctx.line).getD p)
        ((firstGroup? language q ctx.line).getD q)
      (holds ↔ compared) ∧ (fails ↔ ¬ compared) := by
  intro holds fails
  obtain ⟨hholds, hfails⟩ := evaluate_quoted language ctx r
  refine ⟨fun hoperands => ?_, fun c p q hwords => ?_⟩
  · have hdecide : decide? language ctx (quoted r) = some (language.isMatch r ctx.line) := by
      rw [decide?_single (fun c name _ => words_quoted_ne r c name) hoperands,
        single?_quoted haccepts (fun m => Template.unmarked_of_not_isInfix (hmark m)) hvars]
    rw [hdecide] at hholds hfails
    simp [holds, fails, hholds, hfails]
  · have hword {t : Text} (h : t ∈ Text.words (quoted r)) (m : Marker) : ¬ m.delimiter <:+: t :=
      fun hm => not_isInfix_quoted (hmark m) (hm.trans (Text.isInfix_of_mem_words h))
    rw [decide?_operands hwords, operand_quoted (hword (by simp [hwords])),
      operand_quoted (hword (by simp [hwords]))] at hholds hfails
    simp [holds, fails, hholds, hfails]

/-- A pattern of four words, which are not compared although the second one is a comparison. -/
theorem quoted_condition_matches_line_four_words :
    let language := Pattern.Language.occurrences
    let ctx : Context :=
      ⟨Entity.file 0 ['a'], Entity.file 1 ['b'], "if a == b then".toList, .empty⟩
    let r := "a == b then".toList
    language.accepts r ∧ evaluate language ctx (quoted r) ∧
      ¬ evaluate language ctx ("not ".toList ++ quoted r) := by
  intro language ctx r
  have hwords : Text.words (quoted r) = ["\"a".toList, "==".toList, ['b'], "then\"".toList] := by
    decide
  have hmatch : language.isMatch r ctx.line := by decide
  obtain ⟨hpattern, -⟩ := quoted_condition_matches_line language ctx (r := r) rfl
    (fun m => by cases m <;> decide) (List.forall_mem_nil _)
  obtain ⟨hholds, hfails⟩ := hpattern fun c lhs rhs h => by simp [hwords] at h
  exact ⟨rfl, hholds.2 hmatch, fun h => hfails.1 h hmatch⟩

/-- A text in quotes that is a comparison of two texts in quotes does not ask for the line, though
the line holds the whole text. -/
theorem quoted_comparison_ignores_whole_pattern :
    ¬ ∀ (language : Pattern.Language) (ctx : Context) (r : Text), language.accepts r →
      (∀ m : Marker, ¬ m.delimiter <:+: r) → (∀ v ∈ ctx.source.vars, v.name ≠ quoted r) →
      (evaluate language ctx (quoted r) ↔ language.isMatch r ctx.line) ∧
        (evaluate language ctx ("not ".toList ++ quoted r) ↔ ¬ language.isMatch r ctx.line) := by
  intro h
  let language := Pattern.Language.occurrences
  let r := "a\" == \"b".toList
  let ctx : Context := ⟨Entity.file 0 ['a'], Entity.file 1 ['b'], quoted r, .empty⟩
  have hholds := (h language ctx r rfl (fun m => by cases m <;> decide) (List.forall_mem_nil _)).1
  have hmatch : language.isMatch r ctx.line := by decide
  have hcompared : evaluate language ctx (quoted r) = false := by decide +kernel
  rw [hcompared] at hholds
  exact absurd (hholds.2 hmatch) Bool.false_ne_true

end SourceAtlas.Condition
