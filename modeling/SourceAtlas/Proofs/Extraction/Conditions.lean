import SourceAtlas.Extraction.Condition
import SourceAtlas.Proofs.Text.Cutting
import SourceAtlas.Proofs.Text.Searching

/-!
# Conditions

A condition is decided without its negation, and `not` turns the decision around. What decides it
depends on its words: a comparison of variables, a comparison of operands, or the text as a whole.

A condition that is one word is no comparison. A word that consists of a marked name asks for a
rule: whether it has linked the source to the target, or the target to the source.

This is also all that conditions see of the rules that were applied: those between the source and
the target.
-/

namespace SourceAtlas

namespace Marker

/-- A name between marks. -/
def wrap (m : Marker) (name : Text) : Text := m.delimiter ++ name ++ m.delimiter

theorem unwrap?_eq_some {m : Marker} {t name : Text} :
    m.unwrap? t = some name ↔ t = m.wrap name ∧ name ≠ [] ∧ ¬ m.delimiter <:+: name := by
  have hrefused (name : Text) : (name.isEmpty || Text.contains name m.delimiter) = true ↔
      ¬ (name ≠ [] ∧ ¬ m.delimiter <:+: name) := by
    rw [Bool.or_eq_true, List.isEmpty_iff, Text.contains_iff, not_and_or, not_not, not_not]
  have htake (name : Text) :
      (name ++ m.delimiter).take ((name ++ m.delimiter).length - 2) = name := by
    rw [List.length_append, m.delimiter_length, Nat.add_sub_cancel, List.take_left]
  constructor
  · intro h
    obtain ⟨rest, hafter, h⟩ := Option.bind_eq_some_iff.1 h
    split at h
    · rename_i hsuffix
      obtain ⟨init, rfl⟩ := List.isSuffixOf_iff_suffix.1 hsuffix
      simp only [htake] at h
      split at h
      · cases h
      · rename_i hname
        cases h
        rw [hrefused, not_not] at hname
        exact ⟨(Text.after?_eq_some.1 hafter).trans (List.append_assoc ..).symm, hname⟩
    · cases h
  · rintro ⟨rfl, hname⟩
    have hafter : Text.after? m.delimiter (m.wrap name) = some (name ++ m.delimiter) :=
      Text.after?_eq_some.2 (List.append_assoc ..)
    rw [unwrap?, hafter]
    simp only [Option.bind_eq_bind, Option.bind_some]
    rw [if_pos (by simp), htake, if_neg (by rwa [hrefused, not_not])]

theorem unwrap?_eq_none {m : Marker} {t : Text} :
    m.unwrap? t = none ↔ ∀ name, name ≠ [] → ¬ m.delimiter <:+: name → t ≠ m.wrap name := by
  rw [Option.eq_none_iff_forall_ne_some]
  refine forall_congr' fun name => ?_
  rw [Ne, unwrap?_eq_some]
  tauto

theorem unwrap?_source_wrap_target (name : Text) : source.unwrap? (target.wrap name) = none := rfl

theorem not_isSpace_of_mem_wrap {m : Marker} {name : Text} (h : ∀ c ∈ name, ¬ Text.isSpace c) :
    ∀ c ∈ m.wrap name, ¬ Text.isSpace c := by
  have hmark : ∀ c ∈ m.delimiter, ¬ Text.isSpace c :=
    Text.not_isSpace_of_all (by cases m <;> decide)
  intro c hc
  rcases List.mem_append.1 hc with hc | hc
  · rcases List.mem_append.1 hc with hc | hc
    · exact hmark c hc
    · exact h c hc
  · exact hmark c hc

theorem wrap_ne_nil (m : Marker) (name : Text) : m.wrap name ≠ [] := by
  cases m <;> exact List.cons_ne_nil _ _

end Marker

theorem Entity.valueOf?_eq_none {e : Entity} {name : Text} :
    e.valueOf? name = none ↔ ∀ v ∈ e.vars, v.name ≠ name := by
  simp [valueOf?]

theorem AppliedRules.contains_record {applied : AppliedRules} {source target here there : EntityId}
    {rule name : Text} :
    (applied.record source rule target).contains here name there ↔
      applied.contains here name there ∨ here = source ∧ name = rule ∧ there = target := by
  unfold record
  split
  · rename_i hknown
    refine ⟨.inl, fun h => h.elim id ?_⟩
    rintro ⟨rfl, rfl, rfl⟩
    exact hknown
  · simp [contains]

namespace Condition

variable {language : Pattern.Language} {ctx : Context} {word condition body : Text}

/-! ## Negation -/

/-- The condition starts with `not` and white space behind it. -/
def IsNegated (condition : Text) : Prop :=
  ∃ s rest, Text.isSpace s ∧ condition = "not".toList ++ s :: rest

theorem negation_of_not_isNegated (h : ¬ IsNegated condition) :
    negation condition = (false, condition) := by
  unfold negation
  split
  · rename_i s rest hafter
    rw [if_neg]
    exact fun hs => h ⟨s, rest, hs, Text.after?_eq_some.1 hafter⟩
  · rfl

/-- White space around a condition that is negated does not count. -/
theorem negation_trim_not (h : ¬ Text.IsBlank condition) :
    negation (Text.trim ("not ".toList ++ condition)) = (true, Text.trim condition) := by
  obtain ⟨a, b, ha, hb, hpadded⟩ := Text.exists_eq_trim condition
  have hne : Text.trim condition ≠ [] := fun hnil => h (Text.trim_eq_nil.1 hnil)
  have htrimmed := Text.isTrimmed_trim condition
  generalize Text.trim condition = body at *
  have hwhole : Text.IsTrimmed ("not ".toList ++ a ++ body) := by
    refine ⟨?_, ?_⟩
    · rintro c ⟨⟩
      decide
    · rw [List.getLast?_append_of_ne_nil _ hne]
      exact htrimmed.last
  have htrim : Text.trim ("not ".toList ++ condition) = "not ".toList ++ a ++ body := by
    rw [hpadded, ← Text.trim_pad Text.isBlank_nil hwhole hb]
    simp only [List.nil_append, List.append_assoc]
  have hafter : Text.after? "not".toList ("not ".toList ++ a ++ body) = some (' ' :: (a ++ body)) :=
    Text.after?_eq_some.2 rfl
  have hbody : Text.trim (' ' :: (a ++ body)) = body := by
    have hblank : Text.IsBlank (' ' :: a) := Text.isBlank_cons.2 ⟨rfl, ha⟩
    simpa using Text.trim_pad hblank htrimmed Text.isBlank_nil
  rw [htrim, negation, hafter]
  simp only [hbody]
  rfl

theorem evaluate_of_not_isNegated (h : ¬ IsNegated (Text.trim condition)) :
    evaluate language ctx condition =
      (decide? language ctx (Text.trim condition)).getD false := by
  rw [evaluate, negation_of_not_isNegated h]
  dsimp only
  cases decide? language ctx (Text.trim condition) <;> simp

theorem evaluate_not (h : ¬ Text.IsBlank condition) :
    evaluate language ctx ("not ".toList ++ condition) =
      (decide? language ctx (Text.trim condition)).any (!·) := by
  rw [evaluate, negation_trim_not h]
  dsimp only
  cases decide? language ctx (Text.trim condition) <;> simp

/-! ## Forms -/

/-- How a comparison is written. -/
def Comparison.token : Comparison → Text
  | equals => "==".toList
  | contains => "contains".toList
  | startsWith => "startswith".toList
  | endsWith => "endswith".toList

/-- The comparison may stand before a single variable. -/
def Comparison.IsUnary (c : Comparison) : Prop := c = equals ∨ c = contains

theorem Comparison.ofToken?_eq_some {token : Text} {c : Comparison} :
    ofToken? token = some c ↔ token = c.token := by
  constructor
  · intro h
    unfold ofToken? at h
    split at h <;> cases h
    all_goals
      rename_i heq
      rw [← String.toList_ofList (l := token), heq]
      rfl
  · rintro rfl
    cases c <;> rfl

theorem Comparison.ofUnaryToken?_eq_some {token : Text} {c : Comparison} :
    ofUnaryToken? token = some c ↔ c.IsUnary ∧ token = c.token := by
  rw [← ofToken?_eq_some, ofUnaryToken?]
  cases ofToken? token with
  | none => simp
  | some d => cases d <;> cases c <;> simp [IsUnary]

theorem decide?_variable {c : Comparison} {name : Text} (hunary : c.IsUnary)
    (h : Text.words body = [c.token, name]) :
    decide? language ctx body = compareVariables? ctx c name := by
  simp only [decide?, h, Comparison.ofUnaryToken?_eq_some.2 ⟨hunary, rfl⟩]

theorem decide?_operands {c : Comparison} {lhs rhs : Text}
    (h : Text.words body = [lhs, c.token, rhs]) :
    decide? language ctx body =
      some (c.holds (operand language ctx lhs) (operand language ctx rhs)) := by
  simp only [decide?, h, Comparison.ofToken?_eq_some.2 rfl]

theorem decide?_single
    (hvariable : ∀ (c : Comparison) name, c.IsUnary → Text.words body ≠ [c.token, name])
    (hoperands : ∀ (c : Comparison) lhs rhs, Text.words body ≠ [lhs, c.token, rhs]) :
    decide? language ctx body = single? language ctx body := by
  unfold decide?
  split
  · rename_i op name hwords
    split
    · rename_i c hop
      obtain ⟨hunary, rfl⟩ := Comparison.ofUnaryToken?_eq_some.1 hop
      exact absurd hwords (hvariable c name hunary)
    · rfl
  · rename_i lhs op rhs hwords
    split
    · rename_i c hop
      obtain rfl := Comparison.ofToken?_eq_some.1 hop
      exact absurd hwords (hoperands c lhs rhs)
    · rfl
  · rfl

/-! ## One word -/

theorem decide?_word (hne : word ≠ []) (h : ∀ c ∈ word, ¬ Text.isSpace c) :
    decide? language ctx word = single? language ctx word := by
  rw [decide?, Text.words_of_forall_not hne h]

theorem trim_word (h : ∀ c ∈ word, ¬ Text.isSpace c) : Text.trim word = word :=
  Text.trim_of_isTrimmed
    ⟨fun c hc => h c (List.mem_of_mem_head? hc), fun c hc => h c (List.mem_of_getLast? hc)⟩

theorem evaluate_word (hne : word ≠ []) (h : ∀ c ∈ word, ¬ Text.isSpace c) :
    evaluate language ctx word = (single? language ctx word).getD false := by
  have hnegated : ¬ IsNegated (Text.trim word) := by
    rintro ⟨s, rest, hs, hword⟩
    rw [trim_word h] at hword
    exact h s (by simp [hword]) hs
  rw [evaluate_of_not_isNegated hnegated, trim_word h, decide?_word hne h]

theorem evaluate_not_word (hne : word ≠ []) (h : ∀ c ∈ word, ¬ Text.isSpace c) :
    evaluate language ctx ("not ".toList ++ word) = (single? language ctx word).any (!·) := by
  have hblank : ¬ Text.IsBlank word := by
    rw [← Text.trim_eq_nil, trim_word h]
    exact hne
  rw [evaluate_not hblank, trim_word h, decide?_word hne h]

/-! ## Rules that were applied -/

/-- Contexts in which the same rules have linked the source to the target, and the target to the
source. -/
structure Context.Agrees (ctx ctx' : Context) : Prop where
  source : ctx.source = ctx'.source
  target : ctx.target = ctx'.target
  line : ctx.line = ctx'.line
  there : ∀ rule, ctx.applied.contains ctx.source.id rule ctx.target.id =
    ctx'.applied.contains ctx.source.id rule ctx.target.id
  back : ∀ rule, ctx.applied.contains ctx.target.id rule ctx.source.id =
    ctx'.applied.contains ctx.target.id rule ctx.source.id

/-- A condition sees nothing else of the rules that were applied. -/
theorem Context.Agrees.evaluate_eq {ctx ctx' : Context} (h : ctx.Agrees ctx') (condition : Text) :
    evaluate language ctx condition = evaluate language ctx' condition := by
  obtain ⟨source, target, line, applied⟩ := ctx
  obtain ⟨_, _, _, applied'⟩ := ctx'
  obtain ⟨rfl, rfl, rfl, hthere, hback⟩ := h
  have hsingle (body : Text) : single? language ⟨source, target, line, applied⟩ body =
      single? language ⟨source, target, line, applied'⟩ body := by
    simp only [single?, hthere, hback]
    rfl
  have hdecide (body : Text) : decide? language ⟨source, target, line, applied⟩ body =
      decide? language ⟨source, target, line, applied'⟩ body := by
    simp only [decide?, hsingle]
    rfl
  simp only [evaluate, hdecide]

/-- A name between double bars asks whether the rule has linked the source to the target. -/
theorem single?_source_wrap {name : Text} (hne : name ≠ [])
    (hmark : ¬ Marker.source.delimiter <:+: name)
    (hvars : ∀ v ∈ ctx.source.vars, v.name ≠ Marker.source.wrap name) :
    single? language ctx (Marker.source.wrap name) =
      some (ctx.applied.contains ctx.source.id name ctx.target.id) := by
  rw [single?, Entity.valueOf?_eq_none.2 hvars, Marker.unwrap?_eq_some.2 ⟨rfl, hne, hmark⟩]

/-- A name between double exclamation marks asks whether the rule has linked the target to the
source. -/
theorem single?_target_wrap {name : Text} (hne : name ≠ [])
    (hmark : ¬ Marker.target.delimiter <:+: name)
    (hvars : ∀ v ∈ ctx.source.vars, v.name ≠ Marker.target.wrap name) :
    single? language ctx (Marker.target.wrap name) =
      some (ctx.applied.contains ctx.target.id name ctx.source.id) := by
  rw [single?, Entity.valueOf?_eq_none.2 hvars, Marker.unwrap?_source_wrap_target,
    Marker.unwrap?_eq_some.2 ⟨rfl, hne, hmark⟩]

theorem single?_target_wrap_nil (hvars : ∀ v ∈ ctx.source.vars, v.name ≠ Marker.target.wrap []) :
    single? language ctx (Marker.target.wrap []) = none := by
  rw [single?, Entity.valueOf?_eq_none.2 hvars]
  rfl

end Condition

end SourceAtlas
