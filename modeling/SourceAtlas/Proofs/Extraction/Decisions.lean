import SourceAtlas.Proofs.Extraction.Conditions
import SourceAtlas.Proofs.RuleFile.Values

/-!
# Undecided conditions

A condition may be impossible to decide: it compares a variable that one of the files lacks, or it
has none of the known forms. Then neither the condition nor its negation holds. In all other cases
one of the two holds, and never both.
-/

namespace SourceAtlas.Condition

variable {language : Pattern.Language} {ctx : Context} {condition body : Text}

/-- A text between double quotes. -/
def quoted (t : Text) : Text := '"' :: t ++ ['"']

/-- Nothing decides a condition, given as its trimmed text. -/
inductive Undecided (language : Pattern.Language) (ctx : Context) (body : Text) : Prop
  /-- A variable is compared that the source or the target lacks. -/
  | missing {c : Comparison} {name : Text} (hunary : c.IsUnary)
      (hwords : Text.words body = [c.token, name])
      (hmissing : (∀ v ∈ ctx.source.vars, v.name ≠ expand ctx name) ∨
        ∀ v ∈ ctx.target.vars, v.name ≠ expand ctx name)
  /-- The condition is no comparison, no variable of the source, no marked name and no pattern in
  quotes. -/
  | unknown
      (hvariable : ∀ (c : Comparison) name, c.IsUnary → Text.words body ≠ [c.token, name])
      (hoperands : ∀ (c : Comparison) lhs rhs, Text.words body ≠ [lhs, c.token, rhs])
      (hsource : ∀ v ∈ ctx.source.vars, v.name ≠ body)
      (hmarked : ∀ (m : Marker) name, name ≠ [] → ¬ m.delimiter <:+: name → body ≠ m.wrap name)
      (hpattern : ∀ r, body = quoted r → ¬ language.accepts (expand ctx r))

theorem compareVariables?_eq_none {c : Comparison} {name : Text} :
    compareVariables? ctx c name = none ↔
      (∀ v ∈ ctx.source.vars, v.name ≠ expand ctx name) ∨
        ∀ v ∈ ctx.target.vars, v.name ≠ expand ctx name := by
  rw [← Entity.valueOf?_eq_none, ← Entity.valueOf?_eq_none]
  cases hours : ctx.source.valueOf? (expand ctx name) with
  | none => simp [compareVariables?, hours]
  | some ours =>
    cases htheirs : ctx.target.valueOf? (expand ctx name) <;>
      simp [compareVariables?, hours, htheirs]

theorem unquote?_quoted (t : Text) : ValueExpr.unquote? (quoted t) = some t :=
  ValueExpr.unquote?_eq_some.2 rfl

theorem single?_eq_none :
    single? language ctx body = none ↔
      (∀ v ∈ ctx.source.vars, v.name ≠ body) ∧
      (∀ (m : Marker) name, name ≠ [] → ¬ m.delimiter <:+: name → body ≠ m.wrap name) ∧
      ∀ r, body = quoted r → ¬ language.accepts (expand ctx r) := by
  have hmarked : (∀ (m : Marker) name, name ≠ [] → ¬ m.delimiter <:+: name → body ≠ m.wrap name) ↔
      Marker.source.unwrap? body = none ∧ Marker.target.unwrap? body = none := by
    rw [Marker.unwrap?_eq_none, Marker.unwrap?_eq_none]
    refine ⟨fun h => ⟨h .source, h .target⟩, fun ⟨hsource, htarget⟩ m => ?_⟩
    cases m with
    | source => exact hsource
    | target => exact htarget
  rw [← Entity.valueOf?_eq_none, hmarked, single?]
  cases ctx.source.valueOf? body with
  | some ours => simp
  | none =>
    cases Marker.source.unwrap? body with
    | some rule => simp
    | none =>
      cases Marker.target.unwrap? body with
      | some rule => simp
      | none =>
        simp only [true_and]
        cases hquoted : ValueExpr.unquote? body with
        | none =>
          refine ⟨fun _ r hr => ?_, fun _ => rfl⟩
          rw [hr, unquote?_quoted] at hquoted
          cases hquoted
        | some r =>
          obtain rfl : body = quoted r := ValueExpr.unquote?_eq_some.1 hquoted
          have honly : (∀ r', quoted r = quoted r' → ¬ language.accepts (expand ctx r')) ↔
              ¬ language.accepts (expand ctx r) := by
            refine ⟨fun h => h r rfl, fun h r' hr => ?_⟩
            rw [hr, unquote?_quoted] at hquoted
            rwa [Option.some.inj hquoted]
          rw [honly, Pattern.Language.accepts]
          cases hread : language (expand ctx r) <;> simp [hread, Except.isOk, Except.toBool]

/-- What is undecided is exactly what deciding gives no answer to. -/
theorem decide?_eq_none : decide? language ctx body = none ↔ Undecided language ctx body := by
  by_cases hvariable : ∃ (c : Comparison) (name : Text),
      c.IsUnary ∧ Text.words body = [c.token, name]
  · obtain ⟨c, name, hunary, hwords⟩ := hvariable
    rw [decide?_variable hunary hwords, compareVariables?_eq_none]
    constructor
    · exact .missing hunary hwords
    · rintro (⟨-, hwords', hmissing⟩ | ⟨hvariable, -, -, -, -⟩)
      · obtain ⟨-, hnames⟩ := List.cons.inj (hwords.symm.trans hwords')
        obtain rfl := List.head_eq_of_cons_eq hnames
        exact hmissing
      · exact absurd hwords (hvariable c name hunary)
  by_cases hoperands : ∃ (c : Comparison) (lhs rhs : Text), Text.words body = [lhs, c.token, rhs]
  · obtain ⟨c, lhs, rhs, hwords⟩ := hoperands
    rw [decide?_operands hwords]
    refine ⟨fun h => absurd h (Option.some_ne_none _), ?_⟩
    rintro (⟨-, hwords', -⟩ | ⟨-, hoperands, -, -, -⟩)
    · simp [hwords] at hwords'
    · exact absurd hwords (hoperands c lhs rhs)
  push Not at hvariable hoperands
  rw [decide?_single hvariable hoperands, single?_eq_none]
  constructor
  · rintro ⟨hsource, hmarked, hpattern⟩
    exact .unknown hvariable hoperands hsource hmarked hpattern
  · rintro (⟨hunary, hwords, -⟩ | ⟨-, -, hsource, hmarked, hpattern⟩)
    · exact absurd hwords (hvariable _ _ hunary)
    · exact ⟨hsource, hmarked, hpattern⟩

/-- A condition and its negation never both hold, and neither holds exactly if the condition is
undecided. -/
theorem holds_with_or_without_not (language : Pattern.Language) (ctx : Context) {condition : Text}
    (hblank : ¬ Text.IsBlank condition) (hnegated : ¬ IsNegated (Text.trim condition)) :
    let holds := evaluate language ctx condition
    let fails := evaluate language ctx ("not ".toList ++ condition)
    ¬ (holds ∧ fails) ∧
      (¬ holds ∧ ¬ fails ↔ Undecided language ctx (Text.trim condition)) ∧
      (¬ Undecided language ctx (Text.trim condition) → (holds ↔ ¬ fails)) := by
  intro holds fails
  have hholds : holds = (decide? language ctx (Text.trim condition)).getD false :=
    evaluate_of_not_isNegated hnegated
  have hfails : fails = (decide? language ctx (Text.trim condition)).any (!·) := evaluate_not hblank
  rw [← decide?_eq_none, hholds, hfails]
  cases decide? language ctx (Text.trim condition) with
  | none => simp
  | some result => cases result <;> simp

/-- Neither file has the variable that is compared, so that neither the condition nor its negation
holds. -/
theorem holds_with_or_without_not_missing :
    let language : Pattern.Language := fun _ => .error .malformed
    let ctx : Context := ⟨Entity.file 0 ['a'], Entity.file 1 ['b'], [], .empty⟩
    let condition := " == X ".toList
    ¬ Text.IsBlank condition ∧ ¬ IsNegated (Text.trim condition) ∧
      Undecided language ctx (Text.trim condition) ∧ ¬ evaluate language ctx condition ∧
      ¬ evaluate language ctx ("not ".toList ++ condition) := by
  intro language ctx condition
  have htrim : Text.trim condition = "== X".toList := by decide
  have hblank : ¬ Text.IsBlank condition := by
    rw [← Text.trim_eq_nil, htrim]
    exact List.cons_ne_nil _ _
  have hnegated : ¬ IsNegated (Text.trim condition) := by
    rintro ⟨s, rest, -, hnot⟩
    rw [htrim] at hnot
    cases hnot
  have hwords : Text.words (Text.trim condition) = [Comparison.equals.token, ['X']] := by decide
  have hundecided : Undecided language ctx (Text.trim condition) :=
    .missing (.inl rfl) hwords (.inl (List.forall_mem_nil _))
  obtain ⟨-, hneither, -⟩ := holds_with_or_without_not language ctx hblank hnegated
  exact ⟨hblank, hnegated, hundecided, hneither.2 hundecided⟩

end SourceAtlas.Condition
