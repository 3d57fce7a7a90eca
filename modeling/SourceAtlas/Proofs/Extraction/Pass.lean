import SourceAtlas.Extraction.Pass

/-!
# What a pass keeps

A pass changes the state of its sink only by applying rules of its kind. So whatever holds of the
first state and is kept by every such application holds of the last one.
-/

namespace SourceAtlas.Pass

variable {σ : Type} {language : Pattern.Language} {sink : Sink σ} {P : σ → Prop}

/-- Applying any of the rules keeps a property of states. -/
def Keeps (sink : Sink σ) (rules : List Rule) (P : σ → Prop) : Prop :=
  ∀ rule ∈ rules, ∀ state hit, P state → P (sink.apply state rule hit).1

theorem rule_tryRule (line : Text) (o : Outcome σ) (a : Active) :
    (tryRule language sink line o a).1.rule = a.rule := by
  unfold tryRule
  simp only
  split <;> rfl

theorem tryRule_keeps {rules : List Rule} (h : Keeps sink rules P) {line : Text} {o : Outcome σ}
    {a : Active} (ha : a.rule ∈ rules) (ho : P o.state) :
    P (tryRule language sink line o a).2.state := by
  unfold tryRule
  simp only
  split
  · exact ho
  · exact h a.rule ha _ _ ho

theorem tryRules_keeps {rules : List Rule} (h : Keeps sink rules P) {line : Text} {o : Outcome σ}
    {active : List Active} (ha : ∀ a ∈ active, a.rule ∈ rules) (ho : P o.state) :
    P (tryRules language sink line o active).2.state ∧
      ∀ a ∈ (tryRules language sink line o active).1, a.rule ∈ rules := by
  induction active generalizing o with
  | nil => exact ⟨ho, ha⟩
  | cons a active ih =>
    obtain ⟨hfirst, hrest⟩ := List.forall_mem_cons.1 ha
    obtain ⟨hstate, hactive⟩ := ih hrest (tryRule_keeps h hfirst ho)
    have hsame : (tryRule language sink line o a).1.rule ∈ rules := by
      rw [rule_tryRule]
      exact hfirst
    exact ⟨hstate, List.forall_mem_cons.2 ⟨hsame, hactive⟩⟩

theorem lines_keeps {rules : List Rule} (h : Keeps sink rules P) {set : RuleSet}
    {fault : Option FileFault} {state : LineState} {active : List Active} {o : Outcome σ}
    {raws : List Text.Bytes} (ha : ∀ a ∈ active, a.rule ∈ rules) (ho : P o.state) :
    P (lines language set sink fault state active o raws).1.state := by
  induction raws generalizing state active o with
  | nil => exact ho
  | cons raw rest ih =>
    rw [lines]
    simp only
    split
    · exact ih ha ho
    · obtain ⟨hstate, hactive⟩ := tryRules_keeps h ha ho
      split
      · exact hstate
      · exact ih (fun a hmem => hactive a (List.mem_filter.1 hmem).1) hstate

theorem foldl_apply_keeps {rules : List Rule} (h : Keeps sink rules P) {hit : Hit} {o : Outcome σ}
    (ho : P o.state) : P (rules.foldl (fun o rule => o.apply sink rule hit) o).state := by
  induction rules generalizing o with
  | nil => exact ho
  | cons rule rules ih =>
    refine ih (fun rule hmem => h rule (List.mem_cons_of_mem _ hmem)) ?_
    exact h rule List.mem_cons_self _ _ ho

theorem rule_mem_of_mem_active {rules : List Rule} {a : Active} (h : a ∈ active rules) :
    a.rule ∈ rules := by
  obtain ⟨rule, hrule, hsome⟩ := List.mem_filterMap.1 h
  split at hsome
  · cases hsome
    exact hrule
  · cases hsome

/-- What the rules of a kind keep is kept by a pass of that kind. -/
theorem file_keeps {fs : FileSystem} {set : RuleSet} {kind : RuleKind} {state : σ} {path : Path}
    (h : Keeps sink (set.rulesOf kind) P) (hstate : P state) :
    P (file language fs set kind sink state path).1.state := by
  have heligible {rule : Rule} (hrule : rule ∈ eligible set kind) : rule ∈ set.rulesOf kind :=
    (List.mem_filter.1 hrule).1
  have hconstants : P (constants sink (eligible set kind) (.start state)).state :=
    foldl_apply_keeps (fun rule hrule => h rule (heligible (List.mem_filter.1 hrule).1)) hstate
  unfold file
  split
  · exact hstate
  · split
    · exact hstate
    · unfold content
      simp only
      split
      · exact hconstants
      · exact lines_keeps h (fun a ha => heligible (rule_mem_of_mem_active ha)) hconstants

end SourceAtlas.Pass
