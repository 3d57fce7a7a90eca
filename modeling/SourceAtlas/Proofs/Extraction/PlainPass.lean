import Mathlib.Data.List.Forall2
import Mathlib.Data.List.Nodup
import SourceAtlas.Extraction.Pass

/-!
# The plain procedure behind a pass

A pass keeps the matchers that it has built, drops the rules that have applied as often as they
may, and stops reading when none is left. The plain procedure does nothing of this: it tries every
rule on every line of code, builds every matcher anew, and decides by the applications so far
whether a rule may apply once more. Both apply the same rules to the same hits in the same order, to
whatever lines a file gives before its end or before a fault.
-/

namespace SourceAtlas

/-- The sink that does the same and also lists the applications. -/
def Sink.traced {σ : Type} (sink : Sink σ) : Sink (σ × List (Rule × Hit)) where
  expand s template := sink.expand s.1 template
  apply s rule hit :=
    let (state, notices) := sink.apply s.1 rule hit
    ((state, s.2 ++ [(rule, hit)]), notices)

namespace PlainPass

/-! ## The procedure -/

variable {σ : Type}

/-- One application: the position of its rule among the rules of the kind, the rule and the hit. -/
structure Application where
  position : Nat
  rule : Rule
  hit : Hit

/-- The state of a sink with all the applications so far. -/
structure Record (σ : Type) where
  state : σ
  applications : List Application

namespace Record

def start (state : σ) : Record σ := ⟨state, []⟩

def apply (sink : Sink σ) (r : Record σ) (entry : Rule × Nat) (hit : Hit) : Record σ :=
  ⟨(sink.apply r.state entry.1 hit).1, r.applications ++ [⟨entry.2, entry.1, hit⟩]⟩

/-- How often the rule at a position was applied. -/
def count (r : Record σ) (position : Nat) : Nat :=
  r.applications.countP (·.position == position)

end Record

/-- Applies a constant rule that may apply at all. -/
def applyConstant (sink : Sink σ) (r : Record σ) (entry : Rule × Nat) : Record σ :=
  if entry.1.isConstant && entry.1.cap != some 0 then r.apply sink entry ⟨[], []⟩ else r

/-- Tries a pattern rule on a line of code, if it was applied fewer times than it may. -/
def tryRule (language : Pattern.Language) (sink : Sink σ) (line : Text) (r : Record σ)
    (entry : Rule × Nat) : Record σ :=
  match entry.1.body with
  | .constant _ => r
  | .pattern template =>
    if entry.1.cap.all (r.count entry.2 < ·) then
      match language (sink.expand r.state template) with
      | .error _ => r
      | .ok find =>
        match find line with
        | none => r
        | some group => r.apply sink entry ⟨line, group.getD []⟩
    else r

/-- Tries all rules in order on a line of code. -/
def tryRules (language : Pattern.Language) (sink : Sink σ) (entries : List (Rule × Nat))
    (r : Record σ) (line : Text) : Record σ :=
  entries.foldl (tryRule language sink line) r

/-- The code in raw lines: what is left of each line that is not blank, if anything is. -/
def codeLines (set : RuleSet) (state : LineState) : List Text.Bytes → List Text
  | [] => []
  | raw :: rest =>
    let line := Text.trim (Text.decodeLossy raw)
    if line.isEmpty then codeLines set state rest
    else
      let (code, state) := set.strip state line
      if code.isEmpty then codeLines set state rest else code :: codeLines set state rest

/-- The constant rules first, and then the pattern rules on each line of code. -/
def pass (language : Pattern.Language) (set : RuleSet) (kind : RuleKind) (sink : Sink σ)
    (state : σ) (stream : Stream) : Record σ :=
  let entries := (set.rulesOf kind).zipIdx
  (codeLines set .clear stream.rawLines).foldl (tryRules language sink entries)
    (entries.foldl (applyConstant sink) (.start state))

/-! ## One rule -/

variable {language : Pattern.Language} {sink : Sink σ}

/-- Whether a rule is a pattern rule that may apply once more. -/
def isLive (r : Record σ) (entry : Rule × Nat) : Bool :=
  !entry.1.isConstant && entry.1.cap.all (r.count entry.2 < ·)

theorem count_apply (r : Record σ) (entry : Rule × Nat) (hit : Hit) (k : Nat) :
    (r.apply sink entry hit).count k = r.count k + if entry.2 = k then 1 else 0 := by
  simp only [Record.count, Record.apply, List.countP_append, List.countP_singleton, beq_iff_eq]

/-- What trying a rule can do: nothing, or one application of a rule that is live. -/
theorem tryRule_cases (line : Text) (r : Record σ) (entry : Rule × Nat) :
    tryRule language sink line r entry = r ∨
      isLive r entry ∧ ∃ hit, tryRule language sink line r entry = r.apply sink entry hit := by
  unfold tryRule
  split
  · exact .inl rfl
  · rename_i template hbody
    split
    · rename_i hcap
      split
      · exact .inl rfl
      · split
        · exact .inl rfl
        · refine .inr ⟨?_, _, rfl⟩
          simp [isLive, Rule.isConstant, hbody, hcap]
    · exact .inl rfl

theorem tryRule_of_not_isLive {r : Record σ} {entry : Rule × Nat} (h : isLive r entry = false)
    (line : Text) : tryRule language sink line r entry = r := by
  rcases tryRule_cases line r entry with hsame | ⟨hlive, -⟩
  · exact hsame
  · rw [h] at hlive
    cases hlive

theorem count_tryRule_of_ne {entry : Rule × Nat} {k : Nat} (h : entry.2 ≠ k) (line : Text)
    (r : Record σ) : (tryRule language sink line r entry).count k = r.count k := by
  rcases tryRule_cases line r entry with hsame | ⟨-, hit, happly⟩
  · rw [hsame]
  · rw [happly, count_apply, if_neg h, Nat.add_zero]

theorem count_tryRule_of_mem {entry other : Rule × Nat} {entries : List (Rule × Nat)}
    (hnew : entry.2 ∉ entries.map Prod.snd) (hother : other ∈ entries) (line : Text)
    (r : Record σ) : (tryRule language sink line r entry).count other.2 = r.count other.2 := by
  refine count_tryRule_of_ne (fun heq => hnew ?_) line r
  rw [heq]
  exact List.mem_map_of_mem hother

theorem count_le_count_tryRule (line : Text) (r : Record σ) (entry : Rule × Nat) (k : Nat) :
    r.count k ≤ (tryRule language sink line r entry).count k := by
  rcases tryRule_cases line r entry with hsame | ⟨-, hit, happly⟩
  · exact Nat.le_of_eq (congrArg (Record.count · k) hsame).symm
  · rw [happly, count_apply]
    exact Nat.le_add_right _ _

theorem isLive_congr {r r' : Record σ} {entry : Rule × Nat}
    (h : r.count entry.2 = r'.count entry.2) : isLive r entry = isLive r' entry := by
  rw [isLive, isLive, h]

theorem isLive_of_count_le {r r' : Record σ} {entry : Rule × Nat}
    (h : r.count entry.2 ≤ r'.count entry.2) (hlive : isLive r' entry) : isLive r entry := by
  simp only [isLive, Bool.and_eq_true, Option.all_eq_true, decide_eq_true_eq] at hlive ⊢
  exact ⟨hlive.1, fun cap hcap => Nat.lt_of_le_of_lt h (hlive.2 cap hcap)⟩

/-! ## One line -/

variable {entries : List (Rule × Nat)}

theorem count_tryRules_of_not_mem {k : Nat} (h : k ∉ entries.map Prod.snd) (r : Record σ)
    (line : Text) : (tryRules language sink entries r line).count k = r.count k := by
  induction entries generalizing r with
  | nil => rfl
  | cons entry entries ih =>
    obtain ⟨hk, hks⟩ := not_or.1 (mt List.mem_cons.2 h)
    rw [tryRules, List.foldl_cons]
    exact (ih hks _).trans (count_tryRule_of_ne (Ne.symm hk) line r)

theorem count_le_count_tryRules (r : Record σ) (line : Text) (k : Nat) :
    r.count k ≤ (tryRules language sink entries r line).count k := by
  induction entries generalizing r with
  | nil => exact Nat.le_refl _
  | cons entry entries ih => exact Nat.le_trans (count_le_count_tryRule line r entry k) (ih _)

/-- Only the rules that are live before a line have to be tried on it: an application of one rule
does not change how often another one has applied. -/
theorem tryRules_filter_isLive (hn : (entries.map Prod.snd).Nodup) {r r₀ : Record σ}
    (hcount : ∀ entry ∈ entries, r.count entry.2 = r₀.count entry.2) (line : Text) :
    tryRules language sink (entries.filter (isLive r₀)) r line =
      tryRules language sink entries r line := by
  induction entries generalizing r with
  | nil => rfl
  | cons entry entries ih =>
    obtain ⟨hnew, hn⟩ := List.nodup_cons.1 hn
    obtain ⟨hfirst, hrest⟩ := List.forall_mem_cons.1 hcount
    have hcount' : ∀ other ∈ entries,
        (tryRule language sink line r entry).count other.2 = r₀.count other.2 := by
      intro other hother
      rw [count_tryRule_of_mem hnew hother, hrest other hother]
    by_cases hlive : isLive r₀ entry
    · rw [List.filter_cons_of_pos hlive]
      exact ih hn hcount'
    · rw [List.filter_cons_of_neg hlive]
      have hskip : tryRule language sink line r entry = r := by
        refine tryRule_of_not_isLive ?_ line
        rw [isLive_congr hfirst]
        simpa using hlive
      rw [hskip] at hcount'
      rw [ih hn hcount', tryRules, tryRules, List.foldl_cons, hskip]

theorem tryRules_of_filter_eq_nil (hn : (entries.map Prod.snd).Nodup) {r : Record σ}
    (h : entries.filter (isLive r) = []) (line : Text) :
    tryRules language sink entries r line = r := by
  rw [← tryRules_filter_isLive hn (fun _ _ => rfl), h]
  rfl

theorem foldl_tryRules_of_filter_eq_nil (hn : (entries.map Prod.snd).Nodup) {r : Record σ}
    (h : entries.filter (isLive r) = []) (lines : List Text) :
    lines.foldl (tryRules language sink entries) r = r := by
  induction lines with
  | nil => rfl
  | cons line lines ih => rw [List.foldl_cons, tryRules_of_filter_eq_nil hn h, ih]

/-! ## Constant rules -/

variable {r : Record σ} {entry : Rule × Nat}

theorem count_applyConstant (r : Record σ) (entry : Rule × Nat) (k : Nat) :
    (applyConstant sink r entry).count k =
      r.count k + if (entry.1.isConstant && entry.1.cap != some 0) ∧ entry.2 = k then 1 else 0 := by
  rw [applyConstant]
  by_cases happlies : entry.1.isConstant && entry.1.cap != some 0
  · rw [if_pos happlies, count_apply]
    simp only [happlies, true_and]
  · rw [if_neg happlies, if_neg fun h => happlies h.1, Nat.add_zero]

theorem count_foldl_applyConstant {k : Nat}
    (h : ∀ entry ∈ entries, entry.2 = k → entry.1.isConstant = false) (r : Record σ) :
    (entries.foldl (applyConstant sink) r).count k = r.count k := by
  induction entries generalizing r with
  | nil => rfl
  | cons entry entries ih =>
    obtain ⟨hfirst, hrest⟩ := List.forall_mem_cons.1 h
    rw [List.foldl_cons, ih hrest, count_applyConstant, if_neg, Nat.add_zero]
    rintro ⟨hconstant, hk⟩
    rw [hfirst hk] at hconstant
    cases hconstant

theorem count_eq_zero_of_pattern (hn : (entries.map Prod.snd).Nodup) (state : σ)
    {entry : Rule × Nat} (hentry : entry ∈ entries) (hpattern : entry.1.isConstant = false) :
    (entries.foldl (applyConstant sink) (.start state)).count entry.2 = 0 := by
  refine count_foldl_applyConstant (fun other hother hposition => ?_) (.start state)
  rwa [List.inj_on_of_nodup_map hn hother hentry hposition]

/-! ## Bounds -/

/-- The rule has not applied more often than it may: a constant rule once, whatever it says, and a
pattern rule as often as it says. -/
structure Record.IsWithin (r : Record σ) (entry : Rule × Nat) : Prop where
  constant : entry.1.isConstant → r.count entry.2 ≤ 1
  pattern : entry.1.isConstant = false → ∀ cap, entry.1.cap = some cap → r.count entry.2 ≤ cap

theorem Record.IsWithin.congr {r' : Record σ} (h : r.IsWithin entry)
    (hcount : r'.count entry.2 = r.count entry.2) : r'.IsWithin entry := by
  refine ⟨?_, ?_⟩
  · rw [hcount]
    exact h.constant
  · rw [hcount]
    exact h.pattern

theorem count_foldl_applyConstant_le (hn : (entries.map Prod.snd).Nodup) (r : Record σ) (k : Nat) :
    (entries.foldl (applyConstant sink) r).count k ≤ r.count k + 1 := by
  induction entries generalizing r with
  | nil => exact Nat.le_succ _
  | cons entry entries ih =>
    obtain ⟨hnew, hn⟩ := List.nodup_cons.1 hn
    rw [List.foldl_cons]
    by_cases hk : entry.2 = k
    · have hrest : ∀ other ∈ entries, other.2 = k → other.1.isConstant = false := by
        intro other hother heq
        exact absurd (List.mem_map.2 ⟨other, hother, heq.trans hk.symm⟩) hnew
      rw [count_foldl_applyConstant hrest, count_applyConstant]
      split <;> omega
    · have hle := ih hn (applyConstant sink r entry)
      rwa [count_applyConstant, if_neg fun h => hk h.2, Nat.add_zero] at hle

theorem isWithin_foldl_applyConstant (hn : (entries.map Prod.snd).Nodup) (state : σ)
    {entry : Rule × Nat} (hentry : entry ∈ entries) :
    (entries.foldl (applyConstant sink) (.start state)).IsWithin entry := by
  refine ⟨fun _ => count_foldl_applyConstant_le hn (.start state) entry.2, ?_⟩
  intro hpattern cap _
  rw [count_eq_zero_of_pattern hn state hentry hpattern]
  exact Nat.zero_le cap

theorem isWithin_tryRule {other : Rule × Nat} (h : r.IsWithin other)
    (hsame : entry.2 = other.2 → entry = other) (line : Text) :
    (tryRule language sink line r entry).IsWithin other := by
  by_cases hposition : entry.2 = other.2
  · obtain rfl := hsame hposition
    rcases tryRule_cases line r entry with heq | ⟨hlive, hit, heq⟩
    · rw [heq]
      exact h
    · simp only [isLive, Bool.and_eq_true, Bool.not_eq_true', Option.all_eq_true,
        decide_eq_true_eq] at hlive
      obtain ⟨hpattern, hcap⟩ := hlive
      rw [heq]
      refine ⟨fun hconstant => ?_, fun _ cap hsome => ?_⟩
      · rw [hpattern] at hconstant
        cases hconstant
      · rw [count_apply, if_pos rfl]
        exact hcap cap hsome
  · exact h.congr (count_tryRule_of_ne hposition line r)

theorem isWithin_tryRules {other : Rule × Nat} (h : r.IsWithin other)
    (hsame : ∀ entry ∈ entries, entry.2 = other.2 → entry = other) (line : Text) :
    (tryRules language sink entries r line).IsWithin other := by
  induction entries generalizing r with
  | nil => exact h
  | cons entry entries ih =>
    obtain ⟨hfirst, hrest⟩ := List.forall_mem_cons.1 hsame
    exact ih (isWithin_tryRule h hfirst line) hrest

theorem nodup_positions (rules : List Rule) : (rules.zipIdx.map Prod.snd).Nodup := by
  rw [List.zipIdx_map_snd]
  exact List.nodup_range'

/-- No rule is applied more often than it may. -/
theorem isWithin_pass (set : RuleSet) (kind : RuleKind) (state : σ) (stream : Stream) :
    ∀ entry ∈ (set.rulesOf kind).zipIdx,
      (pass language set kind sink state stream).IsWithin entry := by
  intro entry hentry
  have hn := nodup_positions (set.rulesOf kind)
  rw [pass]
  refine List.foldlRecOn (motive := (Record.IsWithin · entry)) _ _
    (isWithin_foldl_applyConstant hn state hentry) ?_
  intro r h line _
  refine isWithin_tryRules h (fun other hother hposition => ?_) line
  exact List.inj_on_of_nodup_map hn hother hentry hposition

/-! ## Traces -/

/-- A record of a traced sink. -/
def Record.traced (r : Record σ) : Record (σ × List (Rule × Hit)) :=
  ⟨(r.state, r.applications.map fun a => (a.rule, a.hit)), r.applications⟩

theorem apply_traced (r : Record σ) (entry : Rule × Nat) (hit : Hit) :
    r.traced.apply sink.traced entry hit = (r.apply sink entry hit).traced := by
  simp only [Record.apply, Record.traced, Sink.traced, List.map_append, List.map_singleton]

theorem applyConstant_traced (r : Record σ) (entry : Rule × Nat) :
    applyConstant sink.traced r.traced entry = (applyConstant sink r entry).traced := by
  unfold applyConstant
  split
  · exact apply_traced r entry _
  · rfl

theorem tryRule_traced (line : Text) (r : Record σ) (entry : Rule × Nat) :
    tryRule language sink.traced line r.traced entry =
      (tryRule language sink line r entry).traced := by
  have hexpand (template : Text) :
      sink.traced.expand r.traced.state template = sink.expand r.state template := rfl
  have hcount (k : Nat) : r.traced.count k = r.count k := rfl
  unfold tryRule
  simp only [hexpand, hcount, apply_traced]
  split
  · rfl
  · split
    · split
      · rfl
      · split <;> rfl
    · rfl

theorem pass_traced (set : RuleSet) (kind : RuleKind) (state : σ) (stream : Stream) :
    pass language set kind sink.traced (state, []) stream =
      (pass language set kind sink state stream).traced := by
  have hrules (entries : List (Rule × Nat)) (r : Record σ) (line : Text) :
      tryRules language sink.traced entries r.traced line =
        (tryRules language sink entries r line).traced :=
    List.foldl_hom Record.traced (tryRule_traced line)
  have hconstants : (set.rulesOf kind).zipIdx.foldl (applyConstant sink.traced)
      (Record.start state).traced =
        ((set.rulesOf kind).zipIdx.foldl (applyConstant sink) (.start state)).traced :=
    List.foldl_hom Record.traced applyConstant_traced
  rw [pass, pass, ← List.foldl_hom Record.traced (hrules _), ← hconstants]
  rfl

end PlainPass

end SourceAtlas
