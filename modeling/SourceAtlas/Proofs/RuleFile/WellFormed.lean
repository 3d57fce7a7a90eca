import SourceAtlas.Proofs.RuleFile.Accepted

/-!
# Well-formed rule sets

What a rule set that was read from a file can be relied on for, said of the set alone and without
the notation of the file: marks and names are there and have no white space around them, patterns
are patterns, conditions end where they seem to end, and nothing runs over the end of a line.
Stripping and printing count on this and do not check it.
-/

namespace SourceAtlas

open Text (IsTrimmed)

/-! ## Terminators between quotes -/

namespace RuleFile

/-- Every semicolon and every closing brace stands between double quotes: there is an odd number of
quotes before it. -/
def TerminatorsQuoted (t : Text) : Prop :=
  ∀ before c after, t = before ++ c :: after → c = ';' ∨ c = '}' → ¬Even (before.count '"')

/-- What is read up to a terminator holds terminators only where a quote is open. -/
theorem Contained.quotedAfter {quoted : Bool} {t : Text} (h : Contained quoted t)
    {before after : Text} {c : Char} (ht : t = before ++ c :: after) (hc : c = ';' ∨ c = '}') :
    quotedAfter quoted before = true := by
  induction before generalizing quoted t with
  | nil =>
    rw [ht, List.nil_append] at h
    exact (contained_cons.1 h).1 hc
  | cons d before ih =>
    rw [ht, List.cons_append] at h
    exact ih (contained_cons.1 h).2 rfl

theorem IsPhrase.terminatorsQuoted {t : Text} (h : IsPhrase t) : TerminatorsQuoted t := by
  intro before c after ht hc
  have hopen := h.contained.quotedAfter ht hc
  rw [quotedAfter_eq] at hopen
  simpa using hopen

end RuleFile

/-! ## The texts of a rule set -/

def ValueExpr.texts : ValueExpr → List Text
  | literal text | token text | other text => [text]
  | binary lhs _ rhs => [lhs, rhs]

def RuleBody.texts : RuleBody → List Text
  | .pattern p => [p]
  | .constant v => v.texts

def Rule.texts (rule : Rule) : List Text := rule.name :: rule.body.texts ++ rule.conditions

/-- All texts of a rule set: its marks, and the names, patterns, values and conditions of its
rules. -/
def RuleSet.texts (set : RuleSet) : List Text :=
  (set.comments.flatMap fun mark => [mark.start, mark.stop]) ++
    set.literals.flatMap LiteralMark.elements ++ set.rules.flatMap Rule.texts

theorem ValueExpr.subset_print {v : ValueExpr} {t : Text} (h : t ∈ v.texts) : t ⊆ v.print := by
  cases v with
  | literal text =>
    obtain rfl := List.mem_singleton.1 h
    intro c hc
    simp [print, hc]
  | token text =>
    obtain rfl := List.mem_singleton.1 h
    exact fun c hc => hc
  | binary lhs op rhs =>
    rcases List.mem_pair.1 h with rfl | rfl
    · intro c hc
      simp [print, hc]
    · intro c hc
      simp [print, hc]
  | other text =>
    obtain rfl := List.mem_singleton.1 h
    exact fun c hc => hc

/-! ## Well-formed sets -/

structure CommentMark.IsWellFormed (mark : CommentMark) : Prop where
  start_ne_nil : mark.start ≠ []
  start_trimmed : IsTrimmed mark.start
  start_comma : ',' ∉ mark.start
  stop_trimmed : IsTrimmed mark.stop

/-- What holds of the start, of the end and of every exception. -/
structure LiteralMark.IsWellFormed (mark : LiteralMark) : Prop where
  ne_nil : ∀ x ∈ mark.elements, x ≠ []
  trimmed : ∀ x ∈ mark.elements, IsTrimmed x
  comma : ∀ x ∈ mark.elements, ',' ∉ x

structure Rule.IsWellFormed (language : Pattern.Language) (rule : Rule) : Prop where
  name_ne_nil : rule.name ≠ []
  name_trimmed : IsTrimmed rule.name
  name_brace : '{' ∉ rule.name
  pattern : ∀ p, rule.body = .pattern p → ∃ find, language p = .ok find
  value : ∀ v, rule.body = .constant v → v.print ≠ []
  condition_ne_nil : ∀ c ∈ rule.conditions, c ≠ []
  condition_trimmed : ∀ c ∈ rule.conditions, IsTrimmed c
  condition_quoted : ∀ c ∈ rule.conditions, RuleFile.TerminatorsQuoted c

structure RuleSet.IsWellFormed (language : Pattern.Language) (set : RuleSet) : Prop where
  comments : ∀ mark ∈ set.comments, mark.IsWellFormed
  literals : ∀ mark ∈ set.literals, mark.IsWellFormed
  rules : ∀ rule ∈ set.rules, rule.IsWellFormed language
  newline : ∀ t ∈ set.texts, '\n' ∉ t

variable {language : Pattern.Language}

theorem CommentMark.IsReadable.isWellFormed {mark : CommentMark} (h : mark.IsReadable) :
    mark.IsWellFormed :=
  ⟨h.start.ne_nil, h.start.trimmed, h.start.comma, h.stop_trimmed⟩

theorem LiteralMark.IsReadable.isWellFormed {mark : LiteralMark} (h : mark.IsReadable) :
    mark.IsWellFormed :=
  ⟨fun x hx => (h.element x hx).ne_nil, fun x hx => (h.element x hx).trimmed,
    fun x hx => (h.element x hx).comma⟩

theorem ValueExpr.IsReadable.print_ne_nil {v : ValueExpr} (h : v.IsReadable) : v.print ≠ [] := by
  cases h with
  | quoted => exact List.cons_ne_nil _ _
  | phrase hphrase => exact (isPhrase_print_parse hphrase).ne_nil

namespace Rule.IsReadable

variable {rule : Rule}

theorem isWellFormed (h : rule.IsReadable language) : rule.IsWellFormed language := by
  have hbody := h.body
  refine ⟨h.name_ne_nil, h.name.trimmed, h.name.brace, ?_, ?_,
    fun c hc => (h.conditions c hc).ne_nil, fun c hc => (h.conditions c hc).trimmed,
    fun c hc => (h.conditions c hc).terminatorsQuoted⟩
  · intro p hp
    rw [hp] at hbody
    exact hbody.accepted
  · intro v hv
    rw [hv] at hbody
    exact hbody.print_ne_nil

theorem newline_not_mem (h : rule.IsReadable language) : ∀ t ∈ rule.texts, '\n' ∉ t := by
  have hbody := h.body
  intro t ht
  rcases List.mem_cons.1 ht with rfl | ht
  · exact h.name.newline
  · rcases List.mem_append.1 ht with ht | ht
    · cases hp : rule.body with
      | pattern p =>
        rw [hp] at hbody ht
        obtain rfl := List.mem_singleton.1 ht
        exact hbody.newline
      | constant v =>
        rw [hp] at hbody ht
        exact fun hn => hbody.newline_not_mem_print (ValueExpr.subset_print ht hn)
    · exact (h.conditions t ht).newline

end Rule.IsReadable

theorem RuleSet.IsReadable.newline_not_mem {set : RuleSet} (h : set.IsReadable language) :
    ∀ t ∈ set.texts, '\n' ∉ t := by
  intro t ht
  simp only [RuleSet.texts, List.mem_append, List.mem_flatMap] at ht
  rcases ht with (⟨mark, hmark, ht⟩ | ⟨mark, hmark, ht⟩) | ⟨rule, hrule, ht⟩
  · rcases List.mem_pair.1 ht with rfl | rfl
    · exact (h.comments mark hmark).start.newline
    · exact (h.comments mark hmark).stop_newline
  · exact ((h.literals mark hmark).element t ht).newline
  · exact (h.rules rule hrule).newline_not_mem t ht

namespace RuleFile

/-- Every rule set that is read from a file is well-formed. -/
theorem parse_isWellFormed {text : Text} {set : RuleSet} (h : (parse language text).1 = .ok set) :
    set.IsWellFormed language := by
  have hset := isReadable_parse h
  exact ⟨fun mark hmark => (hset.comments mark hmark).isWellFormed,
    fun mark hmark => (hset.literals mark hmark).isWellFormed,
    fun rule hrule => (hset.rules rule hrule).isWellFormed, hset.newline_not_mem⟩

/-- A comment without an end, a literal with one mark, and a rule over several lines whose
conditions hold terminators between quotes, the last of which is not closed. -/
theorem parse_isWellFormed_open_quote :
    let language : Pattern.Language := fun p =>
      if p.isEmpty then .error .malformed else .ok fun _ => none
    let text : Text := ["Comments=[[ // ], [ <!-- , --> ]]", "Text = [[ ' ], [ \" ,, \\\" , \" ]]",
      "Dependencies", " use of  \x7b pattern: \"\"x\"\" ; condition: \";\x7d\" ;",
      "# between", "condition: a \"b; c\x7d", "\x7d"].flatMap (·.toList ++ ['\n'])
    let set : RuleSet := ⟨[⟨"//".toList, []⟩, ⟨"<!--".toList, "-->".toList⟩],
      [⟨['\''], ['\''], []⟩, ⟨['"'], ['"'], ["\\\"".toList]⟩],
      [⟨"use of".toList, .dependencies, .pattern "\"x\"".toList,
        ["\";\x7d\"".toList, "a \"b; c\x7d".toList], none, false, false⟩]⟩
    (parse language text).1 = .ok set ∧ set.IsWellFormed language := by
  intro language text set
  have hread : (parse language text).1 = .ok set := by decide +kernel
  exact ⟨hread, parse_isWellFormed hread⟩

end RuleFile

end SourceAtlas
