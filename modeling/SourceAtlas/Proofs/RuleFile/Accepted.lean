import SourceAtlas.Proofs.RuleFile.Marks
import SourceAtlas.Proofs.RuleFile.Statements

/-!
# What reading a rule file leaves

Every mark and every rule that is read from a file is readable: written down in the form of the
printer, its texts are found again. Reading one line keeps this, and so does reading all of them.
The file may have a fault later on; the statements here are about the lines up to it.
-/

namespace SourceAtlas

open Text (IsTrimmed IsInt64)

/-! ## Readable rules -/

def RuleBody.IsReadable (language : Pattern.Language) : RuleBody → Prop
  | .pattern p => RuleFile.IsPattern language p
  | .constant v => v.IsReadable

structure Rule.IsReadable (language : Pattern.Language) (rule : Rule) : Prop where
  name_ne_nil : rule.name ≠ []
  name : RuleFile.IsName rule.name
  body : rule.body.IsReadable language
  conditions : ∀ c ∈ rule.conditions, RuleFile.IsPhrase c
  total : ∀ n ∈ rule.total, IsInt64 n

structure RuleSet.IsReadable (language : Pattern.Language) (set : RuleSet) : Prop where
  comments : ∀ mark ∈ set.comments, mark.IsReadable
  literals : ∀ mark ∈ set.literals, mark.IsReadable
  rules : ∀ rule ∈ set.rules, rule.IsReadable language

namespace RuleFile

variable {language : Pattern.Language}

theorem Draft.isReadable_finish {draft : Draft} {current : Option RuleKind} {rule : Rule}
    (h : draft.finish current = .ok rule) (hd : draft.IsReadable language) :
    rule.IsReadable language := by
  unfold Draft.finish at h
  split at h
  · cases h
  · simp only at h
    split at h
    · cases h
    · rename_i hname
      have hne : draft.name ≠ [] := by simpa using hname
      split at h
      · rename_i p hp hv
        cases h
        exact ⟨hne, hd.name.resolve_left hne, hd.pattern p hp, hd.conditions, hd.total⟩
      · rename_i v hp hv
        cases h
        exact ⟨hne, hd.name.resolve_left hne, hd.value v hv, hd.conditions, hd.total⟩
      · cases h

namespace Reading

structure IsReadable (language : Pattern.Language) (r : Reading) : Prop where
  set : r.set.IsReadable language
  draft : ∀ draft ∈ r.draft, draft.IsReadable language

theorem isReadable_initial : initial.IsReadable language := by
  refine ⟨⟨?_, ?_, ?_⟩, ?_⟩ <;> intro _ h <;> cases h

/-! ## One line -/

theorem isReadable_closeRule {r : Reading} (h : r.IsReadable language) :
    r.closeRule.IsReadable language := by
  unfold closeRule
  split
  · exact h
  · rename_i draft hdraft
    split
    · rename_i rule hrule
      refine ⟨{ h.set with rules := ?_ }, by simp⟩
      intro rule' hmem
      rcases List.mem_append.1 hmem with hmem | hmem
      · exact h.set.rules rule' hmem
      · obtain rfl := List.mem_singleton.1 hmem
        exact Draft.isReadable_finish hrule (h.draft draft hdraft)
    · exact ⟨h.set, by simp⟩

theorem isReadable_body {r r' : Reading} {t : Text} (h : r.body language t = .ok r')
    (hr : r.IsReadable language) (hn : '\n' ∉ t) : r'.IsReadable language := by
  fun_induction body language r t with
  | case1 r t ht =>
    cases h
    exact hr
  | case2 r t u hu ht ih =>
    refine ih h (isReadable_closeRule hr) fun hmem => hn ?_
    refine (Text.trimStart_suffix t).subset ?_
    rw [hu]
    exact List.mem_cons_of_mem _ hmem
  | case3 => cases h
  | case4 => cases h
  | case5 r t c u ht hu hc draft hdraft draft' rest hs hlen ih =>
    have hstart : '\n' ∉ c :: u := by
      rw [← ht]
      exact fun hmem => hn ((Text.trimStart_suffix t).subset hmem)
    obtain ⟨hd, hrest⟩ := statement_isReadable hs (hr.draft draft hdraft) hstart
    refine ih h ⟨hr.set, ?_⟩ fun hmem => hstart (hrest.subset hmem)
    intro d hmem
    cases hmem
    exact hd

theorem isReadable_addComments {r r' : Reading} {line : Text} (h : r.addComments line = .ok r')
    (hr : r.IsReadable language) (hn : '\n' ∉ line) : r'.IsReadable language := by
  unfold addComments at h
  obtain ⟨gs, hgs, h⟩ := bind_eq_ok h
  obtain ⟨marks, hmarks, h⟩ := bind_eq_ok h
  cases h
  refine ⟨{ hr.set with comments := ?_ }, hr.draft⟩
  intro mark hmem
  rcases List.mem_append.1 hmem with hmem | hmem
  · exact hr.set.comments mark hmem
  · obtain ⟨g, hg, hmark⟩ := exists_of_mem_mapM hmarks hmem
    obtain ⟨hunbroken, hsubset⟩ := mem_groups hgs hg
    exact CommentMark.isReadable_of_group hmark hunbroken fun hc => hn (hsubset hc)

theorem isReadable_addLiterals {r r' : Reading} {line : Text} (h : r.addLiterals line = .ok r')
    (hr : r.IsReadable language) (hn : '\n' ∉ line) : r'.IsReadable language := by
  unfold addLiterals at h
  obtain ⟨gs, hgs, h⟩ := bind_eq_ok h
  obtain ⟨marks, hmarks, h⟩ := bind_eq_ok h
  cases h
  refine ⟨{ hr.set with literals := ?_ }, hr.draft⟩
  intro mark hmem
  rcases List.mem_append.1 hmem with hmem | hmem
  · exact hr.set.literals mark hmem
  · obtain ⟨g, hg, hmark⟩ := exists_of_mem_mapM hmarks hmem
    obtain ⟨-, hsubset⟩ := mem_groups hgs hg
    exact LiteralMark.isReadable_of_group hmark fun hc => hn (hsubset hc)

theorem lists_iff {name line : Text} : lists name line ↔ name <+: line ∧ '=' ∈ line := by
  rw [lists, Bool.and_eq_true, List.isPrefixOf_iff_prefix, List.any_beq']
  simp

theorem header?_eq_none {line : Text} :
    header? line = none ↔ ∀ kind : RuleKind, ¬kind.header <+: line := by
  rw [header?, List.find?_eq_none]
  constructor
  · intro h kind
    have := h kind (by cases kind <;> simp [RuleKind.all])
    simpa using this
  · intro h kind _
    simpa using h kind

/-- The name in front of the opening brace, if the line is neither a list nor a header. -/
theorem isName_trim_takeWhile {line : Text} (hline : IsTrimmed line) (hhash : line.head? ≠ some '#')
    (hn : '\n' ∉ line) (hcomments : ¬lists "Comments".toList line)
    (htext : ¬lists "Text".toList line) (hheader : header? line = none) :
    Text.trim (line.takeWhile (· != '{')) = [] ∨
      IsName (Text.trim (line.takeWhile (· != '{'))) := by
  cases hname : Text.trim (line.takeWhile (· != '{')) with
  | nil => exact .inl rfl
  | cons c u =>
    right
    rw [← hname]
    have hbefore : line.takeWhile (· != '{') <+: line := List.takeWhile_prefix _
    have hhead {a : Text} (ha : a <+: line) {d : Char} (hd : d ∈ a.head?) : d ∈ line.head? := by
      obtain ⟨b, rfl⟩ := ha
      rw [List.head?_append, Option.mem_def.1 hd]
      rfl
    -- The name is a prefix of the line, because a trimmed line has no blank in front of it.
    have hstart : Text.trim (line.takeWhile (· != '{')) <+: line := by
      refine (Text.trim_isPrefix fun d hd => ?_).trans hbefore
      exact hline.head d (hhead hbefore hd)
    refine ⟨Text.isTrimmed_trim _, ?_, fun h => hn (hstart.subset h), ?_, ?_, ?_, ?_⟩
    · intro h
      have := List.mem_takeWhile_imp (Text.mem_of_mem_trim h)
      simp at this
    · intro h
      exact hhash (hhead hstart h)
    · rintro ⟨hword, heq⟩
      exact hcomments (lists_iff.2 ⟨hword.trans hstart, hstart.subset heq⟩)
    · rintro ⟨hword, heq⟩
      exact htext (lists_iff.2 ⟨hword.trans hstart, hstart.subset heq⟩)
    · intro kind hkind
      exact header?_eq_none.1 hheader kind (hkind.trans hstart)

theorem isReadable_outside {r r' : Reading} {number : Nat} {line : Text}
    (h : r.outside language number line = .ok r') (hr : r.IsReadable language)
    (hline : IsTrimmed line) (hhash : line.head? ≠ some '#') (hn : '\n' ∉ line) :
    r'.IsReadable language := by
  unfold outside at h
  split at h
  · exact isReadable_addComments (mapError_eq_ok h) hr hn
  · rename_i hcomments
    split at h
    · exact isReadable_addLiterals (mapError_eq_ok h) hr hn
    · rename_i htext
      split at h
      · cases h
        exact ⟨hr.set, hr.draft⟩
      · rename_i hheader
        split at h
        · have hname := isName_trim_takeWhile hline hhash hn hcomments htext hheader
          refine isReadable_body h ⟨hr.set, ?_⟩ ?_
          · intro draft hmem
            cases hmem
            exact Draft.isReadable_start hname number
          · intro hmem
            exact hn ((List.dropWhile_suffix _).subset (List.mem_of_mem_drop hmem))
        · split at h
          · cases h
            exact hr
          · cases h

theorem isReadable_line {r r' : Reading} {number : Nat} {raw : Text}
    (h : r.line language number raw = .ok r') (hr : r.IsReadable language) (hn : '\n' ∉ raw) :
    r'.IsReadable language := by
  have hline : '\n' ∉ Text.trim raw := fun hmem => hn (Text.mem_of_mem_trim hmem)
  unfold line at h
  simp only at h
  split at h
  · cases h
    exact hr
  · rename_i hsays
    have hhash : (Text.trim raw).head? ≠ some '#' := by
      simp only [Bool.or_eq_true, decide_eq_true_eq, not_or] at hsays
      exact hsays.2
    split at h
    · exact isReadable_outside h hr (Text.isTrimmed_trim raw) hhash hline
    · exact isReadable_body h hr hline

/-! ## All lines -/

theorem isReadable_lines {r r' : Reading} {number : Nat} {ls : List Text}
    (h : r.lines language number ls = .ok r') (hr : r.IsReadable language)
    (hn : ∀ l ∈ ls, '\n' ∉ l) : r'.IsReadable language := by
  induction ls generalizing r number with
  | nil =>
    cases h
    exact hr
  | cons raw rest ih =>
    rw [lines] at h
    split at h
    · cases h
    · rename_i r₁ hline
      exact ih h (isReadable_line hline hr (hn raw List.mem_cons_self))
        fun l hl => hn l (List.mem_cons_of_mem _ hl)

end Reading

/-- Whatever a rule file is read as can be written down and read again. -/
theorem isReadable_parse {text : Text} {set : RuleSet} (h : (parse language text).1 = .ok set) :
    set.IsReadable language := by
  unfold parse at h
  split at h
  · rename_i r hlines
    cases h
    exact (Reading.isReadable_lines hlines Reading.isReadable_initial
      fun l hl => Text.newline_not_mem_lines hl).set
  · cases h

end RuleFile

end SourceAtlas
