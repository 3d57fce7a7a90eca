import SourceAtlas.Proofs.Text.Cutting
import SourceAtlas.Rule.Parser

/-!
# Beginnings of rule files

A rule file is read from the top, and no line takes back what earlier lines have said. Reading only
adds marks and rules behind those that are there, so the beginning of an accepted file is accepted
and yields the beginning of the set. A fault is decided at the line that it names: the lines before
it are in order, and whatever follows it, the answer is the same.
-/

namespace SourceAtlas

/-! ## The first lines of a text -/

namespace Text

/-- The first lines of a text, with the characters that end them. -/
def firstLines : Nat → Text → Text
  | 0, _ => []
  | _ + 1, [] => []
  | k + 1, c :: t => c :: firstLines (if c = '\n' then k else k + 1) t

theorem firstLines_zero (t : Text) : firstLines 0 t = [] := by rw [firstLines]

theorem firstLines_isPrefix (k : Nat) (t : Text) : firstLines k t <+: t := by
  induction t generalizing k with
  | nil => cases k <;> exact List.nil_prefix
  | cons c t ih =>
    cases k with
    | zero => exact firstLines_zero (c :: t) ▸ List.nil_prefix
    | succ k =>
      rw [firstLines]
      exact List.cons_prefix_cons.2 ⟨rfl, ih _⟩

/-- A carriage return ends a line among the first lines if it does so in the whole text. -/
theorem lines_cons_firstLines {c : Char} {t : Text} (hn : c ≠ '\n')
    (hr : ∀ u, c = '\r' → t ≠ '\n' :: u) (k : Nat) :
    lines (c :: firstLines (k + 1) t) =
      match lines (firstLines (k + 1) t) with
      | [] => [[c]]
      | l :: ls => (c :: l) :: ls := by
  refine lines_cons hn fun hc => ?_
  cases t with
  | nil => simp [firstLines]
  | cons d u =>
    rw [firstLines, List.head?_cons, Ne, Option.some.injEq]
    rintro rfl
    exact hr u hc rfl

/-- They are read as the first of the lines that the whole text is read as. -/
theorem lines_firstLines (k : Nat) (t : Text) : lines (firstLines k t) = (lines t).take k := by
  fun_induction lines t generalizing k with
  | case1 => cases k <;> rfl
  | case2 t ih =>
    cases k with
    | zero => rw [firstLines_zero, List.take_zero, lines]
    | succ k => rw [firstLines, if_pos rfl, lines, List.take_succ_cons, ih]
  | case3 t ih =>
    cases k with
    | zero => rw [firstLines_zero, List.take_zero, lines]
    | succ k =>
      rw [firstLines, if_neg (by decide), firstLines, if_pos rfl, lines, List.take_succ_cons, ih]
  | case4 c t hn hr heq ih =>
    cases k with
    | zero => rw [firstLines_zero, List.take_zero, lines]
    | succ k =>
      rw [firstLines, if_neg hn, lines_cons_firstLines hn hr, ih, heq, List.take_nil,
        List.take_succ_cons, List.take_nil]
  | case5 c t hn hr first rest heq ih =>
    cases k with
    | zero => rw [firstLines_zero, List.take_zero, lines]
    | succ k =>
      rw [firstLines, if_neg hn, lines_cons_firstLines hn hr, ih, heq]
      rfl

end Text

/-! ## What is read stays -/

/-- The second set is the first one with marks and rules added behind its own. -/
structure RuleSet.IsPrefix (set set' : RuleSet) : Prop where
  comments : set.comments <+: set'.comments
  literals : set.literals <+: set'.literals
  rules : set.rules <+: set'.rules

namespace RuleSet.IsPrefix

theorem refl (set : RuleSet) : set.IsPrefix set :=
  ⟨List.prefix_rfl, List.prefix_rfl, List.prefix_rfl⟩

theorem trans {set₁ set₂ set₃ : RuleSet} (h₁ : set₁.IsPrefix set₂) (h₂ : set₂.IsPrefix set₃) :
    set₁.IsPrefix set₃ :=
  ⟨h₁.comments.trans h₂.comments, h₁.literals.trans h₂.literals, h₁.rules.trans h₂.rules⟩

end RuleSet.IsPrefix

namespace RuleFile.Reading

variable {language : Pattern.Language} {r r' : Reading} {number : Nat}

theorem isPrefix_closeRule (r : Reading) : r.set.IsPrefix r.closeRule.set := by
  unfold closeRule
  split
  · exact .refl _
  · split
    · exact { RuleSet.IsPrefix.refl r.set with rules := List.prefix_append _ _ }
    · exact .refl _

theorem isPrefix_body {t : Text} (h : r.body language t = .ok r') : r.set.IsPrefix r'.set := by
  fun_induction body language r t with
  | case1 r t ht =>
    cases h
    exact .refl _
  | case2 r t u hu ht ih => exact (isPrefix_closeRule r).trans (ih h)
  | case3 => cases h
  | case4 => cases h
  | case5 r t c u ht hu hc draft hdraft draft' rest hs hlen ih => exact ih h

theorem isPrefix_addComments {line : Text} (h : r.addComments line = .ok r') :
    r.set.IsPrefix r'.set := by
  obtain ⟨gs, -, h⟩ := bind_eq_ok h
  obtain ⟨marks, -, h⟩ := bind_eq_ok h
  cases h
  exact { RuleSet.IsPrefix.refl r.set with comments := List.prefix_append _ _ }

theorem isPrefix_addLiterals {line : Text} (h : r.addLiterals line = .ok r') :
    r.set.IsPrefix r'.set := by
  obtain ⟨gs, -, h⟩ := bind_eq_ok h
  obtain ⟨marks, -, h⟩ := bind_eq_ok h
  cases h
  exact { RuleSet.IsPrefix.refl r.set with literals := List.prefix_append _ _ }

theorem isPrefix_outside {line : Text} (h : r.outside language number line = .ok r') :
    r.set.IsPrefix r'.set := by
  unfold outside at h
  split at h
  · exact isPrefix_addComments (mapError_eq_ok h)
  · split at h
    · exact isPrefix_addLiterals (mapError_eq_ok h)
    · split at h
      · cases h
        exact .refl _
      · split at h
        · have hbody := isPrefix_body h
          exact hbody
        · split at h
          · cases h
            exact .refl _
          · cases h

/-- A line adds to the set and takes nothing away. -/
theorem isPrefix_line {raw : Text} (h : r.line language number raw = .ok r') :
    r.set.IsPrefix r'.set := by
  unfold line at h
  dsimp only at h
  split at h
  · cases h
    exact .refl _
  · split at h
    · exact isPrefix_outside h
    · exact isPrefix_body h

theorem isPrefix_lines {ls : List Text} (h : r.lines language number ls = .ok r') :
    r.set.IsPrefix r'.set := by
  induction ls generalizing r number with
  | nil =>
    cases h
    exact .refl _
  | cons raw rest ih =>
    rw [lines] at h
    split at h
    · cases h
    · rename_i r₁ hline
      exact (isPrefix_line hline).trans (ih h)

/-! ## Lines one after the other -/

theorem lines_append (r : Reading) (number : Nat) (ls rest : List Text) :
    r.lines language number (ls ++ rest) =
      r.lines language number ls >>= fun r' => r'.lines language (number + ls.length) rest := by
  induction ls generalizing r number with
  | nil => rfl
  | cons raw ls ih =>
    rw [List.cons_append, lines, lines, List.length_cons]
    split
    · rfl
    · rw [ih, Nat.add_assoc, Nat.add_comm 1]

/-- A fault is decided at the line that it names, by what was read of the lines before it. -/
theorem exists_line_of_lines_eq_error {ls : List Text} {e : Error}
    (h : r.lines language number ls = .error (e, r')) :
    ∃ before raw after r₁, ls = before ++ raw :: after ∧ e.line = number + before.length ∧
      r.lines language number before = .ok r₁ ∧
      r₁.line language e.line raw = .error (e.fault, r') := by
  induction ls generalizing r number with
  | nil => cases h
  | cons raw rest ih =>
    rw [lines] at h
    split at h
    · rename_i fault r₁ hline
      cases h
      exact ⟨[], raw, rest, r, rfl, rfl, rfl, hline⟩
    · rename_i r₁ hline
      obtain ⟨before, raw', after, r₂, rfl, hnumber, hbefore, hfault⟩ := ih h
      refine ⟨raw :: before, raw', after, r₂, rfl, ?_, ?_, hfault⟩
      · rw [hnumber, List.length_cons]
        omega
      · rw [lines, hline]
        exact hbefore

/-- Whatever follows the line of a fault, the fault is the same. -/
theorem lines_eq_error_of_line {before : List Text} {raw : Text} {r₁ : Reading} {e : Error}
    (hbefore : r.lines language number before = .ok r₁) (hnumber : e.line = number + before.length)
    (hfault : r₁.line language e.line raw = .error (e.fault, r')) (rest : List Text) :
    r.lines language number (before ++ raw :: rest) = .error (e, r') := by
  have hrest : r₁.lines language (number + before.length) (raw :: rest) = .error (e, r') := by
    rw [lines, ← hnumber, hfault]
  rw [lines_append, hbefore]
  exact hrest

end RuleFile.Reading

/-! ## Whole files -/

namespace RuleFile

variable {language : Pattern.Language} {text beginning : Text} {k : Nat}

theorem parse_fst_eq_ok {set : RuleSet} : (parse language text).1 = .ok set ↔
    ∃ r, Reading.initial.lines language 1 (Text.lines text) = .ok r ∧ r.set = set := by
  unfold parse
  split <;> rename_i h <;> simp [h]

theorem parse_eq_error {e : Error} {notices : List Notice} :
    parse language text = (.error e, notices) ↔
      ∃ r, Reading.initial.lines language 1 (Text.lines text) = .error (e, r) ∧
        r.notices = notices := by
  unfold parse
  split <;> rename_i h <;> simp [h]

/-- The beginning of an accepted file is accepted, with the beginning of the set. -/
theorem exists_parse_of_lines_eq_take {set : RuleSet} (h : (parse language text).1 = .ok set)
    (hbeginning : Text.lines beginning = (Text.lines text).take k) :
    ∃ set', (parse language beginning).1 = .ok set' ∧ set'.IsPrefix set := by
  obtain ⟨r, hlines, rfl⟩ := parse_fst_eq_ok.1 h
  rw [← List.take_append_drop k (Text.lines text), ← hbeginning, Reading.lines_append] at hlines
  obtain ⟨r₁, hfirst, hrest⟩ := bind_eq_ok hlines
  exact ⟨r₁.set, parse_fst_eq_ok.2 ⟨r₁, hfirst, rfl⟩, Reading.isPrefix_lines hrest⟩

/-- A rule file is decided from the top. If it is accepted, so is every beginning of it, with a
beginning of its marks and rules. If it has a fault, the lines before the one that the fault names
are accepted, and every file with the same lines up to there has the same fault and notices. -/
theorem parse_decided_from_top (language : Pattern.Language) (text : Text) (k : Nat) :
    Text.firstLines k text <+: text ∧
    Text.lines (Text.firstLines k text) = (Text.lines text).take k ∧
    (∀ set, (parse language text).1 = .ok set →
      ∀ beginning, Text.lines beginning = (Text.lines text).take k →
        ∃ set', (parse language beginning).1 = .ok set' ∧ set'.IsPrefix set) ∧
    ∀ e notices, parse language text = (.error e, notices) →
      1 ≤ e.line ∧ e.line ≤ (Text.lines text).length ∧
      (∀ before, Text.lines before = (Text.lines text).take (e.line - 1) →
        ∃ set, (parse language before).1 = .ok set) ∧
      ∀ other, (Text.lines other).take e.line = (Text.lines text).take e.line →
        parse language other = (.error e, notices) := by
  refine ⟨Text.firstLines_isPrefix k text, Text.lines_firstLines k text,
    fun set h beginning => exists_parse_of_lines_eq_take h, ?_⟩
  intro e notices h
  obtain ⟨r, hlines, rfl⟩ := parse_eq_error.1 h
  obtain ⟨before, raw, after, r₁, htext, hline, hbefore, hfault⟩ :=
    Reading.exists_line_of_lines_eq_error hlines
  rw [Nat.add_comm] at hline
  have hfirst : (Text.lines text).take (e.line - 1) = before := by
    rw [hline, htext, Nat.add_sub_cancel, List.take_left]
  have hnamed : (Text.lines text).take e.line = before ++ [raw] := by
    rw [hline, htext, List.take_length_add_append, List.take_succ_cons, List.take_zero]
  refine ⟨by omega, ?_, ?_, ?_⟩
  · rw [hline, htext, List.length_append, List.length_cons]
    omega
  · intro top htop
    exact ⟨r₁.set, parse_fst_eq_ok.2 ⟨r₁, by rw [htop, hfirst, hbefore], rfl⟩⟩
  · intro other hother
    have hsplit : Text.lines other = before ++ raw :: (Text.lines other).drop e.line := by
      rw [List.append_cons, ← hnamed, ← hother, List.take_append_drop]
    refine parse_eq_error.2 ⟨r, ?_, rfl⟩
    rw [hsplit]
    exact Reading.lines_eq_error_of_line hbefore (by omega) hfault _

/-- A file with a fault in its last line, inside the second rule. The lines before it are accepted,
and so are the first three of these, where the first rule is still open. -/
theorem parse_decided_from_top_second_rule :
    let language : Pattern.Language := fun p =>
      if p = ['('] then .error .malformed else .ok fun _ => none
    let text : Text := ["Comments = [[//, ]]", "Identifiers", "a \x7b pattern: \"x\";",
      "hidden; \x7d", "b \x7b total_number: 2;", "pattern: \"(\"; \x7d"].flatMap
        (·.toList ++ ['\n'])
    let e : Error := ⟨6, .invalidPattern ['b'] .malformed⟩
    let set : RuleSet := ⟨[⟨"//".toList, []⟩], [],
      [⟨['a'], .identifiers, .pattern ['x'], [], none, true, false⟩]⟩
    parse language text = (.error e, []) ∧
      (parse language (text ++ "c \x7b".toList) = (.error e, [])) ∧
      (∃ before, (parse language (Text.firstLines 5 text)).1 = .ok before) ∧
      (parse language (Text.firstLines 4 text)).1 = .ok set ∧
      ∃ set', (parse language (Text.firstLines 3 text)).1 = .ok set' ∧ set'.IsPrefix set := by
  intro language text e set
  have hfault : parse language text = (.error e, []) := by decide +kernel
  have hset : (parse language (Text.firstLines 4 text)).1 = .ok set := by decide +kernel
  have hopen : Text.lines (Text.firstLines 3 text) =
      (Text.lines (Text.firstLines 4 text)).take 3 := by decide +kernel
  obtain ⟨-, hlines, -, hdecided⟩ := parse_decided_from_top language text 5
  obtain ⟨-, -, hbefore, hother⟩ := hdecided e [] hfault
  obtain ⟨-, -, hbeginning, -⟩ := parse_decided_from_top language (Text.firstLines 4 text) 3
  exact ⟨hfault, hother _ (by decide +kernel), hbefore _ hlines, hset, hbeginning set hset _ hopen⟩

end RuleFile

end SourceAtlas
