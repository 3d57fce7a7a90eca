import SourceAtlas.Proofs.RuleFile.Beginnings
import SourceAtlas.Proofs.RuleFile.RoundTrip

/-!
# Files with one rule

The smallest file that says something: a section and a rule in it that has a name and a pattern and
nothing else. What such a file is read as depends on the name alone. A name that starts with the
header of a section opens that section, one that starts like a list of marks and holds an equals
sign is read as such a list, and then the pattern stands outside of any rule. With every other name
the file says what it seems to say.
-/

namespace SourceAtlas.RuleFile

open Text (IsBlank IsTrimmed)

/-! ## What can be written down -/

/-- A name that can stand in front of an opening brace, with a blank between them. -/
structure IsWritableName (name : Text) : Prop where
  ne_nil : name ≠ []
  newline : '\n' ∉ name
  brace : '{' ∉ name
  trimmed : IsTrimmed name
  hash : name.head? ≠ some '#'

/-- No double quote is followed by white space, or by nothing, and then by a semicolon or a closing
brace. -/
def QuotesGoOn (t : Text) : Prop :=
  ∀ blank c, IsBlank blank → c = ';' ∨ c = '}' → ¬('"' :: blank ++ [c] <:+: t)

/-- A pattern that can stand in one line between double quotes. -/
structure IsWritablePattern (language : Pattern.Language) (pattern : Text) : Prop where
  newline : '\n' ∉ pattern
  accepted : ∃ find, language pattern = .ok find
  quotes : QuotesGoOn pattern

theorem QuotesGoOn.atTerminator {t : Text} (h : QuotesGoOn ('"' :: t)) :
    atTerminator (t ++ ['"']) = false := by
  obtain ⟨blank, hblank, ht⟩ := Text.exists_eq_append_trimStart t
  unfold RuleFile.atTerminator
  rw [Text.trimStart_append_cons (by decide)]
  cases hstart : Text.trimStart t with
  | nil => rfl
  | cons c u =>
    rw [hstart] at ht
    have hinside : '"' :: blank ++ [c] <:+: '"' :: t := ⟨[], u, by simp [ht]⟩
    have hsemicolon : c ≠ ';' := fun hc => h blank c hblank (.inl hc) hinside
    have hbrace : c ≠ '}' := fun hc => h blank c hblank (.inr hc) hinside
    simp [hsemicolon, hbrace]

/-- If the quotes inside a text go on, the closing quote is found behind it. -/
theorem QuotesGoOn.quotable {t : Text} (h : QuotesGoOn t) : Quotable t := by
  induction t with
  | nil => simp [Quotable, closeQuote?, RuleFile.atTerminator, Text.trimStart]
  | cons c t ih =>
    refine quotable_cons.2 ⟨?_, ih fun blank d hblank hd hinside => ?_⟩
    · rintro rfl
      exact h.atTerminator
    · exact h blank d hblank hd (hinside.trans (List.suffix_cons c t).isInfix)

/-! ## One rule -/

/-- The lines of a file with one identifier rule. -/
def blockLines (name pattern : Text) : List Text :=
  ["Identifiers".toList, name ++ " \x7b".toList, "pattern: \"".toList ++ pattern ++ "\";".toList,
    ['}']]

/-- The rule set that the lines seem to say. -/
def blockSet (name pattern : Text) : RuleSet :=
  ⟨[], [], [⟨name, .identifiers, .pattern pattern, [], none, false, false⟩]⟩

variable {language : Pattern.Language} {name pattern : Text}

/-- With a newline behind each of them, the lines are read as they are. -/
theorem lines_block (hname : '\n' ∉ name) (hpattern : '\n' ∉ pattern) :
    Text.lines ((blockLines name pattern).flatMap (· ++ ['\n'])) = blockLines name pattern := by
  have hopen : IsLine (name ++ [' '] ++ ['{']) :=
    isLine_concat (newline_not_mem_append hname (by decide)) (by decide) (by decide)
  have hstatement : IsLine ("pattern: \"".toList ++ pattern ++ ['"'] ++ [';']) :=
    isLine_concat (newline_not_mem_append (newline_not_mem_append (by decide) hpattern) (by decide))
      (by decide) (by decide)
  rw [List.append_assoc] at hopen hstatement
  refine Text.lines_flatMap_newline ?_
  simp only [blockLines, List.forall_mem_cons]
  exact ⟨⟨by decide, by decide⟩, hopen, hstatement, ⟨by decide, by decide⟩, List.forall_mem_nil _⟩

/-- The section, the name, the pattern and the closing brace, each in its line. -/
theorem lines_initial_block (hne : name ≠ []) (hname : IsName name)
    (hpattern : IsPattern language pattern) :
    Reading.initial.lines language 1 (blockLines name pattern) =
      .ok ⟨blockSet name pattern, some .identifiers, none, []⟩ := by
  let started : Reading := ⟨.empty, some .identifiers, none, []⟩
  let opened : Reading := { started with draft := some (.start name 2) }
  let complete : Reading :=
    { opened with draft := some { Draft.start name 2 with pattern := some pattern } }
  have hheader : Reading.initial.line language 1 "Identifiers".toList = .ok started :=
    Reading.line_header rfl .identifiers 1
  have hopen : started.line language 2 (name ++ " \x7b".toList) = .ok opened :=
    Reading.line_name rfl hne hname 2
  have hstatement : opened.line language 3 ("pattern: \"".toList ++ pattern ++ "\";".toList) =
      .ok complete := by
    have hread : statement language (.start name 2)
        ("pattern: \"".toList ++ pattern ++ ['"'] ++ [';']) = _ := statement_pattern hpattern
    have hline := Reading.line_statement (r := opened) rfl hread Text.isBlank_nil 3
    rwa [List.nil_append, List.append_assoc] at hline
  have hbrace : complete.line language 4 ['}'] =
      .ok ⟨blockSet name pattern, some .identifiers, none, []⟩ := by
    rw [Reading.line_brace rfl]
    simp [complete, opened, started, Reading.closeRule, Draft.finish, Draft.start, hne, blockSet,
      RuleSet.empty]
  simp only [blockLines, Reading.lines, hheader, hopen, hstatement, hbrace]

/-- A file with one rule is read as that rule exactly if the name neither starts with the header of
a section, nor starts with the name of a list of marks and holds an equals sign. -/
theorem block_read_back_iff (hname : IsWritableName name)
    (hpattern : IsWritablePattern language pattern) :
    Text.lines ((blockLines name pattern).flatMap (· ++ ['\n'])) = blockLines name pattern ∧
    ∀ text, Text.lines text = blockLines name pattern →
      ((parse language text).1 = .ok (blockSet name pattern) ↔
        (∀ header ∈ ["Variables", "Identifiers", "Dependencies"], ¬header.toList <+: name) ∧
          ¬(("Comments".toList <+: name ∨ "Text".toList <+: name) ∧ '=' ∈ name)) := by
  refine ⟨lines_block hname.newline hpattern.newline, fun text htext => ⟨fun h => ?_, ?_⟩⟩
  · -- Whatever is read as the name of a rule is a name that can be read.
    have hread := ((isReadable_parse h).rules _ (List.mem_singleton_self _)).name
    simp only [List.forall_mem_cons]
    refine ⟨⟨hread.header .vars, hread.header .identifiers, hread.header .dependencies,
      List.forall_mem_nil _⟩, ?_⟩
    rintro ⟨hcomments | htexts, heq⟩
    · exact hread.comments ⟨hcomments, heq⟩
    · exact hread.text ⟨htexts, heq⟩
  · rintro ⟨hheaders, hlists⟩
    have hheader (kind : RuleKind) : ¬kind.header <+: name := by
      cases kind
      · exact hheaders "Variables" (by decide)
      · exact hheaders "Identifiers" (by decide)
      · exact hheaders "Dependencies" (by decide)
    have hread : IsName name :=
      ⟨hname.trimmed, hname.brace, hname.newline, hname.hash,
        fun ⟨hstart, heq⟩ => hlists ⟨.inl hstart, heq⟩,
        fun ⟨hstart, heq⟩ => hlists ⟨.inr hstart, heq⟩, hheader⟩
    have hblock := lines_initial_block hname.ne_nil hread
      ⟨hpattern.accepted, hpattern.quotes.quotable, hpattern.newline⟩
    rw [← htext] at hblock
    exact parse_fst_eq_ok.2 ⟨_, hblock, rfl⟩

/-- A name may start like a list of marks if it holds no equals sign. -/
theorem block_read_back_iff_marks :
    let language : Pattern.Language := fun _ => .ok fun _ => none
    let pattern : Text := "say \"(.+)\"".toList
    let file (name : Text) : Text := (blockLines name pattern).flatMap (· ++ ['\n'])
    (parse language (file "Text of x".toList)).1 = .ok (blockSet "Text of x".toList pattern) ∧
      (parse language (file "Text = x".toList)).1 ≠ .ok (blockSet "Text = x".toList pattern) := by
  intro language pattern file
  have hpattern : IsWritablePattern language pattern := by
    refine ⟨by decide, ⟨_, rfl⟩, fun blank c _ hc hinside => ?_⟩
    have hmem : c ∈ pattern := hinside.subset (by simp)
    rcases hc with rfl | rfl <;> revert hmem <;> decide
  have htrimmed {t : Text} (h : Text.trim t = t) : IsTrimmed t := h ▸ Text.isTrimmed_trim t
  have hplain : IsWritableName "Text of x".toList :=
    ⟨by decide, by decide, by decide, htrimmed (by decide), by decide⟩
  have hlist : IsWritableName "Text = x".toList :=
    ⟨by decide, by decide, by decide, htrimmed (by decide), by decide⟩
  obtain ⟨hlines, hread⟩ := block_read_back_iff hplain hpattern
  obtain ⟨hlines', hread'⟩ := block_read_back_iff hlist hpattern
  refine ⟨(hread _ hlines).2 (by decide), fun h => ?_⟩
  exact absurd ((hread' _ hlines').1 h) (by decide)

end SourceAtlas.RuleFile
