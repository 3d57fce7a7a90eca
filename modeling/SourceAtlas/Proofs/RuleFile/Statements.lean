import SourceAtlas.Proofs.RuleFile.Values
import SourceAtlas.Proofs.Text.Integer

/-!
# Statements of a rule

Two directions of reading a statement. First, what a statement leaves in a draft can be printed as
a statement again: `Draft.IsReadable` is kept. Second, a printed statement is read as what it was
printed from, apart from phrases that leave a quote open.
-/

namespace SourceAtlas.RuleFile

open Text (IsBlank IsTrimmed IsInt64)

variable {language : Pattern.Language} {draft draft' : Draft} {t rest : Text}

/-! ## What a statement leaves -/

/-- A pattern that can be written between quotes and that the language accepts. -/
structure IsPattern (language : Pattern.Language) (p : Text) : Prop where
  accepted : ∃ find, language p = .ok find
  quotable : Quotable p
  newline : '\n' ∉ p

/-- A name that a line can start with without listing marks, opening a section or being passed
over. -/
structure IsName (name : Text) : Prop where
  trimmed : IsTrimmed name
  brace : '{' ∉ name
  newline : '\n' ∉ name
  hash : name.head? ≠ some '#'
  comments : ¬("Comments".toList <+: name ∧ '=' ∈ name)
  text : ¬("Text".toList <+: name ∧ '=' ∈ name)
  header : ∀ kind : RuleKind, ¬kind.header <+: name

/-- What was read of a rule can be written down again. -/
structure Draft.IsReadable (language : Pattern.Language) (draft : Draft) : Prop where
  name : draft.name = [] ∨ IsName draft.name
  pattern : ∀ p ∈ draft.pattern, IsPattern language p
  value : ∀ v ∈ draft.value, (ValueExpr.parse v).IsReadable
  conditions : ∀ c ∈ draft.conditions, IsPhrase c
  total : ∀ n ∈ draft.total, IsInt64 n

theorem Draft.isReadable_start {name : Text} (h : name = [] ∨ IsName name) (number : Nat) :
    (Draft.start name number).IsReadable language := by
  refine ⟨h, ?_, ?_, ?_, ?_⟩ <;> intro _ hmem <;> cases hmem

/-- The readers of a statement: each keyword and what reads the text behind it. -/
theorem statement_cases (h : statement language draft t = .ok (draft', rest)) :
    (∃ u, t = "pattern:".toList ++ u ∧ patternStatement language draft u = .ok (draft', rest)) ∨
    (∃ u, t = "value:".toList ++ u ∧ valueStatement draft u = .ok (draft', rest)) ∨
    (∃ u, t = "condition:".toList ++ u ∧ conditionStatement draft u = .ok (draft', rest)) ∨
    (∃ u, t = "total_number:".toList ++ u ∧ totalStatement draft u = .ok (draft', rest)) ∨
    (∃ u, t = "hidden".toList ++ u ∧ draft' = { draft with hidden := true } ∧
      rest = skipTerminator u) ∨
    (∃ u, t = "DEBUG".toList ++ u ∧ draft' = { draft with debug := true } ∧
      rest = skipTerminator u) := by
  have keyword {word u : Text} (hw : afterKeyword? word t = some u) : t = word ++ u := by
    unfold afterKeyword? at hw
    split at hw
    · rename_i hafter
      cases hw
      exact Text.after?_eq_some.1 hafter
    · rename_i hafter
      split at hw
      · cases hw
        exact Text.after?_eq_some.1 hafter
      · cases hw
    · cases hw
  unfold statement at h
  split at h
  · rename_i u hu
    exact .inl ⟨u, Text.after?_eq_some.1 hu, h⟩
  · split at h
    · rename_i u hu
      exact .inr (.inl ⟨u, Text.after?_eq_some.1 hu, mapError_eq_ok h⟩)
    · split at h
      · rename_i u hu
        exact .inr (.inr (.inl ⟨u, Text.after?_eq_some.1 hu, mapError_eq_ok h⟩))
      · split at h
        · rename_i u hu
          exact .inr (.inr (.inr (.inl ⟨u, Text.after?_eq_some.1 hu, mapError_eq_ok h⟩)))
        · split at h
          · rename_i u hu
            cases h
            exact .inr (.inr (.inr (.inr (.inl ⟨u, keyword hu, rfl, rfl⟩))))
          · split at h
            · rename_i u hu
              cases h
              exact .inr (.inr (.inr (.inr (.inr ⟨u, keyword hu, rfl, rfl⟩))))
            · cases h

/-- A statement starts with a letter, so that a line holding it is not passed over. -/
theorem exists_cons_of_statement (h : statement language draft t = .ok (draft', rest)) :
    ∃ c u, t = c :: u ∧ ¬Text.isSpace c ∧ c ≠ '}' ∧ c ≠ '#' := by
  rcases statement_cases h with ⟨u, rfl, -⟩ | ⟨u, rfl, -⟩ | ⟨u, rfl, -⟩ | ⟨u, rfl, -⟩ |
    ⟨u, rfl, -⟩ | ⟨u, rfl, -⟩
  all_goals exact ⟨_, _, rfl, by decide, by decide, by decide⟩

theorem skipTerminator_suffix (t : Text) : skipTerminator t <:+ t := by
  have h := Text.trimStart_suffix t
  unfold skipTerminator
  split
  · rename_i rest heq
    rw [heq] at h
    exact (List.suffix_cons ';' rest).trans h
  · exact h

theorem untilTerminator_suffix (quoted : Bool) (t : Text) : (untilTerminator quoted t).2 <:+ t :=
  ⟨_, (contained_untilTerminator quoted t).2⟩

theorem newline_not_mem_untilTerminator {quoted : Bool} (hn : '\n' ∉ t) :
    '\n' ∉ (untilTerminator quoted t).1 := by
  rw [← (contained_untilTerminator quoted t).2] at hn
  exact fun h => hn (List.mem_append_left _ h)

theorem takeQuoted_suffix {quoted : Text} (h : takeQuoted t = .ok (quoted, rest)) :
    rest <:+ t ∧ quoted ⊆ t := by
  obtain ⟨rfl, -⟩ := takeQuoted_eq_ok h
  refine ⟨⟨'"' :: quoted ++ ['"'], by simp⟩, ?_⟩
  intro c hc
  exact List.mem_cons_of_mem _ (List.mem_append_left _ hc)

theorem patternStatement_isReadable (h : patternStatement language draft t = .ok (draft', rest))
    (hd : draft.IsReadable language) (hn : '\n' ∉ t) :
    draft'.IsReadable language ∧ rest <:+ t := by
  unfold patternStatement at h
  obtain ⟨⟨pattern, behind⟩, hquoted, h⟩ := bind_eq_ok h
  obtain ⟨find, haccepted, h⟩ := bind_eq_ok h
  cases h
  have hstart := Text.trimStart_suffix t
  obtain ⟨hbehind, hpattern⟩ := takeQuoted_suffix (mapError_eq_ok hquoted)
  refine ⟨{ hd with pattern := ?_ }, ((skipTerminator_suffix behind).trans hbehind).trans hstart⟩
  intro p hp
  cases hp
  exact ⟨⟨find, mapError_eq_ok haccepted⟩, (takeQuoted_eq_ok (mapError_eq_ok hquoted)).2,
    fun hmem => hn (hstart.subset (hpattern hmem))⟩

theorem valueStatement_of_quoted {inner : Text}
    (h : takeQuoted (Text.trimStart t) = .ok (inner, rest)) :
    valueStatement draft t =
      .ok ({ draft with value := some ('"' :: inner ++ ['"']) }, skipTerminator rest) := by
  have hhead : (Text.trimStart t).head? = some '"' := by
    rw [(takeQuoted_eq_ok h).1]
    rfl
  unfold valueStatement
  simp only [if_pos hhead, h]
  rfl

theorem valueStatement_of_head (h : (Text.trimStart t).head? ≠ some '"') :
    valueStatement draft t =
      if (Text.trim (untilTerminator false (Text.trimStart t)).1).isEmpty then
        .error (.emptyValue draft.name)
      else
        .ok ({ draft with value := some (Text.trim (untilTerminator false (Text.trimStart t)).1) },
          skipTerminator (untilTerminator false (Text.trimStart t)).2) := by
  unfold valueStatement
  simp only [if_neg h]
  rfl

/-- A value without a quote in front keeps having none when it is trimmed. -/
theorem head?_trim_untilTerminator (quoted : Bool) (h : ∀ c ∈ t.head?, ¬Text.isSpace c) :
    (Text.trim (untilTerminator quoted t).1).head? = none ∨
      (Text.trim (untilTerminator quoted t).1).head? = t.head? := by
  have hhead : (untilTerminator quoted t).1.head? = none ∨
      (untilTerminator quoted t).1.head? = t.head? := by
    have hsplit := (contained_untilTerminator quoted t).2
    cases hbefore : (untilTerminator quoted t).1 with
    | nil => exact .inl rfl
    | cons c u =>
      rw [hbefore] at hsplit
      exact .inr (by rw [← hsplit]; rfl)
  have hclean : ∀ c ∈ (untilTerminator quoted t).1.head?, ¬Text.isSpace c := by
    intro c hc
    rcases hhead with hnone | hsame
    · rw [hnone] at hc
      cases hc
    · exact h c (hsame ▸ hc)
  rwa [Text.head?_trim hclean]

theorem valueStatement_isReadable (h : valueStatement draft t = .ok (draft', rest))
    (hd : draft.IsReadable language) (hn : '\n' ∉ t) :
    draft'.IsReadable language ∧ rest <:+ t := by
  have hstart := Text.trimStart_suffix t
  have hnstart : '\n' ∉ Text.trimStart t := fun hmem => hn (hstart.subset hmem)
  by_cases hhead : (Text.trimStart t).head? = some '"'
  · unfold valueStatement at h
    simp only [if_pos hhead] at h
    obtain ⟨⟨inner, behind⟩, hquoted, h⟩ := bind_eq_ok h
    cases h
    obtain ⟨hbehind, hinner⟩ := takeQuoted_suffix hquoted
    refine ⟨{ hd with value := ?_ }, ((skipTerminator_suffix behind).trans hbehind).trans hstart⟩
    intro v hv
    cases hv
    rw [ValueExpr.parse_quoted]
    exact .quoted (takeQuoted_eq_ok hquoted).2 fun hmem => hnstart (hinner hmem)
  · rw [valueStatement_of_head hhead] at h
    split at h
    · cases h
    · rename_i hne
      cases h
      refine ⟨{ hd with value := ?_ },
        ((skipTerminator_suffix _).trans (untilTerminator_suffix false _)).trans hstart⟩
      intro v hv
      cases hv
      refine .phrase (isPhrase_trim (contained_untilTerminator false _).1 (by simpa using hne)
        (newline_not_mem_untilTerminator hnstart)) ?_
      rcases head?_trim_untilTerminator false (Text.head_trimStart (t := t)) with hnone | hsame
      · simp [hnone]
      · rwa [hsame]

theorem conditionStatement_isReadable (h : conditionStatement draft t = .ok (draft', rest))
    (hd : draft.IsReadable language) (hn : '\n' ∉ t) :
    draft'.IsReadable language ∧ rest <:+ t := by
  unfold conditionStatement at h
  simp only at h
  split at h
  · cases h
  · rename_i hne
    cases h
    refine ⟨{ hd with conditions := ?_ },
      (skipTerminator_suffix _).trans (untilTerminator_suffix false t)⟩
    intro c hc
    rcases List.mem_append.1 hc with hc | hc
    · exact hd.conditions c hc
    · obtain rfl := List.mem_singleton.1 hc
      exact isPhrase_trim (contained_untilTerminator false t).1 (by simpa using hne)
        (newline_not_mem_untilTerminator hn)

theorem totalStatement_isReadable (h : totalStatement draft t = .ok (draft', rest))
    (hd : draft.IsReadable language) : draft'.IsReadable language ∧ rest <:+ t := by
  unfold totalStatement at h
  simp only at h
  split at h
  · rename_i n hnumber
    cases h
    refine ⟨{ hd with total := ?_ },
      (skipTerminator_suffix _).trans (untilTerminator_suffix false t)⟩
    intro m hm
    cases hm
    exact Text.isInt64_of_parseInt64 hnumber
  · cases h

theorem statement_isReadable (h : statement language draft t = .ok (draft', rest))
    (hd : draft.IsReadable language) (hn : '\n' ∉ t) :
    draft'.IsReadable language ∧ rest <:+ t := by
  have behind {word u : Text} (hkept : '\n' ∉ u → draft'.IsReadable language ∧ rest <:+ u)
      (ht : t = word ++ u) : draft'.IsReadable language ∧ rest <:+ t := by
    subst ht
    obtain ⟨hd, hrest⟩ := hkept fun hmem => hn (List.mem_append_right _ hmem)
    exact ⟨hd, hrest.trans (List.suffix_append _ _)⟩
  rcases statement_cases h with ⟨u, ht, h⟩ | ⟨u, ht, h⟩ | ⟨u, ht, h⟩ | ⟨u, ht, h⟩ |
    ⟨u, ht, rfl, rfl⟩ | ⟨u, ht, rfl, rfl⟩
  · exact behind (patternStatement_isReadable h hd) ht
  · exact behind (valueStatement_isReadable h hd) ht
  · exact behind (conditionStatement_isReadable h hd) ht
  · exact behind (fun _ => totalStatement_isReadable h hd) ht
  · exact behind (fun _ => ⟨{ hd with }, skipTerminator_suffix u⟩) ht
  · exact behind (fun _ => ⟨{ hd with }, skipTerminator_suffix u⟩) ht

/-! ## Statements that were printed -/

theorem isBlank_space : IsBlank [' '] := Text.isBlank_cons.2 ⟨by decide, Text.isBlank_nil⟩

theorem statement_pattern {p : Text} (h : IsPattern language p) :
    statement language draft ("pattern: \"".toList ++ p ++ ['"'] ++ [';']) =
      .ok ({ draft with pattern := some p }, []) := by
  obtain ⟨find, haccepted⟩ := h.accepted
  have htext : "pattern: \"".toList ++ p ++ ['"'] ++ [';'] =
      "pattern:".toList ++ ([' '] ++ '"' :: (p ++ '"' :: [';'])) := by simp
  have hquoted : takeQuoted (Text.trimStart ([' '] ++ '"' :: (p ++ '"' :: [';']))) =
      .ok (p, [';']) := takeQuoted_append h.quotable rfl
  have hread : patternStatement language draft ([' '] ++ '"' :: (p ++ '"' :: [';'])) =
      .ok ({ draft with pattern := some p }, []) := by
    rw [patternStatement, hquoted]
    simp [bind, Except.bind, Except.mapError, haccepted]
    rfl
  rw [htext, ← hread]
  rfl

theorem valueStatement_print {v : ValueExpr} (h : v.IsReadable) :
    valueStatement draft ([' '] ++ (v.print ++ [';'])) =
      .ok ({ draft with value := some v.taken }, []) := by
  cases h with
  | @quoted t hquotable hn =>
    have hquoted : takeQuoted (Text.trimStart ([' '] ++ ('"' :: t ++ ['"'] ++ [';']))) =
        .ok (t, [';']) := by
      rw [← takeQuoted_append hquotable (u := [';']) rfl, Text.trimStart_append isBlank_space,
        List.append_assoc]
      rfl
    exact valueStatement_of_quoted hquoted
  | @phrase t hphrase hhead =>
    have hprinted := ValueExpr.isPhrase_print_parse hphrase
    have hquote : (ValueExpr.parse t).print.head? ≠ some '"' := by
      rwa [ValueExpr.head?_print_parse, Text.trim_of_isTrimmed hphrase.trimmed]
    have hsame : ((ValueExpr.parse t).print ++ [';']).head? = (ValueExpr.parse t).print.head? :=
      List.head?_append_of_ne_nil _ hprinted.ne_nil
    have hstart : Text.trimStart ([' '] ++ ((ValueExpr.parse t).print ++ [';'])) =
        (ValueExpr.parse t).print ++ [';'] := by
      rw [Text.trimStart_append isBlank_space, Text.trimStart_of_head]
      rw [hsame]
      exact hprinted.trimmed.head
    obtain ⟨htrim, hskip⟩ := hprinted.untilTerminator Text.isBlank_nil
    rw [List.nil_append] at htrim hskip
    rw [valueStatement_of_head (by rwa [hstart, hsame]), hstart, htrim, hskip,
      if_neg (by simpa using reread_ne_nil hprinted.ne_nil),
      ValueExpr.taken_of_ne_literal (ValueExpr.parse_ne_literal hphrase.trimmed hhead)]

theorem statement_value {v : ValueExpr} (h : v.IsReadable) :
    statement language draft ("value: ".toList ++ v.print ++ [';']) =
      .ok ({ draft with value := some v.taken }, []) := by
  have hdispatch : statement language draft ("value: ".toList ++ v.print ++ [';']) =
      (valueStatement draft ([' '] ++ (v.print ++ [';']))).mapError .malformed := by
    rw [List.append_assoc]
    rfl
  rw [hdispatch, valueStatement_print h]
  rfl

theorem statement_condition {c : Text} (h : IsPhrase c) :
    statement language draft ("condition: ".toList ++ c ++ [';']) =
      .ok ({ draft with conditions := draft.conditions ++ [reread c] }, []) := by
  obtain ⟨htrim, hskip⟩ := h.untilTerminator isBlank_space
  have hne : (reread c).isEmpty = false := by simpa using reread_ne_nil h.ne_nil
  have hread : conditionStatement draft ([' '] ++ c ++ [';']) =
      .ok ({ draft with conditions := draft.conditions ++ [reread c] }, []) := by
    simp only [conditionStatement, htrim, hskip, hne]
    rfl
  rw [List.append_assoc] at hread ⊢
  exact congrArg (Except.mapError Fault.malformed) hread

theorem plain_of_mem_ofInt {n : Int} {c : Char} (h : c ∈ Text.ofInt n) :
    ¬Text.isSpace c ∧ c ≠ ';' ∧ c ≠ '}' ∧ c ≠ '"' := by
  rcases Text.mem_ofInt h with rfl | hdigit
  · decide
  · have hrange : 48 ≤ c.toNat ∧ c.toNat ≤ 57 := by
      simpa [Char.isDigit, UInt32.le_iff_toNat_le] using hdigit
    refine ⟨?_, ?_, ?_, ?_⟩
    · simp [Text.isSpace]
      omega
    · rintro rfl
      cases hdigit
    · rintro rfl
      cases hdigit
    · rintro rfl
      cases hdigit

theorem isPhrase_ofInt (n : Int) : IsPhrase (Text.ofInt n) := by
  refine isPhrase_of_forall ?_ fun c hc => plain_of_mem_ofInt hc
  cases n with
  | ofNat n => exact Text.ofNat_ne_nil n
  | negSucc n => exact List.cons_ne_nil _ _

theorem statement_total {n : Int} (h : IsInt64 n) :
    statement language draft ("total_number: ".toList ++ Text.ofInt n ++ [';']) =
      .ok ({ draft with total := some n }, []) := by
  obtain ⟨htrim, hskip⟩ := (isPhrase_ofInt n).untilTerminator isBlank_space
  have hquote : reread (Text.ofInt n) = Text.ofInt n := by
    rw [reread_eq_self_iff, List.count_eq_zero.2 fun hq => (plain_of_mem_ofInt hq).2.2.2 rfl]
    decide
  have hread : totalStatement draft ([' '] ++ Text.ofInt n ++ [';']) =
      .ok ({ draft with total := some n }, []) := by
    simp only [totalStatement, htrim, hskip, hquote, Text.parseInt64_ofInt h]
  rw [List.append_assoc] at hread ⊢
  exact congrArg (Except.mapError Fault.malformed) hread

theorem statement_hidden :
    statement language draft ("hidden".toList ++ [';']) = .ok ({ draft with hidden := true }, []) :=
  rfl

theorem statement_debug :
    statement language draft ("DEBUG".toList ++ [';']) = .ok ({ draft with debug := true }, []) :=
  rfl

end SourceAtlas.RuleFile
