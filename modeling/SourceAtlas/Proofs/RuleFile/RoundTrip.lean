import SourceAtlas.Proofs.RuleFile.Accepted

/-!
# Printed rule files

Reading the text that a readable rule set is printed as. Comment marks come back as they are, and
every rule comes back as its `reread`, which differs from it only if a phrase of the rule leaves a
quote open. Literal marks come back unless the brackets of two neighbouring elements look like the
end of one group and the start of the next.

The main result puts this together: a rule set that was read from a file is read back from its
printed text exactly if its quotes are paired and the brackets of its literal marks stand apart.
-/

namespace SourceAtlas

open Text (IsBlank IsTrimmed IsInt64)

/-! ## Rules that are read back -/

def RuleBody.reread : RuleBody → RuleBody
  | .pattern p => .pattern p
  | .constant v => .constant v.reread

/-- A rule as it is read back from its printed lines. -/
def Rule.reread (rule : Rule) : Rule :=
  { rule with body := rule.body.reread, conditions := rule.conditions.map RuleFile.reread }

/-- Every condition, and the printed form of a value that is no quoted text, holds an even number
of double quotes. -/
structure Rule.QuotesPaired (rule : Rule) : Prop where
  conditions : ∀ c ∈ rule.conditions, Even (c.count '"')
  value : ∀ v, rule.body = .constant v → (∀ t, v ≠ .literal t) → Even (v.print.count '"')

theorem RuleBody.reread_eq_self_iff {language : Pattern.Language} {body : RuleBody}
    (h : body.IsReadable language) :
    body.reread = body ↔
      ∀ v, body = .constant v → (∀ t, v ≠ .literal t) → Even (v.print.count '"') := by
  cases body with
  | pattern p => exact iff_of_true rfl fun v hv => by cases hv
  | constant v =>
    rw [RuleBody.reread, RuleBody.constant.injEq, ValueExpr.IsReadable.reread_eq_self_iff h]
    constructor
    · rintro hv w ⟨⟩
      exact hv
    · intro hv
      exact hv v rfl

theorem map_eq_self_iff {α : Type} {f : α → α} {xs : List α} :
    xs.map f = xs ↔ ∀ x ∈ xs, f x = x := by
  have h : xs.map f = xs.map id ↔ ∀ x ∈ xs, f x = id x := List.map_inj_left
  rwa [List.map_id] at h

theorem Rule.reread_eq_self_iff {language : Pattern.Language} {rule : Rule}
    (h : rule.IsReadable language) : rule.reread = rule ↔ rule.QuotesPaired := by
  have hparts : rule.reread = rule ↔
      rule.body.reread = rule.body ∧ rule.conditions.map RuleFile.reread = rule.conditions := by
    cases rule
    simp [Rule.reread]
  have hconditions : rule.conditions.map RuleFile.reread = rule.conditions ↔
      ∀ c ∈ rule.conditions, Even (c.count '"') := by
    rw [map_eq_self_iff]
    exact forall₂_congr fun c _ => RuleFile.reread_eq_self_iff
  rw [hparts, RuleBody.reread_eq_self_iff h.body, hconditions]
  exact ⟨fun ⟨hv, hc⟩ => ⟨hc, hv⟩, fun ⟨hc, hv⟩ => ⟨hv, hc⟩⟩

namespace RuleFile

variable {language : Pattern.Language}

/-! ## One statement to a line -/

/-- The statements, each with a semicolon behind it, lead from the first draft to the second. -/
inductive Reads (language : Pattern.Language) : Draft → List Text → Draft → Prop where
  | nil (draft : Draft) : Reads language draft [] draft
  | cons {draft₁ draft₂ draft₃ : Draft} {s : Text} {ss : List Text}
      (first : statement language draft₁ (s ++ [';']) = .ok (draft₂, []))
      (rest : Reads language draft₂ ss draft₃) : Reads language draft₁ (s :: ss) draft₃

namespace Reads

theorem single {draft draft' : Draft} {s : Text}
    (h : statement language draft (s ++ [';']) = .ok (draft', [])) :
    Reads language draft [s] draft' :=
  .cons h (.nil draft')

theorem append {draft₁ draft₂ draft₃ : Draft} {ss ts : List Text}
    (h₁ : Reads language draft₁ ss draft₂) (h₂ : Reads language draft₂ ts draft₃) :
    Reads language draft₁ (ss ++ ts) draft₃ := by
  induction h₁ with
  | nil draft => exact h₂
  | cons first rest ih => exact .cons first (ih h₂)

theorem conditions {draft : Draft} {cs : List Text} (h : ∀ c ∈ cs, IsPhrase c) :
    Reads language draft (cs.map ("condition: ".toList ++ ·))
      { draft with conditions := draft.conditions ++ cs.map reread } := by
  induction cs generalizing draft with
  | nil =>
    rw [List.map_nil, List.map_nil, List.append_nil]
    exact .nil draft
  | cons c cs ih =>
    refine .cons (statement_condition (h c List.mem_cons_self)) ?_
    have hrest : Reads language { draft with conditions := draft.conditions ++ [reread c] }
        (cs.map ("condition: ".toList ++ ·)) _ := ih fun c hc => h c (List.mem_cons_of_mem _ hc)
    rwa [List.append_assoc draft.conditions] at hrest

theorem total {draft : Draft} {total : Option Int} (h : ∀ n ∈ total, IsInt64 n)
    (hd : draft.total = none) :
    Reads language draft (total.toList.map ("total_number: ".toList ++ Text.ofInt ·))
      { draft with total := total } := by
  cases total with
  | none =>
    have hsame : { draft with total := none } = draft := by rw [← hd]
    rw [hsame]
    exact .nil draft
  | some n => exact .single (statement_total (h n rfl))

theorem hidden {draft : Draft} (hidden : Bool) (hd : draft.hidden = false) :
    Reads language draft (if hidden then ["hidden".toList] else [])
      { draft with hidden := hidden } := by
  cases hidden with
  | false =>
    have hsame : { draft with hidden := false } = draft := by rw [← hd]
    rw [hsame]
    exact .nil draft
  | true => exact .single statement_hidden

theorem debug {draft : Draft} (debug : Bool) (hd : draft.debug = false) :
    Reads language draft (if debug then ["DEBUG".toList] else [])
      { draft with debug := debug } := by
  cases debug with
  | false =>
    have hsame : { draft with debug := false } = draft := by rw [← hd]
    rw [hsame]
    exact .nil draft
  | true => exact .single statement_debug

end Reads

/-- A draft with the pattern, or with what is taken for the value. -/
def Draft.withBody (draft : Draft) : RuleBody → Draft
  | .pattern p => { draft with pattern := some p }
  | .constant v => { draft with value := some v.taken }

/-- The draft that the printed lines of a rule lead to. -/
def redraft (rule : Rule) (number : Nat) : Draft :=
  { (Draft.start rule.name number).withBody rule.body with
    conditions := rule.conditions.map reread
    total := rule.total
    hidden := rule.hidden
    debug := rule.debug }

theorem finish_redraft {rule : Rule} (h : rule.name ≠ []) (number : Nat) :
    (redraft rule number).finish (some rule.kind) = .ok rule.reread := by
  have hname : rule.name.isEmpty = false := by simpa using h
  obtain ⟨name, kind, body, conditions, total, hidden, debug⟩ := rule
  cases body <;>
    simp [redraft, Draft.withBody, Draft.start, Draft.finish, hname, Rule.reread, RuleBody.reread,
      ValueExpr.reread]

theorem reads_statements {rule : Rule} (h : rule.IsReadable language) (number : Nat) :
    Reads language (.start rule.name number) rule.statements (redraft rule number) := by
  have hbody : Reads language (.start rule.name number) [rule.body.statement]
      ((Draft.start rule.name number).withBody rule.body) := by
    have hreadable := h.body
    cases hcase : rule.body with
    | pattern p =>
      rw [hcase] at hreadable
      exact .single (statement_pattern hreadable)
    | constant v =>
      rw [hcase] at hreadable
      exact .single (statement_value hreadable)
  obtain ⟨hconditions, htotal, hhidden, hdebug⟩ :
      ((Draft.start rule.name number).withBody rule.body).conditions = [] ∧
      ((Draft.start rule.name number).withBody rule.body).total = none ∧
      ((Draft.start rule.name number).withBody rule.body).hidden = false ∧
      ((Draft.start rule.name number).withBody rule.body).debug = false := by
    cases rule.body <;> exact ⟨rfl, rfl, rfl, rfl⟩
  have hlist : Reads language ((Draft.start rule.name number).withBody rule.body)
      (rule.conditions.map ("condition: ".toList ++ ·)) _ := .conditions h.conditions
  rw [hconditions, List.nil_append] at hlist
  exact (((hbody.append hlist).append (.total h.total htotal)).append
    (.hidden rule.hidden hhidden)).append (.debug rule.debug hdebug)

/-! ## Lines -/

namespace Reading

theorem body_nil (r : Reading) : r.body language [] = .ok r := by
  rw [body]
  rfl

theorem body_brace (r : Reading) : r.body language ['}'] = .ok r.closeRule := by
  rw [body]
  split
  · rename_i h
    cases h
  · rename_i h
    cases h
    exact body_nil _

theorem body_statement {r : Reading} {draft draft' : Draft} {t : Text} (hd : r.draft = some draft)
    (hs : statement language draft t = .ok (draft', [])) :
    r.body language t = .ok { r with draft := some draft' } := by
  obtain ⟨c, u, rfl, hspace, hbrace, -⟩ := exists_cons_of_statement hs
  rw [body]
  split
  · rename_i h
    rw [Text.trimStart_cons hspace] at h
    cases h
  · rename_i h
    rw [Text.trimStart_cons hspace] at h
    cases h
    rw [if_neg hbrace]
    split
    · rename_i hnone
      rw [hd] at hnone
      cases hnone
    · rename_i hsome
      rw [hd] at hsome
      cases hsome
      split
      · rename_i herror
        rw [hs] at herror
        cases herror
      · rename_i hok
        rw [hs] at hok
        cases hok
        exact body_nil _

/-- From the first reading, the lines lead to the second, whatever follows them. -/
def Reaches (language : Pattern.Language) (r : Reading) (ls : List Text) (r' : Reading) : Prop :=
  ∀ number rest, ∃ next, r.lines language number (ls ++ rest) = r'.lines language next rest

namespace Reaches

theorem nil (r : Reading) : Reaches language r [] r := fun number _ => ⟨number, rfl⟩

theorem append {r₁ r₂ r₃ : Reading} {ls ks : List Text} (h₁ : Reaches language r₁ ls r₂)
    (h₂ : Reaches language r₂ ks r₃) : Reaches language r₁ (ls ++ ks) r₃ := by
  intro number rest
  obtain ⟨middle, hfirst⟩ := h₁ number (ks ++ rest)
  obtain ⟨next, hsecond⟩ := h₂ middle rest
  exact ⟨next, by rw [List.append_assoc, hfirst, hsecond]⟩

theorem of_line {r r' : Reading} {l : Text} (h : ∀ number, r.line language number l = .ok r') :
    Reaches language r [l] r' := by
  intro number rest
  exact ⟨number + 1, by rw [List.singleton_append, lines, h]⟩

end Reaches

/-- A printed statement is read as it stands between the indentation and the end of the line. -/
theorem line_statement {r : Reading} {draft draft' : Draft} {s : Text} (hd : r.draft = some draft)
    (hs : statement language draft (s ++ [';']) = .ok (draft', [])) {indent : Text}
    (hindent : IsBlank indent) (number : Nat) :
    r.line language number (indent ++ s ++ [';']) = .ok { r with draft := some draft' } := by
  obtain ⟨c, u, hcons, hspace, -, hhash⟩ := exists_cons_of_statement hs
  have htrimmed : IsTrimmed (s ++ [';']) := by
    refine ⟨fun d hmem => ?_, fun d hmem => ?_⟩
    · rw [hcons] at hmem
      cases hmem
      exact hspace
    · rw [List.getLast?_concat] at hmem
      cases hmem
      decide
  have htrim : Text.trim (indent ++ s ++ [';']) = s ++ [';'] := by
    have := Text.trim_pad hindent htrimmed Text.isBlank_nil
    rwa [List.append_nil, ← List.append_assoc] at this
  have hsays : ((s ++ [';']).isEmpty || (s ++ [';']).head? = some '#') = false := by
    simp [hcons, hhash]
  rw [line]
  simp only [htrim, hsays, hd, Option.isNone_some]
  exact body_statement hd hs

theorem reaches_statements {r : Reading} {draft draft' : Draft} {ss : List Text}
    (h : Reads language draft ss draft') (hd : r.draft = some draft) :
    Reaches language r (ss.map fun s => "    ".toList ++ s ++ [';'])
      { r with draft := some draft' } := by
  have hindent : IsBlank "    ".toList := by
    intro c hmem
    obtain rfl : c = ' ' := by simpa using hmem
    decide
  induction h generalizing r with
  | nil draft =>
    have hsame : { r with draft := some draft } = r := by rw [← hd]
    rw [hsame]
    exact .nil r
  | @cons draft₁ draft₂ draft₃ s ss first _ ih =>
    exact (Reaches.of_line (line_statement hd first hindent)).append (ih rfl)

theorem isPrefix_of_append_cons {a t u : Text} {c : Char} (h : a <+: t ++ c :: u) (hc : c ∉ a) :
    a <+: t := by
  by_cases hlength : a.length ≤ t.length
  · exact List.prefix_of_prefix_length_le h (List.prefix_append _ _) hlength
  · have hlong : t ++ [c] <+: a := by
      refine List.prefix_of_prefix_length_le ⟨u, by simp⟩ h ?_
      rw [List.length_append, List.length_singleton]
      omega
    exact absurd (hlong.subset (by simp)) hc

/-- The line with the name of a rule opens a draft. -/
theorem line_name {r : Reading} {name : Text} (hd : r.draft = none) (hne : name ≠ [])
    (h : IsName name) (number : Nat) :
    r.line language number (name ++ " \x7b".toList) =
      .ok { r with draft := some (.start name number) } := by
  have hbrace : name ++ " \x7b".toList = (name ++ [' ']) ++ ['{'] := by simp
  have htrim : Text.trim (name ++ " \x7b".toList) = name ++ " \x7b".toList := by
    refine Text.trim_of_isTrimmed ⟨?_, ?_⟩
    · rw [List.head?_append_of_ne_nil _ hne]
      exact h.trimmed.head
    · intro c hc
      rw [hbrace, List.getLast?_concat] at hc
      cases hc
      decide
  have hsays : ((name ++ " \x7b".toList).isEmpty || (name ++ " \x7b".toList).head? = some '#') =
      false := by
    rw [List.head?_append_of_ne_nil _ hne]
    simp [hne, h.hash]
  have hlist {word : Text} (hword : ¬(word <+: name ∧ '=' ∈ name)) (hblank : ' ' ∉ word) :
      ¬lists word (name ++ " \x7b".toList) := by
    rw [lists_iff]
    rintro ⟨hstart, heq⟩
    exact hword ⟨isPrefix_of_append_cons hstart hblank, by simpa using heq⟩
  have hheader : header? (name ++ " \x7b".toList) = none := by
    rw [header?_eq_none]
    intro kind hkind
    exact h.header kind (isPrefix_of_append_cons hkind (by cases kind <;> decide))
  have hclean : ∀ c ∈ name ++ [' '], (c != '{') = true := by
    intro c hc
    rw [bne_iff_ne]
    rintro rfl
    exact h.brace (by simpa using hc)
  have hname : Text.trim (name ++ [' ']) = name :=
    Text.trim_pad Text.isBlank_nil h.trimmed isBlank_space
  rw [line]
  simp only [htrim, hsays, hd, Option.isNone_none, Bool.false_eq_true, if_false, if_true]
  rw [outside, if_neg (hlist h.comments (by decide)), if_neg (hlist h.text (by decide)), hheader,
    hbrace, List.takeWhile_append_of_pos hclean, List.dropWhile_append_of_pos hclean]
  simp [hname, body_nil]

theorem line_brace {r : Reading} {draft : Draft} (hd : r.draft = some draft) (number : Nat) :
    r.line language number ['}'] = .ok r.closeRule := by
  have hbody : r.line language number ['}'] = r.body language ['}'] := by
    unfold line
    rw [hd]
    rfl
  rw [hbody, body_brace]

/-- The lines of a rule add the rule as it is read back. -/
theorem reaches_rule {rule : Rule} (h : rule.IsReadable language) (set : RuleSet)
    (notices : List Notice) :
    Reaches language ⟨set, some rule.kind, none, notices⟩ rule.lines
      ⟨{ set with rules := set.rules ++ [rule.reread] }, some rule.kind, none, notices⟩ := by
  intro number rest
  let opened : Reading := ⟨set, some rule.kind, some (.start rule.name number), notices⟩
  let complete : Reading := ⟨set, some rule.kind, some (redraft rule number), notices⟩
  have hclose : complete.closeRule =
      ⟨{ set with rules := set.rules ++ [rule.reread] }, some rule.kind, none, notices⟩ := by
    simp only [complete, closeRule, finish_redraft h.name_ne_nil number]
  have hlines : Reaches language opened
      (rule.statements.map (fun s => "    ".toList ++ s ++ [';']) ++ [['}']]) complete.closeRule :=
    (reaches_statements (reads_statements h number) rfl).append
      (.of_line (line_brace (r := complete) rfl))
  obtain ⟨next, hnext⟩ := hlines (number + 1) rest
  refine ⟨next, ?_⟩
  rw [Rule.lines, List.cons_append, List.cons_append, lines,
    line_name rfl h.name_ne_nil h.name, ← hclose, ← hnext]

theorem line_header {r : Reading} (hd : r.draft = none) (kind : RuleKind) (number : Nat) :
    r.line language number kind.header = .ok { r with current := some kind } := by
  obtain ⟨set, current, draft, notices⟩ := r
  obtain rfl : draft = none := hd
  cases kind <;> rfl

theorem line_nil (r : Reading) (number : Nat) : r.line language number [] = .ok r := rfl

theorem reaches_ruleLines {rules : List Rule} (h : ∀ rule ∈ rules, rule.IsReadable language)
    (set : RuleSet) (current : Option RuleKind) (notices : List Notice) :
    ∃ last, Reaches language ⟨set, current, none, notices⟩ (RuleSet.ruleLines current rules)
      ⟨{ set with rules := set.rules ++ rules.map Rule.reread }, last, none, notices⟩ := by
  induction rules generalizing set current with
  | nil =>
    refine ⟨current, ?_⟩
    rw [List.map_nil, List.append_nil]
    exact .nil _
  | cons rule rules ih =>
    have hheader : Reaches language ⟨set, current, none, notices⟩
        (if current = some rule.kind then [] else [[], rule.kind.header])
        ⟨set, some rule.kind, none, notices⟩ := by
      split
      · rename_i hcurrent
        rw [hcurrent]
        exact .nil _
      · exact (Reaches.of_line (line_nil _)).append (.of_line (line_header rfl rule.kind))
    have hrule := reaches_rule (h rule List.mem_cons_self) set notices
    obtain ⟨last, hrest⟩ := ih (fun rule hmem => h rule (List.mem_cons_of_mem _ hmem))
      { set with rules := set.rules ++ [rule.reread] } (some rule.kind)
    refine ⟨last, ?_⟩
    have hall := (hheader.append hrule).append hrest
    rwa [List.append_assoc set.rules] at hall

/-! ## Lists of marks -/

/-- A printed list is a line outside of rules. -/
theorem line_list {r : Reading} (hd : r.draft = none) {c : Char} {name : Text}
    (hname : name.head? = some c) (hc : ¬Text.isSpace c ∧ c ≠ '#') (x : Text) (number : Nat) :
    r.line language number (name ++ " = [".toList ++ x ++ [']']) =
      r.outside language number (name ++ " = [".toList ++ x ++ [']']) := by
  obtain ⟨name, rfl⟩ := List.head?_eq_some_iff.1 hname
  have htrim : Text.trim (c :: name ++ " = [".toList ++ x ++ [']']) =
      c :: name ++ " = [".toList ++ x ++ [']'] := by
    refine Text.trim_of_isTrimmed ⟨fun d hmem => ?_, fun d hmem => ?_⟩
    · cases hmem
      exact hc.1
    · rw [List.getLast?_concat] at hmem
      cases hmem
      decide
  rw [line]
  simp only [htrim, hd]
  simp [hc.2]

theorem lists_printed (name x : Text) : lists name (name ++ " = [".toList ++ x ++ [']']) := by
  rw [lists_iff, List.append_assoc, List.append_assoc]
  exact ⟨List.prefix_append _ _, by simp⟩

theorem line_comments {r : Reading} {marks : List CommentMark} (hd : r.draft = none)
    (hne : marks ≠ []) (h : ∀ mark ∈ marks, mark.IsReadable) (number : Nat) :
    r.line language number ("Comments".toList ++ " = [".toList ++
        Text.join ", ".toList (marks.map CommentMark.print) ++ [']']) =
      .ok { r with set := { r.set with comments := r.set.comments ++ marks } } := by
  have hgroups : groups ("Comments".toList ++ " = [".toList ++
        Text.join ", ".toList (marks.map CommentMark.print) ++ [']']) =
      .ok ((marks.map fun m => m.start ++ ", ".toList ++ m.stop).flatMap splitGroups) := by
    rw [CommentMark.map_print, groups_printed (by decide) (by simpa using hne)]
    rw [List.forall_mem_map]
    exact fun mark _ => CommentMark.not_isBlank
  rw [line_list hd rfl (by decide), outside, if_pos (lists_printed _ _), addComments, hgroups]
  simp only [bind, Except.bind, mapM_commentMark_print h]
  rfl

theorem line_literals {r : Reading} {marks : List LiteralMark} (hd : r.draft = none)
    (hne : marks ≠ []) (h : ∀ mark ∈ marks, mark.IsReadable) (number : Nat) :
    r.line language number ("Text".toList ++ " = [".toList ++
        Text.join ", ".toList (marks.map LiteralMark.print) ++ [']']) =
      match ((marks.map fun m => Text.join ", ".toList m.elements).flatMap splitGroups).mapM
          literalMark with
      | .ok found => .ok { r with set := { r.set with literals := r.set.literals ++ found } }
      | .error cause => .error (.malformed cause, r) := by
  have hgroups : groups ("Text".toList ++ " = [".toList ++
        Text.join ", ".toList (marks.map LiteralMark.print) ++ [']']) =
      .ok ((marks.map fun m => Text.join ", ".toList m.elements).flatMap splitGroups) := by
    rw [LiteralMark.map_print, groups_printed (by decide) (by simpa using hne)]
    rw [List.forall_mem_map]
    exact fun mark hmark => LiteralMark.not_isBlank (h mark hmark)
  have hcomments {x : Text} : ¬lists "Comments".toList ("Text".toList ++ x) := by
    rw [lists_iff]
    rintro ⟨⟨_, hstart⟩, -⟩
    cases hstart
  rw [line_list hd rfl (by decide), outside, if_neg (by simpa using hcomments),
    if_pos (lists_printed _ _), addLiterals, hgroups]
  simp only [bind, Except.bind]
  split <;> rename_i hmarks <;> rw [hmarks] <;> rfl

end Reading

/-! ## Whole files -/

/-- A text that is a line of its own if a newline follows it. -/
def IsLine (l : Text) : Prop := '\n' ∉ l ∧ l.getLast? ≠ some '\r'

theorem isLine_concat {l : Text} {c : Char} (hl : '\n' ∉ l) (hn : c ≠ '\n') (hr : c ≠ '\r') :
    IsLine (l ++ [c]) := by
  refine ⟨by simp [hl, hn.symm], ?_⟩
  rw [List.getLast?_concat]
  exact fun h => hr (Option.some.inj h)

theorem newline_not_mem_append {a t : Text} (ha : '\n' ∉ a) (ht : '\n' ∉ t) : '\n' ∉ a ++ t := by
  simp [ha, ht]

theorem newline_not_mem_statement {body : RuleBody} (h : body.IsReadable language) :
    '\n' ∉ body.statement := by
  cases body with
  | pattern p =>
    exact newline_not_mem_append (newline_not_mem_append (by decide) h.newline) (by decide)
  | constant v => exact newline_not_mem_append (by decide) h.newline_not_mem_print

theorem newline_not_mem_statements {rule : Rule} (h : rule.IsReadable language) :
    ∀ s ∈ rule.statements, '\n' ∉ s := by
  intro s hs
  simp only [Rule.statements, List.mem_append, List.mem_singleton, List.mem_map] at hs
  rcases hs with (((rfl | ⟨c, hc, rfl⟩) | ⟨n, hn, rfl⟩) | hs) | hs
  · exact newline_not_mem_statement h.body
  · exact newline_not_mem_append (by decide) (h.conditions c hc).newline
  · exact newline_not_mem_append (by decide) (isPhrase_ofInt n).newline
  · split at hs
    · obtain rfl := List.mem_singleton.1 hs
      decide
    · cases hs
  · split at hs
    · obtain rfl := List.mem_singleton.1 hs
      decide
    · cases hs

theorem isLine_lines {rule : Rule} (h : rule.IsReadable language) : ∀ l ∈ rule.lines, IsLine l := by
  intro l hl
  simp only [Rule.lines, List.cons_append, List.mem_cons, List.mem_append, List.mem_map,
    List.not_mem_nil, or_false] at hl
  rcases hl with rfl | ⟨s, hs, rfl⟩ | rfl
  · have := isLine_concat (l := rule.name ++ [' ']) (c := '{') (by simp [h.name.newline])
      (by decide) (by decide)
    simpa using this
  · exact isLine_concat (by simp [newline_not_mem_statements h s hs]) (by decide) (by decide)
  · exact ⟨by decide, by decide⟩

theorem isLine_ruleLines {rules : List Rule} (h : ∀ rule ∈ rules, rule.IsReadable language)
    (current : Option RuleKind) : ∀ l ∈ RuleSet.ruleLines current rules, IsLine l := by
  induction rules generalizing current with
  | nil => simp [RuleSet.ruleLines]
  | cons rule rules ih =>
    intro l hl
    rw [RuleSet.ruleLines] at hl
    rcases List.mem_append.1 hl with hl | hl
    · rcases List.mem_append.1 hl with hl | hl
      · have hheader : IsLine [] ∧ IsLine rule.kind.header := by
          cases rule.kind <;> exact ⟨⟨by decide, by decide⟩, ⟨by decide, by decide⟩⟩
        split at hl
        · cases hl
        · rcases List.mem_cons.1 hl with rfl | hl
          · exact hheader.1
          · obtain rfl := List.mem_singleton.1 hl
            exact hheader.2
      · exact isLine_lines (h rule List.mem_cons_self) l hl
    · exact ih (fun rule hmem => h rule (List.mem_cons_of_mem _ hmem)) _ l hl

theorem isLine_markLine {name : Text} {marks : List Text} (hname : '\n' ∉ name)
    (hmarks : ∀ m ∈ marks, '\n' ∉ m) : ∀ l ∈ RuleSet.markLine name marks, IsLine l := by
  intro l hl
  unfold RuleSet.markLine at hl
  split at hl
  · cases hl
  · obtain rfl := List.mem_singleton.1 hl
    refine isLine_concat ?_ (by decide) (by decide)
    intro hmem
    simp only [List.mem_append] at hmem
    rcases hmem with (hmem | hmem) | hmem
    · exact hname hmem
    · revert hmem
      decide
    · rcases Text.mem_of_mem_join hmem with hmem | ⟨m, hm, hmem⟩
      · revert hmem
        decide
      · exact hmarks m hm hmem

theorem newline_not_mem_bracketed {gs : List Text} (h : ∀ g ∈ gs, '\n' ∉ g) :
    ∀ m ∈ gs.map bracketed, '\n' ∉ m := by
  rw [List.forall_mem_map]
  intro g hg
  simp [bracketed, h g hg]

theorem lines_print {set : RuleSet} (h : set.IsReadable language) :
    Text.lines set.print = set.printedLines := by
  refine Text.lines_flatMap_newline fun l hl => ?_
  simp only [RuleSet.printedLines, CommentMark.map_print, LiteralMark.map_print,
    List.mem_append] at hl
  rcases hl with (hl | hl) | hl
  · refine isLine_markLine (by decide) (newline_not_mem_bracketed ?_) l hl
    rw [List.forall_mem_map]
    intro mark hmark
    obtain ⟨hstart, -, hstop, -⟩ := h.comments mark hmark
    exact newline_not_mem_append (newline_not_mem_append hstart.newline (by decide)) hstop
  · refine isLine_markLine (by decide) (newline_not_mem_bracketed ?_) l hl
    rw [List.forall_mem_map]
    intro mark hmark hmem
    rcases Text.mem_of_mem_join hmem with hmem | ⟨x, hx, hmem⟩
    · revert hmem
      decide
    · exact ((h.literals mark hmark).element x hx).newline hmem
  · exact isLine_ruleLines h.rules none l hl

namespace Reading

theorem reaches_comments {set : RuleSet} (h : ∀ mark ∈ set.comments, mark.IsReadable) :
    Reaches language initial
      (RuleSet.markLine "Comments".toList (set.comments.map CommentMark.print))
      ⟨⟨set.comments, [], []⟩, none, none, []⟩ := by
  unfold RuleSet.markLine
  split
  · rename_i hempty
    have hnil : set.comments = [] := by simpa using hempty
    rw [hnil]
    exact .nil initial
  · rename_i hempty
    exact .of_line (line_comments rfl (by simpa using hempty) h)

end Reading

/-- What is read from the printed text of a readable rule set. -/
theorem parse_print {set : RuleSet} (h : set.IsReadable language) :
    match ((set.literals.map fun m => Text.join ", ".toList m.elements).flatMap splitGroups).mapM
        literalMark with
    | .ok found =>
      (parse language set.print).1 = .ok ⟨set.comments, found, set.rules.map Rule.reread⟩
    | .error _ => ∃ e, (parse language set.print).1 = .error e := by
  have hcomments : Reading.Reaches language .initial _ _ := Reading.reaches_comments h.comments
  split
  · rename_i found hfound
    have hliterals : Reading.Reaches language ⟨⟨set.comments, [], []⟩, none, none, []⟩
        (RuleSet.markLine "Text".toList (set.literals.map LiteralMark.print))
        ⟨⟨set.comments, found, []⟩, none, none, []⟩ := by
      unfold RuleSet.markLine
      split
      · rename_i hempty
        have hnil : set.literals = [] := by simpa using hempty
        rw [hnil] at hfound
        cases hfound
        exact .nil _
      · rename_i hempty
        refine .of_line fun number => ?_
        rw [Reading.line_literals rfl (by simpa using hempty) h.literals, hfound]
        rfl
    obtain ⟨last, hrules⟩ := Reading.reaches_ruleLines h.rules ⟨set.comments, found, []⟩ none []
    obtain ⟨next, hnext⟩ := ((hcomments.append hliterals).append hrules) 1 []
    rw [List.append_nil] at hnext
    rw [parse, lines_print h, RuleSet.printedLines, hnext]
    rfl
  · rename_i cause hcause
    have hne : set.literals ≠ [] := by
      intro hnil
      rw [hnil] at hcause
      cases hcause
    obtain ⟨next, hnext⟩ := hcomments 1
      (RuleSet.markLine "Text".toList (set.literals.map LiteralMark.print) ++
        RuleSet.ruleLines none set.rules)
    rw [parse, lines_print h, RuleSet.printedLines, List.append_assoc, hnext, RuleSet.markLine,
      if_neg (by simpa using hne), List.singleton_append, Reading.lines,
      Reading.line_literals rfl hne h.literals, hcause]
    exact ⟨_, rfl⟩

/-- A rule set that was read from a file is read back from its printed text exactly if no condition
and no value leaves a quote open, and no two neighbouring elements of a literal mark look like the
border between two groups. -/
theorem parse_print_eq_self_iff {text : Text} {set : RuleSet}
    (h : (parse language text).1 = .ok set) :
    (parse language set.print).1 = .ok set ↔
      (∀ rule ∈ set.rules, rule.QuotesPaired) ∧
        ∀ mark ∈ set.literals, BracketsApart mark.elements := by
  have hset := isReadable_parse h
  have hrules : set.rules.map Rule.reread = set.rules ↔ ∀ rule ∈ set.rules, rule.QuotesPaired := by
    rw [map_eq_self_iff]
    exact forall₂_congr fun rule hmem => Rule.reread_eq_self_iff (hset.rules rule hmem)
  rw [← mapM_literalMark_print_iff hset.literals, ← hrules]
  have hread := parse_print hset
  split at hread
  · rename_i found hfound
    obtain ⟨comments, literals, rules⟩ := set
    rw [hread, hfound]
    simp [and_comm]
  · rename_i cause hcause
    obtain ⟨e, he⟩ := hread
    rw [he, hcause]
    simp

/-- A file with marks, a value with operands, a condition that holds a semicolon between quotes and
a pattern that holds quotes. -/
theorem parse_print_eq_self_path :
    let language : Pattern.Language := fun _ => .ok fun _ => none
    let text : Text := ["Comments=[[/* , */]]", "Text = [[ \", \\\",\"]]", "Variables",
      "path \x7b value: |d|  +  x; condition: \"a;b\"; total_number: -2 \x7d", "Identifiers",
      "type \x7b", "pattern: \"\"(x)\"y\"; DEBUG \x7d"].flatMap (·.toList ++ ['\n'])
    let set : RuleSet := ⟨[⟨"/*".toList, "*/".toList⟩], [⟨['"'], ['"'], ["\\\"".toList]⟩],
      [⟨"path".toList, .vars, .constant (.binary "|d|".toList .concat ['x']),
          ["\"a;b\"".toList], some (-2), false, false⟩,
        ⟨"type".toList, .identifiers, .pattern "\"(x)\"y".toList, [], none, false, true⟩]⟩
    (parse language text).1 = .ok set ∧ (parse language set.print).1 = .ok set := by
  intro language text set
  have hread : (parse language text).1 = .ok set := by decide +kernel
  refine ⟨hread, (parse_print_eq_self_iff hread).2 ⟨?_, by decide⟩⟩
  intro rule hrule
  rcases List.mem_cons.1 hrule with rfl | hrule
  · refine ⟨by decide, ?_⟩
    rintro v ⟨⟩ -
    decide
  · obtain rfl := List.mem_singleton.1 hrule
    exact ⟨by decide, nofun⟩

end RuleFile

end SourceAtlas
