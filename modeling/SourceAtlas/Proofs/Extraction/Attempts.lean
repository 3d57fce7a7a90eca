import SourceAtlas.Proofs.Extraction.Conditions
import SourceAtlas.Proofs.Extraction.Resolution

/-!
# The attempts of a pass

Linking a source is a sequence of attempts: the conditions of a rule are evaluated against a
target, and if they hold, the rule is recorded against it. Which attempt comes next depends on the
outcome of the earlier ones. Once they are listed, though, a pass does no more than to make them one
after the other, with the same links and the same notices. So the links at every moment are those
that the earlier attempts have recorded.
-/

namespace SourceAtlas.Extraction

/-- A rule that applies to a line is tried on a target, by an identifier of the target. -/
structure Attempt where
  rule : Rule
  line : Text
  target : Entity
  identifier : Identifier
  deriving DecidableEq

/-- The fact that is found if the attempt is recorded. -/
def Attempt.fact (a : Attempt) : Fact := ⟨a.identifier, a.rule.name, a.rule.hidden⟩

/-- The links after some attempts are recorded. -/
def Links.recordAll (links : Links) (source : EntityId) (records : List Attempt) : Links :=
  records.foldl (fun links a => links.record source a.rule a.target.id a.identifier) links

theorem Links.contains_recordAll {links : Links} {source here there : EntityId}
    {records : List Attempt} {name : Text} :
    (links.recordAll source records).applied.contains here name there ↔
      links.applied.contains here name there ∨
        here = source ∧ ∃ a ∈ records, a.rule.name = name ∧ a.target.id = there := by
  induction records generalizing links with
  | nil => simp [recordAll]
  | cons a records ih =>
    rw [recordAll, List.foldl_cons, ← recordAll, ih, record, AppliedRules.contains_record,
      List.exists_mem_cons_iff, or_assoc]
    refine or_congr_right ?_
    rw [and_or_left, eq_comm (a := name), eq_comm (a := there)]

namespace Surroundings

/-! ## Making attempts -/

/-- Whether the conditions of the rule hold. -/
def passes (s : Surroundings) (links : Links) (a : Attempt) : Bool :=
  (s.failure? links a.rule a.line a.target).isNone

/-- Makes an attempt. -/
def attempt (s : Surroundings) (links : Links) (a : Attempt) : Links × List Notice :=
  (s.link links a.rule a.line a.target a.identifier).2

/-- Makes attempts one after the other. -/
def attemptAll (s : Surroundings) (links : Links) : List Attempt → Links × List Notice
  | [] => (links, [])
  | a :: attempts =>
    let (links, notices) := s.attempt links a
    let (links, more) := s.attemptAll links attempts
    (links, notices ++ more)

/-- Those of the attempts that are recorded. -/
def recorded (s : Surroundings) (links : Links) : List Attempt → List Attempt
  | [] => []
  | a :: attempts =>
    let others := s.recorded (s.attempt links a).1 attempts
    if s.passes links a then a :: others else others

/-! ## Listing attempts -/

/-- The attempts to link the source by the first identifier of a list that allows it. -/
def attemptsFirst (s : Surroundings) (rule : Rule) (line : Text) (links : Links) :
    List Identifier → List Attempt
  | [] => []
  | i :: is =>
    if s.source.hasIdentifier i then s.attemptsFirst rule line links is
    else
      match s.candidate? i with
      | none => s.attemptsFirst rule line links is
      | some target =>
        let a : Attempt := ⟨rule, line, target, i⟩
        a :: if s.passes links a then [] else s.attemptsFirst rule line links is

/-- The attempts to resolve names one after the other. -/
def attemptsTokens (s : Surroundings) (rule : Rule) (line : Text) (links : Links) :
    List Text → List Attempt
  | [] => []
  | token :: rest =>
    let now := s.attemptsFirst rule line links (s.index.byName token)
    now ++ s.attemptsTokens rule line (s.attemptAll links now).1 rest

/-- The attempts to link the source to all owners but those that are linked already. -/
def attemptsAll (s : Surroundings) (rule : Rule) (line : Text) (linked : List EntityId)
    (links : Links) : List Identifier → List Attempt
  | [] => []
  | i :: is =>
    match s.candidate? i with
    | none => s.attemptsAll rule line linked links is
    | some target =>
      if linked.contains target.id then s.attemptsAll rule line linked links is
      else
        let a : Attempt := ⟨rule, line, target, i⟩
        a :: s.attemptsAll rule line (if s.passes links a then target.id :: linked else linked)
          (s.attempt links a).1 is

/-- The attempts of one application of a rule. -/
def attempts (s : Surroundings) (links : Links) (rule : Rule) (hit : Hit) : List Attempt :=
  match rule.body with
  | .pattern _ => s.attemptsTokens rule hit.line links (tokens hit.capture)
  | .constant _ => s.attemptsAll rule hit.line [] links s.index.all

/-- The attempts of several applications. -/
def history (s : Surroundings) (links : Links) : List (Rule × Hit) → List Attempt
  | [] => []
  | (rule, hit) :: applications =>
    let now := s.attempts links rule hit
    now ++ s.history (s.attemptAll links now).1 applications

/-- What applications record, from the start of a pass on. -/
def records (s : Surroundings) (applications : List (Rule × Hit)) : List Attempt :=
  s.recorded .empty (s.history .empty applications)

variable {s : Surroundings} {rule : Rule} {line : Text} {links : Links} {a : Attempt}

theorem attempt_of_passes (h : s.passes links a) :
    (s.attempt links a).1 = links.record s.source.id a.rule a.target.id a.identifier := by
  rw [passes, Option.isNone_iff_eq_none] at h
  rw [attempt, link, h]

theorem attempt_of_not_passes (h : ¬ s.passes links a) : (s.attempt links a).1 = links := by
  rw [passes, Option.isNone_iff_eq_none] at h
  obtain ⟨failed, hfailed⟩ := Option.ne_none_iff_exists'.1 h
  rw [attempt, link, hfailed]

theorem link_eq_attempt (s : Surroundings) (links : Links) (a : Attempt) :
    s.link links a.rule a.line a.target a.identifier = (s.passes links a, s.attempt links a) := by
  rw [attempt, link, passes]
  cases s.failure? links a.rule a.line a.target <;> rfl

theorem attemptAll_append (s : Surroundings) (links : Links) (earlier later : List Attempt) :
    s.attemptAll links (earlier ++ later) =
      let (now, notices) := s.attemptAll links earlier
      let (last, more) := s.attemptAll now later
      (last, notices ++ more) := by
  induction earlier generalizing links with
  | nil => rfl
  | cons a earlier ih => simp only [List.cons_append, attemptAll, ih, List.append_assoc]

/-! ## A pass makes its attempts -/

theorem linkFirst_eq_attemptAll (s : Surroundings) (rule : Rule) (line : Text) (links : Links)
    (is : List Identifier) :
    s.linkFirst rule line links is = s.attemptAll links (s.attemptsFirst rule line links is) := by
  induction is with
  | nil => rfl
  | cons i is ih =>
    rw [linkFirst, attemptsFirst]
    split
    · exact ih
    · cases s.candidate? i with
      | none => exact ih
      | some target =>
        have hlink := s.link_eq_attempt links ⟨rule, line, target, i⟩
        simp only at hlink
        simp only [hlink, attemptAll]
        by_cases hpasses : s.passes links ⟨rule, line, target, i⟩
        · simp only [hpasses, if_true, attemptAll, List.append_nil]
        · simp only [hpasses, attempt_of_not_passes hpasses, ih]
          rfl

theorem linkTokens_eq_attemptAll (s : Surroundings) (rule : Rule) (line : Text) (links : Links)
    (tokens : List Text) :
    s.linkTokens rule line links tokens =
      s.attemptAll links (s.attemptsTokens rule line links tokens) := by
  induction tokens generalizing links with
  | nil => rfl
  | cons token rest ih =>
    rw [linkTokens, attemptsTokens, attemptAll_append, linkFirst_eq_attemptAll]
    simp only [ih]

theorem linkAll_eq_attemptAll (s : Surroundings) (rule : Rule) (line : Text)
    (linked : List EntityId) (links : Links) (is : List Identifier) :
    s.linkAll rule line linked links is =
      s.attemptAll links (s.attemptsAll rule line linked links is) := by
  induction is generalizing linked links with
  | nil => rfl
  | cons i is ih =>
    rw [linkAll, attemptsAll]
    cases s.candidate? i with
    | none => exact ih linked links
    | some target =>
      have hlink := s.link_eq_attempt links ⟨rule, line, target, i⟩
      simp only at hlink
      simp only [hlink, ih]
      split
      · rfl
      · rfl

/-- To apply a rule is to make its attempts one after the other. -/
theorem apply_eq_attemptAll (s : Surroundings) (links : Links) (rule : Rule) (hit : Hit) :
    (dependencySink s).apply links rule hit = s.attemptAll links (s.attempts links rule hit) := by
  cases hbody : rule.body with
  | pattern template =>
    simp only [dependencySink, attempts, hbody, linkTokens_eq_attemptAll]
  | constant value =>
    simp only [dependencySink, attempts, hbody, linkAll_eq_attemptAll]

theorem applyAll_eq_attemptAll (s : Surroundings) (links : Links)
    (applications : List (Rule × Hit)) :
    (dependencySink s).applyAll links applications =
      (s.attemptAll links (s.history links applications)).1 := by
  induction applications generalizing links with
  | nil => rfl
  | cons application applications ih =>
    rw [history, attemptAll_append, ← ih, ← apply_eq_attemptAll]
    rfl

/-! ## What is tried -/

theorem mem_attemptsFirst {is : List Identifier} (h : a ∈ s.attemptsFirst rule line links is) :
    a.rule = rule ∧ s.candidate? a.identifier = some a.target := by
  induction is with
  | nil => cases h
  | cons i is ih =>
    rw [attemptsFirst] at h
    split at h
    · exact ih h
    · split at h
      · exact ih h
      · rename_i target hc
        rcases List.mem_cons.1 h with rfl | h
        · exact ⟨rfl, hc⟩
        · split at h
          · cases h
          · exact ih h

theorem mem_attemptsTokens {tokens : List Text}
    (h : a ∈ s.attemptsTokens rule line links tokens) :
    a.rule = rule ∧ s.candidate? a.identifier = some a.target := by
  induction tokens generalizing links with
  | nil => cases h
  | cons token tokens ih =>
    rcases List.mem_append.1 h with h | h
    · exact mem_attemptsFirst h
    · exact ih h

theorem mem_attemptsAll {linked : List EntityId} {is : List Identifier}
    (h : a ∈ s.attemptsAll rule line linked links is) :
    a.rule = rule ∧ s.candidate? a.identifier = some a.target := by
  induction is generalizing linked links with
  | nil => cases h
  | cons i is ih =>
    rw [attemptsAll] at h
    split at h
    · exact ih h
    · rename_i target hc
      split at h
      · exact ih h
      · rcases List.mem_cons.1 h with rfl | h
        · exact ⟨rfl, hc⟩
        · exact ih h

theorem mem_attempts {hit : Hit} (h : a ∈ s.attempts links rule hit) :
    a.rule = rule ∧ s.candidate? a.identifier = some a.target := by
  unfold attempts at h
  split at h
  · exact mem_attemptsTokens h
  · exact mem_attemptsAll h

/-- Only rules that are applied are tried, and only on candidates. -/
theorem mem_history {applications : List (Rule × Hit)} (h : a ∈ s.history links applications) :
    a.rule ∈ applications.map Prod.fst ∧ s.candidate? a.identifier = some a.target := by
  induction applications generalizing links with
  | nil => cases h
  | cons application applications ih =>
    rcases List.mem_append.1 h with h | h
    · obtain ⟨hrule, hc⟩ := mem_attempts h
      exact ⟨hrule ▸ List.mem_cons_self, hc⟩
    · obtain ⟨hrule, hc⟩ := ih h
      exact ⟨List.mem_cons_of_mem _ hrule, hc⟩

theorem candidate?_ne_source (hnumbered : s.tree.IsNumbered) {i : Identifier} {target : Entity}
    (h : s.candidate? i = some target) : target.id ≠ s.source.id := by
  obtain ⟨owner, -, hdiffers, hget, -⟩ := candidate?_eq_some h
  rwa [hnumbered owner target hget]

/-! ## What is recorded -/

theorem recorded_sublist (s : Surroundings) (links : Links) (attempts : List Attempt) :
    (s.recorded links attempts).Sublist attempts := by
  induction attempts generalizing links with
  | nil => exact .slnil
  | cons a attempts ih =>
    rw [recorded]
    split
    · exact (ih _).cons_cons a
    · exact (ih _).cons a

theorem recorded_append (s : Surroundings) (links : Links) (earlier later : List Attempt) :
    s.recorded links (earlier ++ later) =
      s.recorded links earlier ++ s.recorded (s.attemptAll links earlier).1 later := by
  induction earlier generalizing links with
  | nil => rfl
  | cons a earlier ih =>
    simp only [List.cons_append, recorded, attemptAll, ih]
    split <;> rfl

/-- Attempts change the links by what is recorded, and by nothing else. -/
theorem attemptAll_eq_recordAll (s : Surroundings) (links : Links) (attempts : List Attempt) :
    (s.attemptAll links attempts).1 =
      links.recordAll s.source.id (s.recorded links attempts) := by
  induction attempts generalizing links with
  | nil => rfl
  | cons a attempts ih =>
    rw [attemptAll, recorded]
    simp only [ih]
    by_cases hpasses : s.passes links a
    · rw [if_pos hpasses, attempt_of_passes hpasses]
      rfl
    · rw [if_neg hpasses, attempt_of_not_passes hpasses]

theorem history_append (s : Surroundings) (links : Links) (earlier later : List (Rule × Hit)) :
    s.history links (earlier ++ later) =
      s.history links earlier ++ s.history ((dependencySink s).applyAll links earlier) later := by
  induction earlier generalizing links with
  | nil => rfl
  | cons application earlier ih =>
    rw [List.cons_append, history, history, ih, ← apply_eq_attemptAll, List.append_assoc]
    rfl

theorem after_eq_attemptAll (s : Surroundings) (applications : List (Rule × Hit)) :
    s.after applications = (s.attemptAll .empty (s.history .empty applications)).1 :=
  s.applyAll_eq_attemptAll .empty applications

theorem after_eq_recordAll (s : Surroundings) (applications : List (Rule × Hit)) :
    s.after applications = Links.empty.recordAll s.source.id (s.records applications) := by
  rw [after_eq_attemptAll, attemptAll_eq_recordAll]
  rfl

/-- An application adds to the records what it records itself. -/
theorem records_concat (s : Surroundings) (earlier : List (Rule × Hit)) (rule : Rule) (hit : Hit) :
    s.records (earlier ++ [(rule, hit)]) = s.records earlier ++
      s.recorded (s.after earlier) (s.attempts (s.after earlier) rule hit) := by
  rw [records, history_append, recorded_append, ← after_eq_attemptAll]
  simp only [history, List.append_nil]
  rfl

end Surroundings

end SourceAtlas.Extraction
