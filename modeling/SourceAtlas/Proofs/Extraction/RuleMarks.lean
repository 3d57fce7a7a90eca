import Mathlib
import SourceAtlas.Proofs.Extraction.Agreement
import SourceAtlas.Proofs.Extraction.Attempts

/-!
# Conditions on earlier rules

A condition may ask whether a rule has linked the source to the target, or the target to the source.
The answer comes from the records of the pass that is under way. They are those of the earlier
attempts, also where the edge had the fact already, and all of them are records of links from the
source. So the first question is about the earlier course of the pass, and the answer to the second
is always no.
-/

namespace SourceAtlas.Extraction.Surroundings

variable {s : Surroundings} {links : Links} {applications : List (Rule × Hit)}
  {earlier later : List Attempt} {a b : Attempt} {name : Text}

/-! ## Moments of a pass -/

/-- The applications of the dependency pass over the file of the source, each of which makes its
attempts. If the file can be opened, they come in the order of the plain procedure: constant rules
first, then line by line, and rules in the order of the set. -/
structure Performs (s : Surroundings) (fs : FileSystem) (set : RuleSet)
    (applications : List (Rule × Hit)) : Prop where
  carriesOut : Pass.CarriesOut s.language fs set .dependencies (dependencySink s) .empty
    s.source.path applications
  state : ∀ source, s.tree.get? source = some s.source →
    (dependencies s.language fs set s.tree s.index source).1.state = s.after applications
  attempts : ∀ a ∈ applications, ∀ links,
    (dependencySink s).apply links a.1 a.2 = s.attemptAll links (s.attempts links a.1 a.2)
  order : ∀ stream, fs.openFile s.source.path = .ok stream →
    applications = (PlainPass.pass s.language set .dependencies (dependencySink s) .empty
      stream).applications.map fun a => (a.rule, a.hit)

theorem exists_performs (s : Surroundings) (fs : FileSystem) (set : RuleSet) :
    ∃ applications, s.Performs fs set applications := by
  obtain ⟨applications, happs⟩ := Pass.exists_carriesOut s.language fs set .dependencies
    (dependencySink s) .empty s.source.path
  refine ⟨applications, happs, ?_, fun a _ links => s.apply_eq_attemptAll links a.1 a.2, ?_⟩
  · intro source hsource
    rw [dependencies, hsource]
    exact happs.state
  · intro stream hread
    rw [← happs.traced, PlainPass.file_of_openFile hread, (PlainPass.ends_content ..).state,
      PlainPass.pass_traced]
    rfl

/-- What the conditions of a rule look at when it is tried after some other attempts. -/
def contextAt (s : Surroundings) (earlier : List Attempt) (a : Attempt) : Condition.Context :=
  ⟨s.source, a.target, a.line, (s.attemptAll .empty earlier).1.applied⟩

/-- What is recorded was tried at some moment, and the conditions held then. -/
theorem exists_moment_of_mem_recorded {attempts : List Attempt}
    (h : b ∈ s.recorded links attempts) :
    ∃ earlier later, attempts = earlier ++ b :: later ∧
      s.passes (s.attemptAll links earlier).1 b := by
  induction attempts generalizing links with
  | nil => cases h
  | cons a attempts ih =>
    have hlater (h : b ∈ s.recorded (s.attempt links a).1 attempts) :
        ∃ earlier later, a :: attempts = earlier ++ b :: later ∧
          s.passes (s.attemptAll links earlier).1 b := by
      obtain ⟨earlier, later, rfl, hpasses⟩ := ih h
      exact ⟨a :: earlier, later, rfl, hpasses⟩
    rw [recorded] at h
    split at h
    · rename_i hpasses
      rcases List.mem_cons.1 h with rfl | h
      · exact ⟨[], attempts, rfl, hpasses⟩
      · exact hlater h
    · exact hlater h

/-! ## Links that were made -/

/-- The record of a pass holds the records of the earlier attempts. -/
theorem contains_attemptAll {here there : EntityId} :
    (s.attemptAll .empty earlier).1.applied.contains here name there ↔
      here = s.source.id ∧
        ∃ b ∈ s.recorded .empty earlier, b.rule.name = name ∧ b.target.id = there := by
  rw [attemptAll_eq_recordAll, Links.contains_recordAll]
  simp [Links.empty, AppliedRules.empty, AppliedRules.contains]

theorem evaluate_source_wrap (hne : name ≠ []) (hspace : ∀ c ∈ name, ¬ Text.isSpace c)
    (hmark : ¬ Marker.source.delimiter <:+: name)
    (hvars : ∀ v ∈ s.source.vars, v.name ≠ Marker.source.wrap name) :
    Condition.evaluate s.language (s.contextAt earlier a) (Marker.source.wrap name) ↔
      ∃ b ∈ s.recorded .empty earlier, b.rule.name = name ∧ b.target.id = a.target.id := by
  rw [Condition.evaluate_word (Marker.wrap_ne_nil _ _) (Marker.not_isSpace_of_mem_wrap hspace),
    Condition.single?_source_wrap hne hmark hvars, Option.getD_some, contextAt,
    contains_attemptAll]
  simp only [true_and]

/-- During a pass, a condition on an earlier rule between source and target holds if and only if the
rule was recorded against the target before. -/
theorem source_mark_holds_iff (s : Surroundings) (fs : FileSystem) (set : RuleSet) (hne : name ≠ [])
    (hspace : ∀ c ∈ name, ¬ Text.isSpace c) (hmark : ¬ Marker.source.delimiter <:+: name)
    (hvars : ∀ v ∈ s.source.vars, v.name ≠ Marker.source.wrap name) :
    ∃ applications, s.Performs fs set applications ∧
      ∀ earlier a later, s.history .empty applications = earlier ++ a :: later →
        (Condition.evaluate s.language (s.contextAt earlier a) (Marker.source.wrap name) ↔
          ∃ b ∈ s.recorded .empty earlier, b.rule ∈ set.rulesOf .dependencies ∧
            b.rule.name = name ∧ b.target.id = a.target.id) := by
  obtain ⟨applications, hperforms⟩ := s.exists_performs fs set
  refine ⟨applications, hperforms, fun earlier a later hsplit => ?_⟩
  rw [evaluate_source_wrap hne hspace hmark hvars]
  refine exists_congr fun b => and_congr_right fun hb => ?_
  have hhistory : b ∈ s.history .empty applications := by
    rw [hsplit]
    exact List.mem_append_left _ ((s.recorded_sublist .empty earlier).subset hb)
  have hrule : b.rule ∈ set.rulesOf .dependencies := by
    obtain ⟨application, happlication, heq⟩ := List.mem_map.1 (mem_history hhistory).1
    exact heq ▸ hperforms.carriesOut.rule application happlication
  simp only [hrule, true_and]

/-- A call is only accepted of a file that was imported: the first one is, the second is not. -/
theorem source_mark_holds_iff_imported :
    let language := Pattern.Language.beginnings
    let file (id : EntityId) : Entity := { Entity.file id ['/', 's'] with fileType := some ['L'] }
    let declared (name : Char) : Identifier := ⟨[name], ['r'], 0, false⟩
    let index := (IdentifierIndex.empty.insert 1 (declared 'x')).insert 2 (declared 'y')
    let s : Surroundings := ⟨language, file 0, ⟨0, [file 0, file 1, file 2]⟩, index⟩
    let files : FileSystem :=
      ⟨.directory [(['s'], .file [105, 120, 10, 99, 120, 10, 99, 121])], ['/']⟩
    let imports : Rule := ⟨['i'], .dependencies, .pattern ['i'], [], none, false, false⟩
    let calls : Rule :=
      ⟨['c'], .dependencies, .pattern ['c'], ["||i||".toList], none, false, false⟩
    let first : Attempt := ⟨imports, "ix".toList, file 1, declared 'x'⟩
    let second : Attempt := ⟨calls, "cx".toList, file 1, declared 'x'⟩
    let third : Attempt := ⟨calls, "cy".toList, file 2, declared 'y'⟩
    ∃ applications, s.Performs files ⟨[], [], [imports, calls]⟩ applications ∧
      s.history .empty applications = [first, second, third] ∧
      Condition.evaluate language (s.contextAt [first] second) (Marker.source.wrap ['i']) ∧
      ¬ Condition.evaluate language (s.contextAt [first, second] third)
        (Marker.source.wrap ['i']) := by
  intro language file declared index s files imports calls first second third
  obtain ⟨applications, hperforms, hmarks⟩ := source_mark_holds_iff s files
    ⟨[], [], [imports, calls]⟩ (List.cons_ne_nil 'i' []) (List.forall_mem_singleton.2 (by decide))
    (by decide) (List.forall_mem_nil _)
  have happlications : applications = [(imports, ⟨"ix".toList, ['x']⟩),
      (calls, ⟨"cx".toList, ['x']⟩), (calls, ⟨"cy".toList, ['y']⟩)] := by
    rw [← hperforms.carriesOut.traced]
    set_option maxRecDepth 2000 in cbv
  have hhistory : s.history .empty applications = [first, second, third] := by
    rw [happlications]
    decide +kernel
  refine ⟨applications, hperforms, hhistory, ?_, ?_⟩
  · rw [hmarks [first] second [third] hhistory]
    decide +kernel
  · rw [hmarks [first, second] third [] hhistory]
    decide +kernel

/-! ## Links the other way -/

theorem single?_target_wrap_at (hdiffers : a.target.id ≠ s.source.id) (hne : name ≠ [])
    (hmark : ¬ Marker.target.delimiter <:+: name)
    (hvars : ∀ v ∈ s.source.vars, v.name ≠ Marker.target.wrap name) :
    Condition.single? s.language (s.contextAt earlier a) (Marker.target.wrap name) =
      some false := by
  rw [Condition.single?_target_wrap hne hmark hvars, Option.some_inj, Bool.eq_false_iff, contextAt,
    Ne, contains_attemptAll]
  exact fun h => hdiffers h.1

theorem evaluate_target_wrap (hdiffers : a.target.id ≠ s.source.id)
    (hspace : ∀ c ∈ name, ¬ Text.isSpace c) (hmark : ¬ Marker.target.delimiter <:+: name)
    (hvars : ∀ v ∈ s.source.vars, v.name ≠ Marker.target.wrap name) :
    Condition.evaluate s.language (s.contextAt earlier a) (Marker.target.wrap name) = false := by
  rw [Condition.evaluate_word (Marker.wrap_ne_nil _ _) (Marker.not_isSpace_of_mem_wrap hspace)]
  by_cases hne : name = []
  · subst hne
    rw [Condition.single?_target_wrap_nil hvars]
    rfl
  · rw [single?_target_wrap_at hdiffers hne hmark hvars]
    rfl

theorem evaluate_not_target_wrap (hdiffers : a.target.id ≠ s.source.id) (hne : name ≠ [])
    (hspace : ∀ c ∈ name, ¬ Text.isSpace c) (hmark : ¬ Marker.target.delimiter <:+: name)
    (hvars : ∀ v ∈ s.source.vars, v.name ≠ Marker.target.wrap name) :
    Condition.evaluate s.language (s.contextAt earlier a)
      ("not ".toList ++ Marker.target.wrap name) := by
  rw [Condition.evaluate_not_word (Marker.wrap_ne_nil _ _) (Marker.not_isSpace_of_mem_wrap hspace),
    single?_target_wrap_at hdiffers hne hmark hvars]
  rfl

end SourceAtlas.Extraction.Surroundings
