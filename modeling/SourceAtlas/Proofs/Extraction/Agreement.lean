import SourceAtlas.Proofs.Extraction.PlainPass

/-!
# Passes agree with the plain procedure

The rules that a pass has kept are exactly those that may apply once more, each with the number of
its applications and, if a matcher was built for it, the right one. This is so at the start and
after every line, so a pass and the plain procedure do the same from line to line; and when no rule
is kept, the plain procedure has nothing left to do either. A fault behind the lines is met if a
rule is kept up to there.
-/

namespace SourceAtlas.PlainPass

variable {σ : Type} {language : Pattern.Language} {sink : Sink σ} {entries : List (Rule × Nat)}

/-! ## Rules that are kept -/

/-- An entry of the list that a pass keeps agrees with the record, and its matcher is the one of
the pattern that it was built for. -/
structure Tracks (language : Pattern.Language) (r : Record σ) (entry : Rule × Nat)
    (a : Pass.Active) : Prop where
  rule : a.rule = entry.1
  body : entry.1.body = .pattern a.template
  count : a.count = r.count entry.2
  compiled : ∀ pattern find, a.compiled = some (pattern, find) →
    find = (language pattern).toOption

variable {r : Record σ} {entry : Rule × Nat} {a : Pass.Active}

theorem Tracks.matcher_eq (h : Tracks language r entry a) (pattern : Text) :
    (a.matcher language pattern).1 = (language pattern).toOption := by
  unfold Pass.Active.matcher
  simp only
  split
  · rename_i latest find hcompiled
    split
    · rename_i hlatest
      subst hlatest
      exact h.compiled latest find hcompiled
    · cases language pattern <;> rfl
  · cases language pattern <;> rfl

theorem Tracks.congr {r' : Record σ} (h : Tracks language r entry a)
    (hcount : r'.count entry.2 = r.count entry.2) : Tracks language r' entry a :=
  ⟨h.rule, h.body, h.count.trans hcount.symm, h.compiled⟩

theorem Tracks.tryRule_eq (h : Tracks language r entry a) (hlive : isLive r entry) (line : Text) :
    tryRule language sink line r entry =
      match (language (sink.expand r.state a.template)).toOption.bind (· line) with
      | none => r
      | some group => r.apply sink entry ⟨line, group.getD []⟩ := by
  have hcap : entry.1.cap.all (r.count entry.2 < ·) := (Bool.and_eq_true_iff.1 hlive).2
  rw [tryRule, h.body]
  simp only [if_pos hcap]
  cases language (sink.expand r.state a.template) with
  | error fault => rfl
  | ok find => rfl

/-- Trying a rule that is kept does what the plain procedure does, and the rule is still tracked. -/
theorem tracks_tryRule (h : Tracks language r entry a) (hlive : isLive r entry)
    {o : Pass.Outcome σ} (ho : o.state = r.state) (line : Text) :
    Tracks language (tryRule language sink line r entry) entry
        (Pass.tryRule language sink line o a).1 ∧
      (Pass.tryRule language sink line o a).2.state =
        (tryRule language sink line r entry).state := by
  rw [h.tryRule_eq hlive, Pass.tryRule]
  simp only [h.matcher_eq, ho]
  cases (language (sink.expand r.state a.template)).toOption.bind (· line) with
  | none =>
    refine ⟨⟨h.rule, h.body, h.count, ?_⟩, ho⟩
    rintro pattern find ⟨⟩
    rfl
  | some group =>
    refine ⟨⟨h.rule, h.body, ?_, ?_⟩, ?_⟩
    · simp only
      rw [count_apply, if_pos rfl, h.count]
    · rintro pattern find ⟨⟩
      rfl
    · simp only [Pass.Outcome.apply, Pass.Outcome.note, Record.apply, ho, h.rule]

theorem tracks_tryRules {active : List Pass.Active} (hn : (entries.map Prod.snd).Nodup)
    (h : List.Forall₂ (Tracks language r) entries active)
    (hlive : ∀ entry ∈ entries, isLive r entry) {o : Pass.Outcome σ} (ho : o.state = r.state)
    (line : Text) :
    List.Forall₂ (Tracks language (tryRules language sink entries r line)) entries
        (Pass.tryRules language sink line o active).1 ∧
      (Pass.tryRules language sink line o active).2.state =
        (tryRules language sink entries r line).state := by
  induction entries generalizing r o active with
  | nil =>
    cases h
    exact ⟨.nil, ho⟩
  | cons entry entries ih =>
    cases h with
    | @cons _ a _ active hfirst hrest =>
      obtain ⟨hnew, hn⟩ := List.nodup_cons.1 hn
      obtain ⟨hlive, hlives⟩ := List.forall_mem_cons.1 hlive
      obtain ⟨htracks, hstate⟩ := tracks_tryRule hfirst hlive ho line
      have hcount : ∀ other ∈ entries,
          (tryRule language sink line r entry).count other.2 = r.count other.2 :=
        fun other hother => count_tryRule_of_mem hnew hother line r
      have hrest' : List.Forall₂ (Tracks language (tryRule language sink line r entry)) entries
          active := by
        refine ((List.forall₂_and_left _ _).2 ⟨hcount, hrest⟩).imp ?_
        rintro other b ⟨hsame, htracks⟩
        exact htracks.congr hsame
      have hlives' : ∀ other ∈ entries, isLive (tryRule language sink line r entry) other := by
        intro other hother
        rw [isLive_congr (hcount other hother)]
        exact hlives other hother
      obtain ⟨hothers, hend⟩ := ih hn hrest' hlives' hstate
      exact ⟨.cons (htracks.congr (count_tryRules_of_not_mem hnew _ line)) hothers, hend⟩

/-! ## All lines -/

theorem Tracks.isLive_iff (h : Tracks language r entry a) : isLive r entry ↔ !a.isRetired := by
  have hpattern : entry.1.isConstant = false := by rw [Rule.isConstant, h.body]
  rw [isLive, hpattern, Pass.Active.isRetired, h.rule, h.count]
  cases entry.1.cap with
  | none => simp
  | some cap => simp

/-- One line: dropping the rules that have applied often enough leaves those that are live after
the line. -/
theorem tracks_line {active : List Pass.Active} (hn : (entries.map Prod.snd).Nodup)
    (h : List.Forall₂ (Tracks language r) (entries.filter (isLive r)) active)
    {o : Pass.Outcome σ} (ho : o.state = r.state) (line : Text) :
    let after := tryRules language sink entries r line
    List.Forall₂ (Tracks language after) (entries.filter (isLive after))
        ((Pass.tryRules language sink line o active).1.filter (!·.isRetired)) ∧
      (Pass.tryRules language sink line o active).2.state = after.state := by
  intro after
  have hafter : tryRules language sink (entries.filter (isLive r)) r line = after :=
    tryRules_filter_isLive hn (fun _ _ => rfl) line
  have hnodup : ((entries.filter (isLive r)).map Prod.snd).Nodup :=
    hn.sublist (List.filter_sublist.map Prod.snd)
  obtain ⟨htracks, hstate⟩ :=
    tracks_tryRules hnodup h (fun entry hentry => (List.mem_filter.1 hentry).2) ho line
  rw [hafter] at htracks hstate
  -- What is live after the line was live before it.
  have hfilter : (entries.filter (isLive r)).filter (isLive after) =
      entries.filter (isLive after) := by
    rw [List.filter_filter]
    refine List.filter_congr fun entry _ => ?_
    by_cases hlive : isLive after entry
    · rw [hlive, isLive_of_count_le (count_le_count_tryRules r line entry.2) hlive]
      rfl
    · simp [hlive]
  rw [← hfilter]
  refine ⟨List.rel_filter ?_ htracks, hstate⟩
  intro entry a htracks
  exact htracks.isLive_iff

theorem codeLines_cons (set : RuleSet) (state : LineState) (raw : Text.Bytes)
    (rest : List Text.Bytes) :
    codeLines set state (raw :: rest) =
      if (Pass.codeOf set state raw).1.isEmpty then
        codeLines set (Pass.codeOf set state raw).2 rest
      else
        (Pass.codeOf set state raw).1 :: codeLines set (Pass.codeOf set state raw).2 rest := by
  rw [codeLines, Pass.codeOf]
  simp only
  by_cases hblank : (Text.trim (Text.decodeLossy raw)).isEmpty
  · rw [if_pos hblank, if_pos hblank]
    rfl
  · rw [if_neg hblank, if_neg hblank]

/-- How a run ends: with the state of a record, and with a fault if a rule is left. -/
structure Ends (entries : List (Rule × Nat)) (fault : Option FileFault) (r : Record σ)
    (ended : Pass.Outcome σ × Option FileFault) : Prop where
  state : ended.1.state = r.state
  fault : ended.2 = if (entries.filter (isLive r)).isEmpty then none else fault

/-- With no rule left, the plain procedure has nothing to do. -/
theorem ends_of_nil (hn : (entries.map Prod.snd).Nodup)
    (h : List.Forall₂ (Tracks language r) (entries.filter (isLive r)) []) {o : Pass.Outcome σ}
    (ho : o.state = r.state) (fault : Option FileFault) (lines : List Text) :
    Ends entries fault (lines.foldl (tryRules language sink entries) r) (o, none) := by
  have hnil := List.forall₂_nil_right_iff.1 h
  rw [foldl_tryRules_of_filter_eq_nil hn hnil]
  exact ⟨ho, by rw [hnil]; rfl⟩

/-- The run: from rules that are tracked, the lines of a file lead to the same end. -/
theorem ends_lines {set : RuleSet} (hn : (entries.map Prod.snd).Nodup) (fault : Option FileFault)
    {state : LineState} {active : List Pass.Active}
    (h : List.Forall₂ (Tracks language r) (entries.filter (isLive r)) active)
    (hsome : ¬ active.isEmpty) {o : Pass.Outcome σ} (ho : o.state = r.state)
    (raws : List Text.Bytes) :
    Ends entries fault ((codeLines set state raws).foldl (tryRules language sink entries) r)
      (Pass.lines language set sink fault state active o raws) := by
  induction raws generalizing state active o r with
  | nil =>
    refine ⟨ho, ?_⟩
    have hleft : ¬ (entries.filter (isLive r)).isEmpty := by
      rwa [List.isEmpty_iff_length_eq_zero, h.length_eq, ← List.isEmpty_iff_length_eq_zero]
    exact (if_neg hleft).symm
  | cons raw rest ih =>
    rw [Pass.lines, codeLines_cons]
    simp only
    split
    · exact ih h hsome ho
    · obtain ⟨htracks, hstate⟩ := tracks_line hn h ho (Pass.codeOf set state raw).1
      rw [List.foldl_cons]
      split
      · rename_i hnone
        rw [List.isEmpty_iff.1 hnone] at htracks
        exact ends_of_nil hn htracks hstate fault _
      · rename_i hleft
        exact ih htracks hleft hstate

/-! ## The start -/

theorem state_constants {o : Pass.Outcome σ} (ho : o.state = r.state) :
    (Pass.constants sink ((entries.map Prod.fst).filter (·.cap != some 0)) o).state =
      (entries.foldl (applyConstant sink) r).state := by
  rw [Pass.constants, List.filter_filter]
  induction entries generalizing r o with
  | nil => exact ho
  | cons entry entries ih =>
    rw [List.map_cons, List.foldl_cons, applyConstant]
    by_cases happlies : entry.1.isConstant && entry.1.cap != some 0
    · rw [List.filter_cons, if_pos happlies, if_pos happlies]
      refine ih ?_
      simp only [Pass.Outcome.apply, Record.apply, ho]
    · rw [List.filter_cons, if_neg happlies, if_neg happlies]
      exact ih ho

/-- The rules that a pass starts with are tracked by a record in which no pattern rule has applied
yet. -/
theorem tracks_active
    (hcount : ∀ entry ∈ entries, entry.1.isConstant = false → r.count entry.2 = 0) :
    List.Forall₂ (Tracks language r) (entries.filter (isLive r))
      (Pass.active ((entries.map Prod.fst).filter (·.cap != some 0))) := by
  induction entries with
  | nil => exact .nil
  | cons entry entries ih =>
    obtain ⟨hfirst, hrest⟩ := List.forall_mem_cons.1 hcount
    rw [List.map_cons]
    cases hbody : entry.1.body with
    | constant value =>
      have hdead : ¬isLive r entry := by simp [isLive, Rule.isConstant, hbody]
      rw [List.filter_cons_of_neg hdead, List.filter_cons]
      split
      · rw [Pass.active, List.filterMap_cons]
        simp only [hbody]
        exact ih hrest
      · exact ih hrest
    | pattern template =>
      have hcount : r.count entry.2 = 0 := hfirst (by rw [Rule.isConstant, hbody])
      have hlive : isLive r entry = (entry.1.cap != some 0) := by
        rw [isLive, Rule.isConstant, hbody, hcount]
        cases entry.1.cap with
        | none => rfl
        | some cap => cases cap <;> rfl
      by_cases hcap : entry.1.cap != some 0
      · rw [List.filter_cons_of_pos (hlive.trans hcap), List.filter_cons, if_pos hcap, Pass.active,
          List.filterMap_cons]
        simp only [hbody]
        refine .cons ⟨rfl, hbody, hcount.symm, ?_⟩ (ih hrest)
        rintro pattern find ⟨⟩
      · rw [List.filter_cons_of_neg (hlive ▸ hcap), List.filter_cons, if_neg hcap]
        exact ih hrest

theorem tracks_start (language : Pattern.Language) (sink : Sink σ)
    (hn : (entries.map Prod.snd).Nodup) (state : σ) :
    let r := entries.foldl (applyConstant sink) (.start state)
    List.Forall₂ (Tracks language r) (entries.filter (isLive r))
      (Pass.active ((entries.map Prod.fst).filter (·.cap != some 0))) :=
  tracks_active fun _ => count_eq_zero_of_pattern hn state

/-! ## Whole files -/

theorem file_of_openFile {fs : FileSystem} {path : Path} {stream : Stream}
    (h : fs.openFile path = .ok stream) (set : RuleSet) (kind : RuleKind) (state : σ) :
    Pass.file language fs set kind sink state path =
      Pass.content language set kind sink state stream := by
  rw [Pass.file, h]
  split
  · rename_i hnone
    unfold Pass.content Pass.eligible
    rw [List.isEmpty_iff.1 hnone]
    rfl
  · rfl

/-- A pass over what a file gives ends as the plain procedure does. -/
theorem ends_content (set : RuleSet) (kind : RuleKind) (state : σ) (stream : Stream) :
    Ends (set.rulesOf kind).zipIdx stream.fault (pass language set kind sink state stream)
      (Pass.content language set kind sink state stream) := by
  have hn := nodup_positions (set.rulesOf kind)
  have heligible : Pass.eligible set kind =
      ((set.rulesOf kind).zipIdx.map Prod.fst).filter (·.cap != some 0) := by
    rw [List.zipIdx_map_fst]
    rfl
  have hconstants : (Pass.constants sink (Pass.eligible set kind) (.start state)).state =
      ((set.rulesOf kind).zipIdx.foldl (applyConstant sink) (.start state)).state := by
    rw [heligible]
    exact state_constants rfl
  have htracks := tracks_start language sink hn state
  rw [← heligible] at htracks
  rw [Pass.content, pass]
  split
  · rename_i hnone
    rw [List.isEmpty_iff.1 hnone] at htracks
    exact ends_of_nil hn htracks hconstants stream.fault _
  · rename_i hsome
    exact ends_lines hn stream.fault htracks hsome hconstants _

/-- A pass over a file that can be opened applies the rules that the plain procedure applies, to the
same hits in the same order. So no pattern rule applies more often than it may, and no constant rule
more than once. A fault that ends the reading is met if and only if a rule is left by then. -/
theorem file_applies_as_plain {fs : FileSystem} {path : Path} {stream : Stream}
    (hread : fs.openFile path = .ok stream) (language : Pattern.Language) (set : RuleSet)
    (kind : RuleKind) (sink : Sink σ) (state : σ) :
    let plain := pass language set kind sink state stream
    (Pass.file language fs set kind sink.traced (state, []) path).1.state =
        (plain.state, plain.applications.map fun a => (a.rule, a.hit)) ∧
      (Pass.file language fs set kind sink state path).1.state = plain.state ∧
      (Pass.file language fs set kind sink state path).2 =
        (if ((set.rulesOf kind).zipIdx.filter (isLive plain)).isEmpty then none
          else stream.fault) ∧
      ∀ entry ∈ (set.rulesOf kind).zipIdx, plain.IsWithin entry := by
  intro plain
  refine ⟨?_, ?_, ?_, isWithin_pass set kind state stream⟩
  · rw [file_of_openFile hread, (ends_content set kind (state, []) stream).state, pass_traced]
    rfl
  · rw [file_of_openFile hread]
    exact (ends_content set kind state stream).state
  · rw [file_of_openFile hread]
    exact (ends_content set kind state stream).fault

/-- A constant rule that might apply five times, and a pattern that changes with what was found. -/
theorem file_applies_as_plain_chain :
    let language := Pattern.Language.beginnings
    let set : RuleSet := ⟨[], [],
      [⟨['c'], .vars, .constant (.literal ['v']), [], some 5, false, false⟩,
        ⟨['p'], .vars, .pattern ['+'], [], some 2, false, false⟩]⟩
    let bytes : Text.Bytes := [43, 120, 10, 43, 120, 121, 10, 43]
    let fs : FileSystem := ⟨.directory [(['a'], .file bytes)], ['/']⟩
    let sink : Sink (List Text) :=
      { expand := fun found template => template ++ found.getLastD []
        apply := fun found _ hit => (found ++ [hit.capture], []) }
    fs.openFile ['/', 'a'] = .ok (.whole bytes) ∧
      (Pass.file language fs set .vars sink [] ['/', 'a']).1.state = [[], ['x'], ['y']] := by
  intro language set bytes fs sink
  have hsteps : FileSystem.steps (Path.join ['/'] ['/', 'a']) = [.root, .name ['a']] := by decide
  have hread : fs.openFile ['/', 'a'] = .ok (.whole bytes) := by
    simp [fs, FileSystem.openFile, FileSystem.node, FileSystem.locate, hsteps, FileSystem.follow,
      FileSystem.nodeAt, Node.isDirectory, Node.child?, Node.file, FileData.ofBytes, Except.map]
  refine ⟨hread, ((file_applies_as_plain hread language set .vars sink []).2.1).trans ?_⟩
  decide +kernel

end SourceAtlas.PlainPass
