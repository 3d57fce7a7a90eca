import Mathlib.Data.List.Induction
import SourceAtlas.Proofs.Extraction.Links
import SourceAtlas.Proofs.Extraction.Tracing

/-!
# What a name resolves to

A pattern rule captures names, and each of them is resolved when its turn comes: the source is
linked to the owner of the first identifier of that name that it may be linked to at that moment
(`IsFirstMatch`), or to nothing. Facts stay once they are recorded, so the edges at the end of a
pass hold what was resolved on the way. Beyond that they hold only what constant rules have found.
-/

namespace SourceAtlas.Extraction

/-! ## Facts of links -/

namespace Links

/-- There is an edge towards a target that has a fact. -/
def Has (links : Links) (target : EntityId) (fact : Fact) : Prop :=
  ∃ edge ∈ links.edges, edge.entity = target ∧ fact ∈ edge.facts

theorem not_has_empty (target : EntityId) (fact : Fact) : ¬ empty.Has target fact := by
  rintro ⟨edge, hedge, -⟩
  cases hedge

variable {isConstant : Bool} {target other : EntityId} {fact new : Fact} {edges : List Edge}

theorem exists_addFact (h : ∃ edge ∈ edges, edge.entity = other ∧ fact ∈ edge.facts) :
    ∃ edge ∈ addFact isConstant target new edges, edge.entity = other ∧ fact ∈ edge.facts := by
  induction edges with
  | nil =>
    obtain ⟨edge, hedge, -⟩ := h
    cases hedge
  | cons first edges ih =>
    rw [List.exists_mem_cons_iff] at h
    rcases addFact_cons isConstant target new first edges with ⟨-, grown, hgrown, hadd⟩ | hadd <;>
      rw [hadd, List.exists_mem_cons_iff]
    · exact h.imp_left fun ⟨hentity, hfact⟩ => ⟨hgrown.entity.trans hentity, hgrown.kept hfact⟩
    · exact h.imp_right ih

theorem exists_of_addFact
    (h : ∃ edge ∈ addFact isConstant target new edges, edge.entity = other ∧ fact ∈ edge.facts) :
    (∃ edge ∈ edges, edge.entity = other ∧ fact ∈ edge.facts) ∨ other = target ∧ fact = new := by
  induction edges with
  | nil =>
    obtain ⟨edge, hedge, rfl, hfact⟩ := h
    obtain rfl := List.mem_singleton.1 hedge
    exact .inr ⟨rfl, List.mem_singleton.1 hfact⟩
  | cons first edges ih =>
    rw [List.exists_mem_cons_iff]
    rcases addFact_cons isConstant target new first edges with
      ⟨htarget, grown, hgrown, hadd⟩ | hadd <;> rw [hadd, List.exists_mem_cons_iff] at h
    · rcases h with ⟨hentity, hfact⟩ | hrest
      · rw [hgrown.entity] at hentity
        rcases hgrown.added fact hfact with hold | hnew
        · exact .inl (.inl ⟨hentity, hold⟩)
        · exact .inr ⟨hentity.symm.trans htarget, hnew⟩
      · exact .inl (.inr hrest)
    · rcases h with hfirst | hrest
      · exact .inl (.inl hfirst)
      · exact (ih hrest).imp_left .inr

theorem exists_addFact_self (target : EntityId) (new : Fact) (edges : List Edge) :
    ∃ edge ∈ addFact false target new edges, edge.entity = target ∧ new ∈ edge.facts := by
  induction edges with
  | nil => exact ⟨_, List.mem_cons_self, rfl, List.mem_cons_self⟩
  | cons first edges ih =>
    rw [addFact]
    split
    · rename_i htarget
      rw [List.exists_mem_cons_iff]
      exact .inl ⟨(first.grows_addFact new).entity.trans htarget, first.mem_addFact new⟩
    · rw [List.exists_mem_cons_iff]
      exact .inr ih

variable {links : Links} {source : EntityId} {rule : Rule} {i : Identifier}

theorem Has.record (h : links.Has other fact) :
    (links.record source rule target i).Has other fact := exists_addFact h

theorem has_of_record (h : (links.record source rule target i).Has other fact) :
    links.Has other fact ∨ other = target ∧ fact = ⟨i, rule.name, rule.hidden⟩ :=
  exists_of_addFact h

theorem has_record_self (hrule : rule.isConstant = false) :
    (links.record source rule target i).Has target ⟨i, rule.name, rule.hidden⟩ := by
  unfold record
  rw [hrule]
  exact exists_addFact_self _ _ _

end Links

namespace Surroundings

variable {s : Surroundings} {rule : Rule} {line token : Text} {links : Links} {i : Identifier}
  {target : EntityId}

theorem has_apply {fact : Fact} (h : links.Has target fact) (hit : Hit) :
    ((dependencySink s).apply links rule hit).1.Has target fact :=
  apply_keeps (P := (Links.Has · target fact)) (fun _ _ _ _ h => h.record) h hit

theorem has_linkTokens {fact : Fact} (h : links.Has target fact) (tokens : List Text) :
    (s.linkTokens rule line links tokens).1.Has target fact :=
  linkTokens_keeps (P := (Links.Has · target fact)) (fun _ _ _ _ h => h.record) h tokens

/-! ## The first match -/

/-- A rule that has matched a line may link the source by an identifier to its owner, in the state
that the links are in. -/
structure Admits (s : Surroundings) (links : Links) (rule : Rule) (line : Text) (i : Identifier)
    (target : EntityId) : Prop where
  owner : s.index.owner? i = some target
  differs : target ≠ s.source.id
  eligible : ∃ e, s.tree.get? target = some e ∧ e.fileType = s.source.fileType ∧
    ∀ c ∈ rule.conditions, Condition.evaluate s.language ⟨s.source, e, line, links.applied⟩ c

/-- The identifier that a name resolves to, and its owner: of all identifiers of that name by which
the source may be linked, it was registered first. -/
structure IsFirstMatch (s : Surroundings) (links : Links) (rule : Rule) (line token : Text)
    (i : Identifier) (target : EntityId) : Prop where
  name : i.name = token
  admits : s.Admits links rule line i target
  first : ∃ earlier later, s.index.all = earlier ++ i :: later ∧
    ∀ j ∈ earlier, j.name = token → ∀ other, ¬ s.Admits links rule line j other

/-- What a scan says of the identifiers of its tree. -/
structure IsSound (s : Surroundings) : Prop where
  numbered : s.tree.IsNumbered
  byName : ∀ name, s.index.byName name = s.index.all.filter (·.name == name)
  own : ∀ i, s.source.hasIdentifier i → s.index.owner? i = some s.source.id

theorem candidate?_of {e : Entity} (howner : s.index.owner? i = some target)
    (hdiffers : target ≠ s.source.id) (hget : s.tree.get? target = some e)
    (htype : e.fileType = s.source.fileType) : s.candidate? i = some e := by
  simp [candidate?, howner, hdiffers, hget, htype]

theorem failure?_eq_none {e : Entity} : s.failure? links rule line e = none ↔
    ∀ c ∈ rule.conditions, Condition.evaluate s.language ⟨s.source, e, line, links.applied⟩ c := by
  simp [failure?, Condition.firstFailure?]

theorem linkFirst_of_admits (hs : s.IsSound) (h : s.Admits links rule line i target)
    (is : List Identifier) :
    (s.linkFirst rule line links (i :: is)).1 = links.record s.source.id rule target i := by
  obtain ⟨e, hget, htype, hconditions⟩ := h.eligible
  have hforeign : ¬ s.source.hasIdentifier i := by
    intro hown
    exact h.differs (Option.some.inj (h.owner.symm.trans (hs.own i hown)))
  obtain rfl : e.id = target := hs.numbered target e hget
  rw [linkFirst, if_neg hforeign, candidate?_of h.owner h.differs hget htype]
  simp only [link, failure?_eq_none.2 hconditions]

theorem linkFirst_of_not_admits (h : ∀ target, ¬ s.Admits links rule line i target)
    (is : List Identifier) :
    (s.linkFirst rule line links (i :: is)).1 = (s.linkFirst rule line links is).1 := by
  rw [linkFirst]
  split
  · rfl
  · split
    · rfl
    · rename_i e hc
      obtain ⟨owner, howner, hdiffers, hget, htype⟩ := candidate?_eq_some hc
      cases hfailure : s.failure? links rule line e with
      | none =>
        exact absurd ⟨howner, hdiffers, e, hget, htype, failure?_eq_none.1 hfailure⟩ (h owner)
      | some failed => simp only [link, hfailure]

/-- The source is linked by the first identifier of a list that allows it, if there is one. -/
theorem linkFirst_cases (hs : s.IsSound) (rule : Rule) (line : Text) (links : Links)
    (is : List Identifier) :
    (∃ earlier i later target, is = earlier ++ i :: later ∧ s.Admits links rule line i target ∧
        (∀ j ∈ earlier, ∀ other, ¬ s.Admits links rule line j other) ∧
        (s.linkFirst rule line links is).1 = links.record s.source.id rule target i) ∨
      (∀ j ∈ is, ∀ other, ¬ s.Admits links rule line j other) ∧
        (s.linkFirst rule line links is).1 = links := by
  induction is with
  | nil => exact .inr ⟨List.forall_mem_nil _, rfl⟩
  | cons i is ih =>
    by_cases hi : ∃ target, s.Admits links rule line i target
    · obtain ⟨target, htarget⟩ := hi
      exact .inl ⟨[], i, is, target, rfl, htarget, List.forall_mem_nil _,
        linkFirst_of_admits hs htarget is⟩
    · have hnot := not_exists.1 hi
      rw [linkFirst_of_not_admits hnot]
      rcases ih with ⟨earlier, j, later, target, rfl, hj, hearlier, hlink⟩ | ⟨hnone, hlink⟩
      · exact .inl ⟨i :: earlier, j, later, target, rfl, hj,
          List.forall_mem_cons.2 ⟨hnot, hearlier⟩, hlink⟩
      · exact .inr ⟨List.forall_mem_cons.2 ⟨hnot, hnone⟩, hlink⟩

/-- A name is resolved to its first match, if it has one. -/
theorem linkFirst_byName (hs : s.IsSound) (rule : Rule) (line token : Text) (links : Links) :
    (∃ i target, s.IsFirstMatch links rule line token i target ∧
        (s.linkFirst rule line links (s.index.byName token)).1 =
          links.record s.source.id rule target i) ∨
      (∀ j ∈ s.index.all, j.name = token → ∀ other, ¬ s.Admits links rule line j other) ∧
        (s.linkFirst rule line links (s.index.byName token)).1 = links := by
  rw [hs.byName token]
  rcases linkFirst_cases hs rule line links (s.index.all.filter (·.name == token)) with
    ⟨earlier, i, later, target, hsplit, hi, hearlier, hlink⟩ | ⟨hnone, hlink⟩
  · -- What precedes the match in the list of all identifiers has other names or is passed over.
    obtain ⟨before, rest, hall, rfl, hrest⟩ := List.filter_eq_append_iff.1 hsplit
    obtain ⟨others, after, rfl, hothers, hname, -⟩ := List.filter_eq_cons_iff.1 hrest
    refine .inl ⟨i, target, ⟨by simpa using hname, hi, before ++ others, after, ?_, ?_⟩, hlink⟩
    · rw [hall, List.append_assoc]
    · intro j hj hj'
      rcases List.mem_append.1 hj with hj | hj
      · exact hearlier j (List.mem_filter.2 ⟨hj, by simpa using hj'⟩)
      · exact absurd (by simpa using hj') (hothers j hj)
  · exact .inr ⟨fun j hj hname => hnone j (List.mem_filter.2 ⟨hj, by simpa using hname⟩), hlink⟩

/-- A name has at most one first match. -/
theorem IsFirstMatch.unique {j : Identifier} {other : EntityId}
    (hi : s.IsFirstMatch links rule line token i target)
    (hj : s.IsFirstMatch links rule line token j other) : i = j ∧ target = other := by
  obtain ⟨before, after, hsplit, hbefore⟩ := hi.first
  obtain ⟨before', after', hsplit', hbefore'⟩ := hj.first
  obtain rfl : i = j := by
    rcases List.append_eq_append_iff.1 (hsplit.symm.trans hsplit') with
      ⟨between, rfl, hrest⟩ | ⟨between, rfl, hrest⟩
    · cases between with
      | nil => exact (List.cons.inj hrest).1
      | cons k between =>
        obtain ⟨rfl, -⟩ := List.cons.inj hrest
        exact absurd hi.admits (hbefore' i (by simp) hi.name target)
    · cases between with
      | nil => exact (List.cons.inj hrest).1.symm
      | cons k between =>
        obtain ⟨rfl, -⟩ := List.cons.inj hrest
        exact absurd hj.admits (hbefore j (by simp) hj.name other)
  exact ⟨rfl, Option.some.inj (hi.admits.owner.symm.trans hj.admits.owner)⟩

theorem IsFirstMatch.linkFirst_eq (hs : s.IsSound)
    (h : s.IsFirstMatch links rule line token i target) :
    (s.linkFirst rule line links (s.index.byName token)).1 =
      links.record s.source.id rule target i := by
  rcases linkFirst_byName hs rule line token links with ⟨j, other, hj, hlink⟩ | ⟨hnone, -⟩
  · obtain ⟨rfl, rfl⟩ := h.unique hj
    exact hlink
  · obtain ⟨earlier, later, hall, -⟩ := h.first
    exact absurd h.admits (hnone i (by simp [hall]) h.name target)

theorem linkTokens_append (rule : Rule) (line : Text) (links : Links) (tokens more : List Text) :
    (s.linkTokens rule line links (tokens ++ more)).1 =
      (s.linkTokens rule line (s.linkTokens rule line links tokens).1 more).1 := by
  induction tokens generalizing links with
  | nil => rfl
  | cons first tokens ih => exact ih _

theorem linkTokens_concat (rule : Rule) (line token : Text) (links : Links) (tokens : List Text) :
    (s.linkTokens rule line links (tokens ++ [token])).1 =
      (s.linkFirst rule line (s.linkTokens rule line links tokens).1
        (s.index.byName token)).1 :=
  linkTokens_append ..

/-! ## Names in a pass -/

/-- The links after some applications. -/
def after (s : Surroundings) (applications : List (Rule × Hit)) : Links :=
  (dependencySink s).applyAll .empty applications

/-- A moment of a pass at which the name `token` is to be resolved, with the links before and after:
one of the applications is of a pattern rule to a line, and the name is the next one in its
capture. -/
inductive Resolves (s : Surroundings) (applications : List (Rule × Hit)) (rule : Rule)
    (line token : Text) : Links → Links → Prop
  | intro {earlier later : List (Rule × Hit)} {template capture : Text} {done rest : List Text}
      (application : applications = earlier ++ (rule, ⟨line, capture⟩) :: later)
      (pattern : rule.body = .pattern template)
      (names : tokens capture = done ++ token :: rest) :
      Resolves s applications rule line token
        (s.linkTokens rule line (s.after earlier) done).1
        (s.linkTokens rule line (s.after earlier) (done ++ [token])).1

variable {applications earlier later : List (Rule × Hit)} {now next : Links} {fact : Fact}

theorem after_concat (earlier : List (Rule × Hit)) (rule : Rule) (hit : Hit) :
    s.after (earlier ++ [(rule, hit)]) =
      ((dependencySink s).apply (s.after earlier) rule hit).1 :=
  Sink.applyAll_append ..

theorem apply_of_pattern {template : Text} (h : rule.body = .pattern template) (links : Links)
    (hit : Hit) :
    ((dependencySink s).apply links rule hit).1 =
      (s.linkTokens rule hit.line links (tokens hit.capture)).1 := by
  simp only [dependencySink, h]

theorem has_after_append (h : (s.after earlier).Has target fact) (later : List (Rule × Hit)) :
    (s.after (earlier ++ later)).Has target fact := by
  induction later using List.reverseRecOn with
  | nil => rwa [List.append_nil]
  | append_singleton later a ih =>
    rw [← List.append_assoc, after_concat]
    exact has_apply ih a.2

theorem Resolves.next_eq (h : s.Resolves applications rule line token now next) :
    next = (s.linkFirst rule line now (s.index.byName token)).1 := by
  cases h with
  | intro application pattern names => exact linkTokens_concat ..

theorem Resolves.isConstant_eq (h : s.Resolves applications rule line token now next) :
    rule.isConstant = false := by
  cases h with
  | intro application pattern names => rw [Rule.isConstant, pattern]

/-- What is found when a name is resolved stays to the end. -/
theorem Resolves.has_after (h : s.Resolves applications rule line token now next)
    (hnext : next.Has target fact) : (s.after applications).Has target fact := by
  cases h with
  | @intro earlier later template capture done rest application pattern names =>
    rw [application, List.append_cons]
    refine has_after_append ?_ later
    rw [after_concat, apply_of_pattern pattern, names, List.append_cons, linkTokens_append]
    exact has_linkTokens hnext rest

/-- Whatever holds of a list and not of the empty one begins to hold at one of its elements. -/
theorem exists_beginning {α : Type} {P : List α → Prop} {l : List α} (hnil : ¬ P []) (h : P l) :
    ∃ before a after, l = before ++ a :: after ∧ ¬ P before ∧ P (before ++ [a]) := by
  induction l using List.reverseRecOn with
  | nil => exact absurd h hnil
  | append_singleton l a ih =>
    by_cases hl : P l
    · obtain ⟨before, b, after, rfl, hbefore, hb⟩ := ih hl
      exact ⟨before, b, after ++ [a], by simp, hbefore, hb⟩
    · exact ⟨l, a, [], rfl, hl, h⟩

/-- Every fact at the end of a pass was found by a constant rule, or when a name was resolved. -/
theorem exists_origin (hs : s.IsSound) (h : (s.after applications).Has target fact) :
    (∃ rule line token now next i, s.Resolves applications rule line token now next ∧
        s.IsFirstMatch now rule line token i target ∧ fact = ⟨i, rule.name, rule.hidden⟩) ∨
      ∃ earlier rule hit later, applications = earlier ++ (rule, hit) :: later ∧
        rule.isConstant ∧ ¬ (s.after earlier).Has target fact ∧
        (s.after (earlier ++ [(rule, hit)])).Has target fact := by
  obtain ⟨earlier, ⟨rule, hit⟩, later, happs, hbefore, hafter⟩ :=
    exists_beginning (P := fun applications => (s.after applications).Has target fact)
      (Links.not_has_empty target fact) h
  cases hbody : rule.body with
  | constant value =>
    exact .inr ⟨earlier, rule, hit, later, happs, by simp [Rule.isConstant, hbody], hbefore, hafter⟩
  | pattern template =>
    -- The application has found the fact, so one of its names has.
    rw [after_concat, apply_of_pattern hbody] at hafter
    obtain ⟨done, token, rest, hnames, hdone, hfound⟩ :=
      exists_beginning (P := fun names => (s.linkTokens rule hit.line (s.after earlier) names).1.Has
        target fact) hbefore hafter
    rw [linkTokens_concat] at hfound
    rcases linkFirst_byName hs rule hit.line token
      (s.linkTokens rule hit.line (s.after earlier) done).1 with ⟨i, other, hi, hlink⟩ | ⟨-, hlink⟩
    · rw [hlink] at hfound
      rcases Links.has_of_record hfound with hold | ⟨rfl, rfl⟩
      · exact absurd hold hdone
      · exact .inl ⟨rule, hit.line, token, _, _, i, ⟨happs, hbody, hnames⟩, hi, rfl⟩
    · rw [hlink] at hfound
      exact absurd hfound hdone

/-- Every name of a pass is resolved to its first match: that is recorded and nothing else is, and
it stays to the end. Nothing is recorded for a name without a match. All that is found at the end
was found in this way, or by a constant rule. -/
structure ResolvesToFirst (s : Surroundings) (applications : List (Rule × Hit)) : Prop where
  matched : ∀ rule line token now next, s.Resolves applications rule line token now next →
    ∀ i target, s.IsFirstMatch now rule line token i target →
      next = now.record s.source.id rule target i ∧
        (s.after applications).Has target ⟨i, rule.name, rule.hidden⟩
  unmatched : ∀ rule line token now next, s.Resolves applications rule line token now next →
    (∀ i ∈ s.index.all, i.name = token → ∀ target, ¬ s.Admits now rule line i target) → next = now
  origin : ∀ target fact, (s.after applications).Has target fact →
    (∃ rule line token now next i, s.Resolves applications rule line token now next ∧
        s.IsFirstMatch now rule line token i target ∧ fact = ⟨i, rule.name, rule.hidden⟩) ∨
      ∃ earlier rule hit later, applications = earlier ++ (rule, hit) :: later ∧
        rule.isConstant ∧ ¬ (s.after earlier).Has target fact ∧
        (s.after (earlier ++ [(rule, hit)])).Has target fact

theorem IsSound.resolvesToFirst (hs : s.IsSound) (applications : List (Rule × Hit)) :
    s.ResolvesToFirst applications := by
  refine ⟨?_, ?_, fun target fact h => exists_origin hs h⟩
  · intro rule line token now next h i target hi
    have hnext : next = now.record s.source.id rule target i := by
      rw [h.next_eq, hi.linkFirst_eq hs]
    refine ⟨hnext, h.has_after ?_⟩
    rw [hnext]
    exact Links.has_record_self h.isConstant_eq
  · intro rule line token now next h hnone
    rcases linkFirst_byName hs rule line token now with ⟨i, target, hi, -⟩ | ⟨-, hlink⟩
    · obtain ⟨earlier, later, hall, -⟩ := hi.first
      exact absurd hi.admits (hnone i (by simp [hall]) hi.name target)
    · rw [h.next_eq, hlink]

end Surroundings

end SourceAtlas.Extraction
