import SourceAtlas.Proofs.Extraction.Attempts

/-!
# What a constant rule links

A constant rule is tried on the owners of all identifiers, while its own records are added to those
that its conditions look at. What is recorded for one target is not seen by the others, though, and
a target is left alone once it is linked. So the rule links exactly the targets that satisfy its
conditions at the start, each of them once and by the first of its identifiers.
-/

namespace SourceAtlas

namespace Edge

variable {edge : Edge} {fact : Fact}

theorem rule_mem_addFactOfRule (edge : Edge) (fact : Fact) :
    fact.rule ∈ (edge.addFactOfRule fact).facts.map Fact.rule := by
  unfold addFactOfRule
  split
  · rename_i hany
    obtain ⟨known, hknown, heq⟩ := List.any_eq_true.1 hany
    exact List.mem_map.2 ⟨known, hknown, beq_iff_eq.1 heq⟩
  · simp

theorem nodup_rules_addFactOfRule (h : (edge.facts.map Fact.rule).Nodup) :
    ((edge.addFactOfRule fact).facts.map Fact.rule).Nodup := by
  unfold addFactOfRule
  split
  · exact h
  · rename_i hany
    rw [List.map_append]
    refine List.nodup_append.2 ⟨h, List.nodup_singleton _, ?_⟩
    rintro name hname _ hnew rfl
    obtain rfl := List.mem_singleton.1 hnew
    obtain ⟨known, hknown, heq⟩ := List.mem_map.1 hname
    exact hany (List.any_eq_true.2 ⟨known, hknown, beq_iff_eq.2 heq⟩)

end Edge

namespace Extraction

/-! ## Edges -/

namespace Links

variable {isConstant : Bool} {source target : EntityId} {fact : Fact} {edges : List Edge}

/-- What adding a fact makes of the edge of its target. -/
def grow (isConstant : Bool) (fact : Fact) (edge : Edge) : Edge :=
  if isConstant then edge.addFactOfRule fact else edge.addFact fact

theorem entity_grow (isConstant : Bool) (fact : Fact) (edge : Edge) :
    (grow isConstant fact edge).entity = edge.entity := by
  unfold grow
  split
  · exact (edge.grows_addFactOfRule fact).entity
  · exact (edge.grows_addFact fact).entity

theorem addFact_of_not_mem (h : target ∉ edges.map Edge.entity) :
    addFact isConstant target fact edges = edges ++ [Edge.ofFact target fact] := by
  induction edges with
  | nil => rfl
  | cons edge edges ih =>
    obtain ⟨hedge, hedges⟩ := not_or.1 (mt List.mem_cons.2 h)
    rw [addFact, if_neg (Ne.symm hedge), ih hedges, List.cons_append]

theorem addFact_of_mem (hn : (edges.map Edge.entity).Nodup) (h : target ∈ edges.map Edge.entity) :
    addFact isConstant target fact edges =
      edges.map fun edge => if edge.entity = target then grow isConstant fact edge else edge := by
  induction edges with
  | nil => cases h
  | cons edge edges ih =>
    obtain ⟨hnew, hn⟩ := List.nodup_cons.1 hn
    rw [addFact, List.map_cons]
    split
    · rename_i htarget
      have hrest : ∀ other ∈ edges, other.entity ≠ target := by
        rintro other hother rfl
        exact hnew (htarget ▸ List.mem_map_of_mem hother)
      rw [List.map_congr_left (fun other hother => if_neg (hrest other hother)), List.map_id']
      rfl
    · rename_i htarget
      rw [ih hn ((List.mem_cons.1 h).resolve_left fun heq => htarget heq.symm)]

theorem entities_addFact_of_mem (hn : (edges.map Edge.entity).Nodup)
    (h : target ∈ edges.map Edge.entity) :
    (addFact isConstant target fact edges).map Edge.entity = edges.map Edge.entity := by
  rw [addFact_of_mem hn h, List.map_map]
  refine List.map_congr_left fun edge _ => ?_
  simp only [Function.comp_apply]
  split
  · exact entity_grow isConstant fact edge
  · rfl

theorem nodup_entities_addFact (hn : (edges.map Edge.entity).Nodup) :
    ((addFact isConstant target fact edges).map Edge.entity).Nodup := by
  by_cases h : target ∈ edges.map Edge.entity
  · rw [entities_addFact_of_mem hn h]
    exact hn
  · rw [addFact_of_not_mem h, List.map_append]
    refine List.nodup_append.2 ⟨hn, List.nodup_singleton _, ?_⟩
    rintro entity hentity other hother rfl
    obtain rfl : entity = target := List.mem_singleton.1 hother
    exact h hentity

theorem nodup_entities (source : EntityId) (records : List Attempt) :
    ((empty.recordAll source records).edges.map Edge.entity).Nodup := by
  induction records using List.reverseRecOn with
  | nil => exact List.nodup_nil
  | append_singleton records a ih =>
    rw [recordAll, List.foldl_append]
    exact nodup_entities_addFact ih

/-- The edge that a record makes if there is none towards its target. -/
def newEdge (a : Attempt) : Edge := Edge.ofFact a.target.id a.fact

/-- What records of constant rules make of an edge: the record of its target adds its fact, unless
the edge has one of the same rule. -/
def extend (records : List Attempt) (edge : Edge) : Edge :=
  match records.find? (·.target.id == edge.entity) with
  | some a => edge.addFactOfRule a.fact
  | none => edge

section

variable {a : Attempt} {records : List Attempt} {edge : Edge}

theorem extend_of_not_mem (h : edge.entity ∉ records.map (·.target.id)) :
    extend records edge = edge := by
  have hnone : records.find? (·.target.id == edge.entity) = none := by
    rw [List.find?_eq_none]
    intro b hb heq
    exact h (List.mem_map.2 ⟨b, hb, beq_iff_eq.1 heq⟩)
  rw [extend, hnone]

theorem extend_cons_of_eq (h : a.target.id = edge.entity) :
    extend (a :: records) edge = edge.addFactOfRule a.fact := by
  simp [extend, h]

theorem extend_cons_of_ne (h : a.target.id ≠ edge.entity) :
    extend (a :: records) edge = extend records edge := by
  rw [extend, List.find?_cons_of_neg (by simpa using h), extend]

end

/-- A record of a constant rule changes the edge towards its target, or makes it, and leaves to the
later records what they would have done without it. -/
theorem extend_addFact {a : Attempt} {records : List Attempt} (hn : (edges.map Edge.entity).Nodup)
    (hnew : a.target.id ∉ records.map (·.target.id)) :
    (addFact true a.target.id a.fact edges).map (extend records) ++ (records.filter fun b =>
        b.target.id ∉ (addFact true a.target.id a.fact edges).map Edge.entity).map newEdge =
      edges.map (extend (a :: records)) ++
        ((a :: records).filter fun b => b.target.id ∉ edges.map Edge.entity).map newEdge := by
  by_cases h : a.target.id ∈ edges.map Edge.entity
  · rw [entities_addFact_of_mem hn h, addFact_of_mem hn h, List.map_map,
      List.filter_cons_of_neg (by simpa using h)]
    refine congrArg (· ++ _) (List.map_congr_left fun edge _ => ?_)
    simp only [Function.comp_apply]
    split
    · rename_i htarget
      rw [extend_cons_of_eq htarget.symm, extend_of_not_mem]
      · rfl
      · rw [entity_grow, htarget]
        exact hnew
    · rename_i htarget
      rw [extend_cons_of_ne (Ne.symm htarget)]
  · have hadd : addFact true a.target.id a.fact edges = edges ++ [newEdge a] :=
      addFact_of_not_mem h
    have hself : extend records (newEdge a) = newEdge a := extend_of_not_mem hnew
    have hedges : edges.map (extend (a :: records)) = edges.map (extend records) := by
      refine List.map_congr_left fun edge hedge => extend_cons_of_ne ?_
      intro heq
      exact h (heq ▸ List.mem_map_of_mem hedge)
    have hrest : records.filter (fun b => b.target.id ∉ (edges ++ [newEdge a]).map Edge.entity) =
        records.filter fun b => b.target.id ∉ edges.map Edge.entity := by
      refine List.filter_congr fun b hb => ?_
      have hne : b.target.id ≠ (newEdge a).entity := fun heq =>
        hnew (List.mem_map.2 ⟨b, hb, heq⟩)
      simp only [List.map_append, List.map_singleton, List.mem_append, List.mem_singleton, hne,
        or_false]
    rw [hadd, hrest, hedges, List.filter_cons_of_pos (by simpa using h), List.map_append,
      List.map_singleton, hself, List.map_cons, List.append_assoc, List.singleton_append]

/-- Records of constant rules against different targets extend the edges that there are, and make
those that are missing. -/
theorem edges_recordAll {links : Links} {records : List Attempt}
    (hn : (links.edges.map Edge.entity).Nodup) (hrecords : (records.map (·.target.id)).Nodup)
    (hconstant : ∀ a ∈ records, a.rule.isConstant) :
    (links.recordAll source records).edges =
      links.edges.map (extend records) ++
        (records.filter fun a => a.target.id ∉ links.edges.map Edge.entity).map newEdge := by
  induction records generalizing links with
  | nil =>
    have hsame : links.edges.map (extend []) = links.edges :=
      List.map_id'' (fun _ => rfl) links.edges
    simp only [hsame, List.filter_nil, List.map_nil, List.append_nil]
    rfl
  | cons a records ih =>
    obtain ⟨hnew, hrecords⟩ := List.nodup_cons.1 hrecords
    obtain ⟨ha, hconstant⟩ := List.forall_mem_cons.1 hconstant
    have hstep : (links.record source a.rule a.target.id a.identifier).edges =
        addFact true a.target.id a.fact links.edges := by
      rw [record, ha]
      rfl
    rw [recordAll, List.foldl_cons, ← recordAll, ih ?_ hrecords hconstant, hstep,
      extend_addFact hn hnew]
    exact nodup_entities_addFact hn

/-! ## Facts of constant rules -/

/-- Of all that was recorded, only constant rules have added facts towards a target. -/
def ConstantOnly (source : EntityId) (records : List Attempt) (target : EntityId) : Prop :=
  ∀ earlier a later, records = earlier ++ a :: later → a.target.id = target →
    ¬ (empty.recordAll source earlier).Has target a.fact → a.rule.isConstant

theorem nodup_rules_addFact {other : EntityId} (hn : (edges.map Edge.entity).Nodup)
    (hrules : ∀ edge ∈ edges, edge.entity = other → (edge.facts.map Fact.rule).Nodup)
    (h : target = other → isConstant ∨ ∃ edge ∈ edges, edge.entity = target ∧ fact ∈ edge.facts) :
    ∀ edge ∈ addFact isConstant target fact edges, edge.entity = other →
      (edge.facts.map Fact.rule).Nodup := by
  intro grown hgrown hother
  by_cases hmem : target ∈ edges.map Edge.entity
  · rw [addFact_of_mem hn hmem] at hgrown
    obtain ⟨edge, hedge, rfl⟩ := List.mem_map.1 hgrown
    split at hother
    · rename_i htarget
      rw [if_pos htarget]
      rw [entity_grow] at hother
      have hfacts := hrules edge hedge hother
      rcases h (htarget.symm.trans hother) with hconstant | ⟨known, hknown, htarget', hfact⟩
      · rw [grow, if_pos hconstant]
        exact Edge.nodup_rules_addFactOfRule hfacts
      · obtain rfl : known = edge :=
          List.inj_on_of_nodup_map hn hknown hedge (htarget'.trans htarget.symm)
        unfold grow
        split
        · exact Edge.nodup_rules_addFactOfRule hfacts
        · rwa [Edge.addFact, if_pos (List.contains_iff_mem.2 hfact)]
    · rename_i htarget
      rw [if_neg htarget]
      exact hrules edge hedge hother
  · rw [addFact_of_not_mem hmem] at hgrown
    rcases List.mem_append.1 hgrown with hold | hnew
    · exact hrules grown hold hother
    · obtain rfl := List.mem_singleton.1 hnew
      exact List.nodup_singleton _

/-- Constant rules add no two facts of one rule to an edge. -/
theorem ConstantOnly.nodup_rules {records : List Attempt} (h : ConstantOnly source records target) :
    ∀ edge ∈ (empty.recordAll source records).edges, edge.entity = target →
      (edge.facts.map Fact.rule).Nodup := by
  induction records using List.reverseRecOn with
  | nil =>
    intro edge hedge
    cases hedge
  | append_singleton records a ih =>
    have hrecords : ConstantOnly source records target := by
      intro earlier b later hsplit
      exact h earlier b (later ++ [a]) (by rw [hsplit, List.append_assoc]; rfl)
    rw [recordAll, List.foldl_append]
    refine nodup_rules_addFact (nodup_entities source records) (ih hrecords) ?_
    rintro rfl
    by_cases hhas : (empty.recordAll source records).Has a.target.id a.fact
    · exact .inr hhas
    · exact .inl (h records a [] rfl rfl hhas)

end Links

namespace Surroundings

variable {s : Surroundings} {rule : Rule} {line : Text} {links before : Links}

/-! ## The choice of targets -/

/-- A record against one target does not change what the conditions say of another. -/
theorem failure?_record {recorded : Rule} {target : EntityId} {i : Identifier} {e : Entity}
    (hsource : e.id ≠ s.source.id) (htarget : e.id ≠ target) :
    s.failure? (links.record s.source.id recorded target i) rule line e =
      s.failure? links rule line e := by
  have hagrees : Condition.Context.Agrees
      ⟨s.source, e, line, (links.record s.source.id recorded target i).applied⟩
      ⟨s.source, e, line, links.applied⟩ := by
    refine ⟨rfl, rfl, rfl, fun name => ?_, fun name => ?_⟩
    · rw [Bool.eq_iff_iff, Links.record, AppliedRules.contains_record]
      simp only [htarget, and_false, or_false]
    · rw [Bool.eq_iff_iff, Links.record, AppliedRules.contains_record]
      simp only [hsource, false_and, or_false]
  simp only [failure?, Condition.firstFailure?, hagrees.evaluate_eq]

/-- The records that a constant rule would make if its conditions were evaluated in a fixed state:
against every candidate for which they hold, other than those that are linked, by the first
identifier. -/
def chosen (s : Surroundings) (before : Links) (rule : Rule) (line : Text)
    (linked : List EntityId) : List Identifier → List Attempt
  | [] => []
  | i :: is =>
    match s.candidate? i with
    | none => s.chosen before rule line linked is
    | some target =>
      let a : Attempt := ⟨rule, line, target, i⟩
      if target.id ∈ linked ∨ ¬ s.passes before a then s.chosen before rule line linked is
      else a :: s.chosen before rule line (target.id :: linked) is

/-- The records of a constant rule do not depend on each other. -/
theorem recorded_attemptsAll (hnumbered : s.tree.IsNumbered) {linked : List EntityId}
    (h : ∀ e : Entity, e.id ≠ s.source.id → e.id ∉ linked →
      s.failure? links rule line e = s.failure? before rule line e) (is : List Identifier) :
    s.recorded links (s.attemptsAll rule line linked links is) =
      s.chosen before rule line linked is := by
  induction is generalizing links linked with
  | nil => rfl
  | cons i is ih =>
    rw [attemptsAll, chosen]
    cases hc : s.candidate? i with
    | none => exact ih h
    | some target =>
      by_cases hlinked : target.id ∈ linked
      · simp only [List.contains_iff_mem, hlinked, if_true, true_or]
        exact ih h
      · have hsame : s.passes links ⟨rule, line, target, i⟩ =
            s.passes before ⟨rule, line, target, i⟩ :=
          congrArg Option.isNone (h target (candidate?_ne_source hnumbered hc) hlinked)
        by_cases hpasses : s.passes links ⟨rule, line, target, i⟩
        · have hnext : ∀ e : Entity, e.id ≠ s.source.id → e.id ∉ target.id :: linked →
              s.failure? (links.record s.source.id rule target.id i) rule line e =
                s.failure? before rule line e := by
            intro e hsource he
            obtain ⟨hne, he⟩ := not_or.1 (mt List.mem_cons.2 he)
            rw [failure?_record hsource hne, h e hsource he]
          simp only [List.contains_iff_mem, hlinked, if_false, recorded, hpasses, if_true, ← hsame,
            attempt_of_passes hpasses, ih hnext, not_true_eq_false, or_false]
        · simp only [List.contains_iff_mem, hlinked, if_false, recorded, hpasses, ← hsame,
            attempt_of_not_passes hpasses, ih h, Bool.false_eq_true, not_false_eq_true, or_true,
            if_true]

/-- A chosen record is the first one of its target that may be made. -/
structure IsChosen (s : Surroundings) (before : Links) (rule : Rule) (line : Text)
    (is : List Identifier) (a : Attempt) : Prop where
  byRule : a.rule = rule
  passes : s.failure? before rule line a.target = none
  first : ∃ earlier later, is = earlier ++ a.identifier :: later ∧
    s.candidate? a.identifier = some a.target ∧ ∀ j ∈ earlier, s.candidate? j ≠ some a.target

theorem IsChosen.cons {i : Identifier} {is : List Identifier} {a : Attempt}
    (h : s.IsChosen before rule line is a) (hi : s.candidate? i ≠ some a.target) :
    s.IsChosen before rule line (i :: is) a := by
  obtain ⟨earlier, later, rfl, hc, hearlier⟩ := h.first
  exact ⟨h.byRule, h.passes, i :: earlier, later, rfl, hc, List.forall_mem_cons.2 ⟨hi, hearlier⟩⟩

theorem mem_chosen {linked : List EntityId} {is : List Identifier} {a : Attempt}
    (h : a ∈ s.chosen before rule line linked is) :
    a.target.id ∉ linked ∧ s.IsChosen before rule line is a := by
  induction is generalizing linked with
  | nil => cases h
  | cons i is ih =>
    rw [chosen] at h
    cases hc : s.candidate? i with
    | none =>
      rw [hc] at h
      obtain ⟨hnew, ha⟩ := ih h
      exact ⟨hnew, ha.cons (by simp [hc])⟩
    | some target =>
      rw [hc] at h
      simp only at h
      split at h
      · rename_i hpassed
        obtain ⟨hnew, ha⟩ := ih h
        refine ⟨hnew, ha.cons ?_⟩
        -- The record was not made for an earlier identifier, as the conditions are the same.
        intro heq
        obtain rfl := Option.some.inj (hc.symm.trans heq)
        rcases hpassed with hlinked | hfails
        · exact hnew hlinked
        · exact hfails (Option.isNone_iff_eq_none.2 ha.passes)
      · rename_i hpasses
        obtain ⟨hnew, hpasses⟩ := not_or.1 hpasses
        rcases List.mem_cons.1 h with rfl | h
        · refine ⟨hnew, rfl, Option.isNone_iff_eq_none.1 (not_not.1 hpasses), [], is, rfl, hc, ?_⟩
          exact List.forall_mem_nil _
        · obtain ⟨hfresh, ha⟩ := ih h
          obtain ⟨hother, hfresh⟩ := not_or.1 (mt List.mem_cons.2 hfresh)
          refine ⟨hfresh, ha.cons ?_⟩
          intro heq
          obtain rfl := Option.some.inj (hc.symm.trans heq)
          exact hother rfl

theorem nodup_chosen (s : Surroundings) (before : Links) (rule : Rule) (line : Text)
    (linked : List EntityId) (is : List Identifier) :
    ((s.chosen before rule line linked is).map (·.target.id)).Nodup := by
  induction is generalizing linked with
  | nil => exact List.nodup_nil
  | cons i is ih =>
    rw [chosen]
    split
    · exact ih linked
    · simp only
      split
      · exact ih linked
      · refine List.nodup_cons.2 ⟨fun hmem => ?_, ih _⟩
        obtain ⟨a, ha, heq⟩ := List.mem_map.1 hmem
        exact (mem_chosen ha).1 (heq ▸ List.mem_cons_self)

theorem exists_mem_chosen {linked : List EntityId} {is : List Identifier} {i : Identifier}
    {target : Entity} (hi : i ∈ is) (hc : s.candidate? i = some target)
    (hpasses : s.failure? before rule line target = none) (hlinked : target.id ∉ linked) :
    target.id ∈ (s.chosen before rule line linked is).map (·.target.id) := by
  induction is generalizing linked with
  | nil => cases hi
  | cons j is ih =>
    rw [chosen]
    rcases List.mem_cons.1 hi with rfl | hi
    · have hmade : ¬ (target.id ∈ linked ∨ ¬ s.passes before ⟨rule, line, target, i⟩) := by
        simp [hlinked, Surroundings.passes, hpasses]
      simp only [hc, if_neg hmade]
      exact List.mem_cons_self
    · split
      · exact ih hi hlinked
      · rename_i other _
        simp only
        split
        · exact ih hi hlinked
        · by_cases heq : target.id = other.id
          · exact List.mem_map.2 ⟨_, List.mem_cons_self, heq.symm⟩
          · refine List.mem_cons_of_mem _ (ih hi ?_)
            simp [heq, hlinked]

/-! ## Applications of constant rules -/

/-- The identifier of a target that was registered first. -/
structure IsFirstOwned (s : Surroundings) (i : Identifier) (target : EntityId) : Prop where
  owner : s.index.owner? i = some target
  first : ∃ earlier later, s.index.all = earlier ++ i :: later ∧
    ∀ j ∈ earlier, s.index.owner? j ≠ some target

/-- What a constant rule does when it is applied after other applications, where `new` are the
records that it makes: it links the source to every target that its conditions admit beforehand,
once and by the first identifier of the target. This extends the edges towards these targets or
makes them, and changes nothing else. If only constant rules have added facts towards a target, the
rule has one fact there. -/
structure LinksOnce (s : Surroundings) (applications : List (Rule × Hit)) (rule : Rule)
    (new : List Attempt) : Prop where
  records : s.records (applications ++ [(rule, ⟨[], []⟩)]) = s.records applications ++ new
  byRule : ∀ a ∈ new, a.rule = rule ∧ s.IsFirstOwned a.identifier a.target.id
  once : (new.map (·.target.id)).Nodup
  targets : ∀ target, target ∈ new.map (·.target.id) ↔
    ∃ i ∈ s.index.all, s.Admits (s.after applications) rule [] i target
  applied : ∀ source name target,
    (s.after (applications ++ [(rule, ⟨[], []⟩)])).applied.contains source name target ↔
      (s.after applications).applied.contains source name target ∨
        source = s.source.id ∧ name = rule.name ∧ target ∈ new.map (·.target.id)
  distinct : ((s.after (applications ++ [(rule, ⟨[], []⟩)])).edges.map Edge.entity).Nodup
  edges : (s.after (applications ++ [(rule, ⟨[], []⟩)])).edges =
    (s.after applications).edges.map (Links.extend new) ++
      (new.filter fun a => a.target.id ∉ (s.after applications).edges.map Edge.entity).map
        Links.newEdge
  fact : ∀ a ∈ new, Links.ConstantOnly s.source.id (s.records applications) a.target.id →
    ∃ edge ∈ (s.after (applications ++ [(rule, ⟨[], []⟩)])).edges, edge.entity = a.target.id ∧
      (edge.facts.map Fact.rule).count rule.name = 1

theorem IsChosen.isFirstOwned (hnumbered : s.tree.IsNumbered) {a : Attempt}
    (h : s.IsChosen before rule line s.index.all a) : s.IsFirstOwned a.identifier a.target.id := by
  obtain ⟨earlier, later, hall, hc, hearlier⟩ := h.first
  obtain ⟨owner, howner, hdiffers, hget, htype⟩ := candidate?_eq_some hc
  obtain rfl : a.target.id = owner := hnumbered owner a.target hget
  refine ⟨howner, earlier, later, hall, fun j hj hj' => ?_⟩
  exact hearlier j hj (candidate?_of hj' hdiffers hget htype)

theorem mem_targets_chosen (hnumbered : s.tree.IsNumbered) {is : List Identifier}
    {target : EntityId} :
    target ∈ (s.chosen before rule line [] is).map (·.target.id) ↔
      ∃ i ∈ is, s.Admits before rule line i target := by
  constructor
  · intro h
    obtain ⟨a, ha, rfl⟩ := List.mem_map.1 h
    have hchosen := (mem_chosen ha).2
    obtain ⟨earlier, later, rfl, hc, -⟩ := hchosen.first
    obtain ⟨owner, howner, hdiffers, hget, htype⟩ := candidate?_eq_some hc
    obtain rfl : a.target.id = owner := hnumbered owner a.target hget
    exact ⟨a.identifier, by simp, howner, hdiffers, a.target, hget, htype,
      failure?_eq_none.1 hchosen.passes⟩
  · rintro ⟨i, hi, howner, hdiffers, e, hget, htype, hconditions⟩
    obtain rfl : e.id = target := hnumbered target e hget
    exact exists_mem_chosen hi (candidate?_of howner hdiffers hget htype)
      (failure?_eq_none.2 hconditions) List.not_mem_nil

/-- The edge towards a target that is linked has exactly one fact of the rule, if no two facts of
one rule were there. -/
theorem exists_edge_of_mem {new : List Attempt} {a : Attempt} (ha : a ∈ new)
    (hrule : ∀ b ∈ new, b.rule = rule) {edges : List Edge}
    (hfacts : ∀ edge ∈ edges, edge.entity = a.target.id → (edge.facts.map Fact.rule).Nodup) :
    ∃ edge ∈ edges.map (Links.extend new) ++
        (new.filter fun a => a.target.id ∉ edges.map Edge.entity).map Links.newEdge,
      edge.entity = a.target.id ∧ (edge.facts.map Fact.rule).count rule.name = 1 := by
  by_cases hmem : a.target.id ∈ edges.map Edge.entity
  · obtain ⟨edge, hedge, hentity⟩ := List.mem_map.1 hmem
    refine ⟨Links.extend new edge,
      List.mem_append_left _ (List.mem_map_of_mem hedge), ?_⟩
    obtain ⟨b, hb⟩ : ∃ b, new.find? (·.target.id == edge.entity) = some b := by
      rw [← Option.isSome_iff_exists, List.find?_isSome]
      exact ⟨a, ha, by simp [hentity]⟩
    have hname : b.fact.rule = rule.name := by
      rw [← hrule b (List.mem_of_find?_eq_some hb)]
      rfl
    simp only [Links.extend, hb]
    refine ⟨(edge.grows_addFactOfRule b.fact).entity.trans hentity, ?_⟩
    exact List.count_eq_one_of_mem (Edge.nodup_rules_addFactOfRule (hfacts edge hedge hentity))
      (hname ▸ edge.rule_mem_addFactOfRule b.fact)
  · refine ⟨Links.newEdge a, List.mem_append_right _ (List.mem_map_of_mem ?_), rfl, ?_⟩
    · exact List.mem_filter.2 ⟨ha, by simpa using hmem⟩
    · simp [Links.newEdge, Edge.ofFact, Attempt.fact, hrule a ha]

theorem records_constant (hnumbered : s.tree.IsNumbered) (hconstant : rule.isConstant)
    (applications : List (Rule × Hit)) :
    s.records (applications ++ [(rule, ⟨[], []⟩)]) = s.records applications ++
      s.chosen (s.after applications) rule [] [] s.index.all := by
  have hattempts : s.attempts (s.after applications) rule ⟨[], []⟩ =
      s.attemptsAll rule [] [] (s.after applications) s.index.all := by
    unfold attempts
    split
    · rename_i hbody
      rw [Rule.isConstant, hbody] at hconstant
      cases hconstant
    · rfl
  rw [records_concat, hattempts, recorded_attemptsAll hnumbered fun _ _ _ => rfl]

theorem after_constant (hnumbered : s.tree.IsNumbered) (hconstant : rule.isConstant)
    (applications : List (Rule × Hit)) :
    s.after (applications ++ [(rule, ⟨[], []⟩)]) =
      (s.after applications).recordAll s.source.id
        (s.chosen (s.after applications) rule [] [] s.index.all) := by
  rw [after_eq_recordAll, records_constant hnumbered hconstant, Links.recordAll, List.foldl_append,
    after_eq_recordAll]
  rfl

theorem nodup_entities_after (s : Surroundings) (applications : List (Rule × Hit)) :
    ((s.after applications).edges.map Edge.entity).Nodup := by
  rw [after_eq_recordAll]
  exact Links.nodup_entities _ _

/-- A constant rule links every target that it may, exactly once. -/
theorem constant_links_once (hnumbered : s.tree.IsNumbered) (hconstant : rule.isConstant)
    (applications : List (Rule × Hit)) : ∃ new, s.LinksOnce applications rule new := by
  have hafter := after_constant hnumbered hconstant applications
  have hrule : ∀ a ∈ s.chosen (s.after applications) rule [] [] s.index.all, a.rule = rule :=
    fun a ha => (mem_chosen ha).2.byRule
  have honce := s.nodup_chosen (s.after applications) rule [] [] s.index.all
  have hedges := hafter ▸ Links.edges_recordAll (s.nodup_entities_after applications) honce
    fun a ha => (hrule a ha).symm ▸ hconstant
  refine ⟨_, records_constant hnumbered hconstant applications, ?_, honce,
    fun target => mem_targets_chosen hnumbered, ?_, s.nodup_entities_after _, hedges, ?_⟩
  · exact fun a ha => ⟨hrule a ha, (mem_chosen ha).2.isFirstOwned hnumbered⟩
  · intro source name target
    rw [hafter, Links.contains_recordAll]
    refine or_congr_right (and_congr_right fun _ => ?_)
    rw [List.mem_map]
    constructor
    · rintro ⟨a, ha, hname, htarget⟩
      exact ⟨by rw [← hname, hrule a ha], a, ha, htarget⟩
    · rintro ⟨rfl, a, ha, htarget⟩
      exact ⟨a, ha, by rw [hrule a ha], htarget⟩
  · intro a ha honly
    rw [hedges]
    have hfacts := honly.nodup_rules
    rw [← after_eq_recordAll] at hfacts
    exact exists_edge_of_mem ha hrule hfacts

/-- The fourth file is linked by a pattern rule, then all of the type of the source are by a
constant rule. Another constant rule, which passes over what the pattern rule or it has linked,
links the first and the third file. -/
theorem constant_links_once_guarded :
    let file (id : EntityId) (type : Text) : Entity :=
      { Entity.file id [] with fileType := some type }
    let declared (name : Char) : Identifier := ⟨[name], ['r'], 0, false⟩
    let tree : EntityTree :=
      ⟨0, [file 0 ['L'], file 1 ['L'], file 2 ['M'], file 3 ['L'], file 4 ['L']]⟩
    let index := [('x', 1), ('y', 1), ('z', 2), ('w', 3), ('v', 4)].foldl
      (fun index (name, owner) => index.insert owner (declared name)) IdentifierIndex.empty
    let s : Surroundings := ⟨fun _ => .error .malformed, file 0 ['L'], tree, index⟩
    let p : Rule := ⟨['p'], .dependencies, .pattern [], [], none, false, false⟩
    let d : Rule := ⟨['d'], .dependencies, .constant (.literal []), [], none, false, false⟩
    let c : Rule := ⟨['c'], .dependencies, .constant (.literal []),
      ["not ||p||".toList, "not ||c||".toList], none, false, false⟩
    let applications : List (Rule × Hit) := [(p, ⟨['v'], ['v']⟩), (d, ⟨[], []⟩)]
    s.tree.IsNumbered ∧ c.isConstant ∧ Links.ConstantOnly 0 (s.records applications) 1 ∧
      ∃ new, s.LinksOnce applications c new ∧ new.map (·.target.id) = [1, 3] := by
  intro file declared tree index s p d c applications
  have hnumbered : s.tree.IsNumbered := by
    intro k e he
    rcases k with _ | _ | _ | _ | _ | k <;> cases he <;> rfl
  have honly : Links.ConstantOnly 0 (s.records applications) 1 := by
    have hall : ∀ a ∈ s.records applications, a.target.id = 1 → a.rule.isConstant := by
      decide +kernel
    rintro earlier a later hsplit htarget -
    exact hall a (by simp [hsplit]) htarget
  obtain ⟨new, hnew⟩ := constant_links_once hnumbered (show c.isConstant from rfl) applications
  refine ⟨hnumbered, rfl, honly, new, hnew, ?_⟩
  have hbefore : (s.records applications).map (·.target.id) = [4, 1, 3, 4] := by decide +kernel
  have hafter : (s.records (applications ++ [(c, ⟨[], []⟩)])).map (·.target.id) =
      [4, 1, 3, 4] ++ [1, 3] := by decide +kernel
  rw [hnew.records, List.map_append, hbefore] at hafter
  exact List.append_cancel_left hafter

end Surroundings

end Extraction

end SourceAtlas
