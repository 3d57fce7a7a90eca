import SourceAtlas.Extraction.Facts
import SourceAtlas.Proofs.Entity.Tree
import SourceAtlas.Proofs.Extraction.Pass

/-!
# Where links come from

Every fact that a dependency pass collects has its reason in what the pass is given: the index says
that the target owns the identifier, the tree says that the target is of the type of the source,
and a rule of the set has found it. Linking by one identifier keeps this, hence so does every
application of a rule and the pass as a whole.
-/

namespace SourceAtlas

/-! ## Facts of edges -/

/-- An edge that keeps its facts and has at most one more. -/
structure Edge.Grows (edge : Edge) (fact : Fact) (grown : Edge) : Prop where
  entity : grown.entity = edge.entity
  kept : edge.facts ⊆ grown.facts
  added : ∀ f ∈ grown.facts, f ∈ edge.facts ∨ f = fact

namespace Edge

theorem grows_self (edge : Edge) (fact : Fact) : edge.Grows fact edge :=
  ⟨rfl, List.Subset.refl _, fun _ hf => .inl hf⟩

theorem grows_concat (edge : Edge) (fact : Fact) :
    edge.Grows fact { edge with facts := edge.facts ++ [fact] } := by
  refine ⟨rfl, List.subset_append_left _ _, fun f hf => ?_⟩
  rwa [List.mem_append, List.mem_singleton] at hf

theorem grows_addFact (edge : Edge) (fact : Fact) : edge.Grows fact (edge.addFact fact) := by
  unfold addFact
  split
  · exact grows_self edge fact
  · exact grows_concat edge fact

theorem grows_addFactOfRule (edge : Edge) (fact : Fact) :
    edge.Grows fact (edge.addFactOfRule fact) := by
  unfold addFactOfRule
  split
  · exact grows_self edge fact
  · exact grows_concat edge fact

theorem mem_addFact (edge : Edge) (fact : Fact) : fact ∈ (edge.addFact fact).facts := by
  unfold addFact
  split
  · rename_i hcontains
    exact List.contains_iff_mem.1 hcontains
  · exact List.mem_concat_self

end Edge

namespace Extraction

/-- Adding a fact changes one edge or makes one. -/
theorem Links.addFact_cons (isConstant : Bool) (target : EntityId) (new : Fact) (first : Edge)
    (edges : List Edge) :
    first.entity = target ∧ (∃ grown, first.Grows new grown ∧
        addFact isConstant target new (first :: edges) = grown :: edges) ∨
      addFact isConstant target new (first :: edges) =
        first :: addFact isConstant target new edges := by
  rw [addFact]
  split
  · rename_i htarget
    refine .inl ⟨htarget, _, ?_, rfl⟩
    split
    · exact first.grows_addFactOfRule new
    · exact first.grows_addFact new
  · exact .inr rfl

namespace Surroundings

/-- A fact that some rules may have found of a target. -/
structure Supports (s : Surroundings) (rules : List Rule) (target : EntityId) (fact : Fact) :
    Prop where
  owner : s.index.owner? fact.identifier = some target
  differs : target ≠ s.source.id
  fileType : ∃ e, s.tree.get? target = some e ∧ e.fileType = s.source.fileType
  rule : ∃ rule ∈ rules, rule.name = fact.rule ∧ rule.hidden = fact.hidden

/-- An edge that holds facts, all of them supported. -/
structure Justifies (s : Surroundings) (rules : List Rule) (edge : Edge) : Prop where
  ne_nil : edge.facts ≠ []
  supports : ∀ fact ∈ edge.facts, s.Supports rules edge.entity fact

variable {s : Surroundings} {rules : List Rule}

/-! ## One link -/

theorem justifies_ofFact {target : EntityId} {fact : Fact} (h : s.Supports rules target fact) :
    s.Justifies rules (Edge.ofFact target fact) := by
  refine ⟨List.cons_ne_nil _ _, fun other hother => ?_⟩
  obtain rfl := List.mem_singleton.1 hother
  exact h

theorem Justifies.grows {edge grown : Edge} {fact : Fact} (h : s.Justifies rules edge)
    (hf : s.Supports rules edge.entity fact) (hgrows : edge.Grows fact grown) :
    s.Justifies rules grown := by
  obtain ⟨known, hknown⟩ := List.exists_mem_of_ne_nil _ h.ne_nil
  refine ⟨List.ne_nil_of_mem (hgrows.kept hknown), fun other hother => ?_⟩
  rw [hgrows.entity]
  rcases hgrows.added other hother with hother | rfl
  · exact h.supports other hother
  · exact hf

theorem justifies_addFact {isConstant : Bool} {target : EntityId} {fact : Fact}
    {edges : List Edge} (h : ∀ edge ∈ edges, s.Justifies rules edge)
    (hf : s.Supports rules target fact) :
    ∀ edge ∈ Links.addFact isConstant target fact edges, s.Justifies rules edge := by
  induction edges with
  | nil =>
    intro edge hedge
    obtain rfl := List.mem_singleton.1 hedge
    exact justifies_ofFact hf
  | cons first edges ih =>
    obtain ⟨hfirst, hedges⟩ := List.forall_mem_cons.1 h
    rcases Links.addFact_cons isConstant target fact first edges with
      ⟨rfl, grown, hgrows, hadd⟩ | hadd
    · rw [hadd]
      exact List.forall_mem_cons.2 ⟨hfirst.grows hf hgrows, hedges⟩
    · rw [hadd]
      exact List.forall_mem_cons.2 ⟨hfirst, ih hedges⟩

theorem candidate?_eq_some {i : Identifier} {target : Entity} (h : s.candidate? i = some target) :
    ∃ owner, s.index.owner? i = some owner ∧ owner ≠ s.source.id ∧
      s.tree.get? owner = some target ∧ target.fileType = s.source.fileType := by
  unfold candidate? at h
  obtain ⟨owner, howner, h⟩ := Option.bind_eq_some_iff.1 h
  split at h
  · cases h
  · rename_i hdiffers
    obtain ⟨found, hfound, h⟩ := Option.bind_eq_some_iff.1 h
    split at h
    · rename_i htype
      cases h
      exact ⟨owner, howner, by simpa using hdiffers, hfound, by simpa using htype⟩
    · cases h

/-! ## Applications of rules -/

section

variable {links : Links} {rule : Rule} {line : Text} {P : Links → Prop}
  (hP : ∀ links i target, s.candidate? i = some target → P links →
    P (links.record s.source.id rule target.id i))

include hP

theorem link_keeps (h : P links) {i : Identifier} {target : Entity}
    (hc : s.candidate? i = some target) : P (s.link links rule line target i).2.1 := by
  unfold link
  split
  · exact h
  · exact hP links i target hc h

theorem linkFirst_keeps (h : P links) (is : List Identifier) :
    P (s.linkFirst rule line links is).1 := by
  induction is generalizing links with
  | nil => exact h
  | cons i is ih =>
    rw [linkFirst]
    split
    · exact ih h
    · split
      · exact ih h
      · rename_i target hc
        have hlink : P (s.link links rule line target i).2.1 := link_keeps hP h hc
        split
        · rename_i heq
          rw [heq] at hlink
          exact hlink
        · rename_i heq
          rw [heq] at hlink
          exact ih hlink

theorem linkTokens_keeps (h : P links) (tokens : List Text) :
    P (s.linkTokens rule line links tokens).1 := by
  induction tokens generalizing links with
  | nil => exact h
  | cons token tokens ih => exact ih (linkFirst_keeps hP h _)

theorem linkAll_keeps (h : P links) (linked : List EntityId) (is : List Identifier) :
    P (s.linkAll rule line linked links is).1 := by
  induction is generalizing links linked with
  | nil => exact h
  | cons i is ih =>
    rw [linkAll]
    split
    · exact ih h linked
    · rename_i target hc
      split
      · exact ih h linked
      · exact ih (link_keeps hP h hc) _

/-- What recording a link towards a candidate keeps is kept by every application of the rule. -/
theorem apply_keeps (h : P links) (hit : Hit) : P ((dependencySink s).apply links rule hit).1 := by
  unfold dependencySink
  simp only
  split
  · exact linkTokens_keeps hP h _
  · exact linkAll_keeps hP h _ _

end

/-- The edges so far are justified. -/
def Holds (s : Surroundings) (rules : List Rule) (links : Links) : Prop :=
  ∀ edge ∈ links.edges, s.Justifies rules edge

theorem keeps_holds (hnumbered : s.tree.IsNumbered) :
    Pass.Keeps (dependencySink s) rules (s.Holds rules) := by
  intro rule hrule links hit h
  refine apply_keeps ?_ h hit
  intro links i target hc h
  obtain ⟨owner, howner, hdiffers, hget, htype⟩ := candidate?_eq_some hc
  obtain rfl : target.id = owner := hnumbered owner target hget
  exact justifies_addFact h ⟨howner, hdiffers, ⟨target, hget, htype⟩, ⟨rule, hrule, rfl, rfl⟩⟩

end Surroundings

/-- The edges of a dependency pass are justified by the dependency rules of the set. -/
theorem justifies_dependencies {language : Pattern.Language} {fs : FileSystem} {set : RuleSet}
    {tree : EntityTree} {index : IdentifierIndex} {source : EntityId} {e : Entity}
    (hnumbered : tree.IsNumbered) (he : tree.get? source = some e) :
    ∀ edge ∈ (dependencies language fs set tree index source).1.state.edges,
      Surroundings.Justifies ⟨language, e, tree, index⟩ (set.rulesOf .dependencies) edge := by
  rw [dependencies, he]
  refine Pass.file_keeps (Surroundings.keeps_holds hnumbered) ?_
  intro edge hedge
  cases hedge

end Extraction

end SourceAtlas
