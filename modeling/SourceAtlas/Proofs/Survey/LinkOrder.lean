import Mathlib.Algebra.BigOperators.Group.List.Basic
import Mathlib.Data.List.Perm.Basic
import Mathlib.Data.Prod.Basic
import SourceAtlas.Proofs.Extraction.Unlinked
import SourceAtlas.Proofs.Survey.Soundness

/-!
# The order of linking

The edges from each source are found against the tree as it was before, and are added when all are
found. So it does not matter in which order the sources come, as long as each comes once: every
entity has the same dependencies, and the same dependants in some order. Each admitted edge is one
edge of the tree, so the number of them is the number of edges that the tree has.
-/

namespace SourceAtlas

namespace Edge

theorem merge_of_not_mem {entity : EntityId} {edges : List Edge}
    (h : entity ∉ edges.map Edge.entity) (facts : List Fact) :
    merge entity facts edges = edges ++ [⟨entity, facts.eraseDups⟩] := by
  induction edges with
  | nil => exact congrArg (fun edge => [edge]) (addFacts_eq entity [] facts)
  | cons edge edges ih =>
    rw [List.map_cons, List.mem_cons, not_or] at h
    rw [merge, if_neg (Ne.symm h.1), ih h.2, List.cons_append]

/-- Portions for different entities are not merged. -/
theorem collect_of_nodup {portions : List (EntityId × List Fact)}
    (h : (portions.map Prod.fst).Nodup) :
    collect portions = portions.map fun portion => ⟨portion.1, portion.2.eraseDups⟩ := by
  induction portions using List.reverseRecOn with
  | nil => rfl
  | append_singleton portions portion ih =>
    rw [List.map_append, List.map_singleton, List.nodup_append] at h
    obtain ⟨hn, -, hdisjoint⟩ := h
    rw [collect_concat, ih hn, merge_of_not_mem, List.map_append, List.map_singleton]
    rw [List.map_map]
    intro hmem
    exact hdisjoint portion.1 hmem portion.1 (List.mem_singleton_self _) rfl

end Edge

namespace Survey

variable {found found' : List (EntityId × List Edge)}

/-- Every source occurs once, and each of its edges leads somewhere else. -/
structure AreDistinct (found : List (EntityId × List Edge)) : Prop where
  sources : (found.map Prod.fst).Nodup
  targets : ∀ entry ∈ found, (entry.2.map Edge.entity).Nodup

theorem AreDistinct.perm (h : AreDistinct found) (hperm : found.Perm found') :
    AreDistinct found' := by
  refine ⟨(hperm.map Prod.fst).nodup_iff.1 h.sources, ?_⟩
  intro entry hentry
  exact h.targets entry (hperm.mem_iff.2 hentry)

/-- No two calls have both ends in common. -/
theorem AreDistinct.nodup_ends (h : AreDistinct found) :
    ((calls found).map fun call => (call.1, call.2.entity)).Nodup := by
  rw [calls, List.map_flatMap, List.nodup_flatMap]
  constructor
  · intro entry hentry
    rw [List.map_map]
    have htargets := (h.targets entry hentry).map (Prod.mk_right_injective entry.1)
    rwa [List.map_map] at htargets
  · refine (List.pairwise_map.1 h.sources).imp ?_
    intro entry other hne ends hentry hother
    simp only [List.map_map, List.mem_map] at hentry hother
    obtain ⟨edge, -, rfl⟩ := hentry
    obtain ⟨edge', -, heq⟩ := hother
    exact hne (congrArg Prod.fst heq).symm

/-- The calls from one source do not depend on the order of the sources. -/
theorem filter_source_eq (hperm : found.Perm found') (h : (found.map Prod.fst).Nodup)
    (source : EntityId) :
    found.filter (·.1 == source) = found'.filter (·.1 == source) := by
  induction hperm with
  | nil => rfl
  | cons entry hperm ih =>
    rw [List.map_cons, List.nodup_cons] at h
    rw [List.filter_cons, List.filter_cons, ih h.2]
  | swap first second rest =>
    have hne : second.1 ≠ first.1 := by
      intro heq
      simp [heq] at h
    by_cases hfirst : first.1 = source
    · have hsecond : second.1 ≠ source := fun heq => hne (heq.trans hfirst.symm)
      simp [List.filter_cons, hsecond]
    · simp [List.filter_cons, hfirst]
  | trans hperm _ ih ih' => exact (ih h).trans (ih' ((hperm.map Prod.fst).nodup_iff.1 h))

theorem filter_calls (source : EntityId) :
    (calls found).filter (·.1 == source) = calls (found.filter (·.1 == source)) := by
  rw [calls, calls, List.filter_flatMap]
  induction found with
  | nil => rfl
  | cons entry found ih =>
    rw [List.flatMap_cons, ih, List.filter_map, List.filter_cons]
    by_cases hentry : entry.1 = source
    · simp [hentry, Function.comp_def]
    · simp [hentry, Function.comp_def]

/-- The calls that a tree admits. -/
def admitted (tree : EntityTree) (found : List (EntityId × List Edge)) : List (EntityId × Edge) :=
  (calls found).filter fun call => tree.admits call.1 call.2.entity

theorem mem_admitted {tree : EntityTree} {call : EntityId × Edge} (h : call ∈ admitted tree found) :
    call ∈ calls found ∧ tree.admits call.1 call.2.entity :=
  List.mem_filter.1 h

/-! ## The tree and the count -/

/-- Adding edges to a tree without edges leaves the tree of the calls that it admits, and counts
them. -/
theorem attach_eq_linkedBy {tree : EntityTree} (h : tree.IsUnlinked)
    (found : List (EntityId × List Edge)) :
    attach tree found = (tree.linkedBy (admitted tree found), (admitted tree found).length) := by
  obtain ⟨htree, hadmitted⟩ := EntityTree.addAll_eq h (calls found)
  rw [attach_eq, htree, hadmitted, admitted]

theorem countP_source_lt_succ (calls : List (EntityId × Edge)) (n : Nat) :
    calls.countP (·.1 < n + 1) = calls.countP (·.1 < n) + calls.countP (·.1 == n) := by
  induction calls with
  | nil => rfl
  | cons call calls ih =>
    rw [List.countP_cons, List.countP_cons, List.countP_cons, ih]
    simp only [decide_eq_true_eq, beq_iff_eq]
    split <;> split <;> split <;> omega

theorem sum_outgoing (calls : List (EntityId × Edge)) (n : Nat) :
    ((List.range n).map fun source => (EntityTree.outgoing calls source).length).sum =
      calls.countP (·.1 < n) := by
  induction n with
  | zero => simp
  | succ n ih =>
    rw [List.sum_range_succ, ih, EntityTree.outgoing, List.length_map,
      ← List.countP_eq_length_filter]
    exact (countP_source_lt_succ calls n).symm

/-- If no two calls are merged, each of them makes an edge. -/
theorem edgeCount_linkedBy {tree : EntityTree} {calls : List (EntityId × Edge)}
    (hsources : ∀ call ∈ calls, call.1 < tree.size)
    (hn : ∀ source, ((EntityTree.outgoing calls source).map Prod.fst).Nodup) :
    (tree.linkedBy calls).edgeCount = calls.length := by
  have hlengths : (tree.linkedBy calls).entities.map (fun e => e.dependencies.length) =
      (List.range tree.size).map fun source => (EntityTree.outgoing calls source).length := by
    apply List.ext_getElem?
    intro k
    rw [List.getElem?_map, EntityTree.linkedBy, List.getElem?_mapIdx, List.getElem?_map]
    simp only [Edge.collect_of_nodup (hn k), Option.map_map]
    by_cases hk : k < tree.size
    · rw [List.getElem?_range hk, List.getElem?_eq_getElem hk]
      exact congrArg some (List.length_map _)
    · rw [List.getElem?_eq_none (Nat.not_lt.1 hk), List.getElem?_eq_none]
      · rfl
      · rw [List.length_range]
        exact Nat.not_lt.1 hk
  rw [EntityTree.edgeCount, hlengths, ← List.sum_eq_foldr, sum_outgoing, List.countP_eq_length]
  intro call hcall
  exact decide_eq_true (hsources call hcall)

/-! ## Two orders -/

variable (tree : EntityTree)

theorem AreDistinct.nodup_admitted (h : AreDistinct found) :
    ((admitted tree found).map fun call => (call.1, call.2.entity)).Nodup :=
  h.nodup_ends.sublist (List.filter_sublist.map _)

/-- Of calls that have one end in common, no two have the other end in common. -/
theorem nodup_map_filter {calls : List (EntityId × Edge)} {near far : EntityId × Edge → EntityId}
    (h : (calls.map fun call => (near call, far call)).Nodup) (id : EntityId) :
    ((calls.filter (near · == id)).map far).Nodup := by
  apply (h.of_map.filter _).map_on
  intro call hcall other hother hfar
  obtain ⟨hcall, hnear⟩ := List.mem_filter.1 hcall
  obtain ⟨hother, hnear'⟩ := List.mem_filter.1 hother
  rw [beq_iff_eq] at hnear hnear'
  exact List.inj_on_of_nodup_map h hcall hother (Prod.ext (hnear.trans hnear'.symm) hfar)

theorem AreDistinct.nodup_outgoing (h : AreDistinct found) (source : EntityId) :
    ((EntityTree.outgoing (admitted tree found) source).map Prod.fst).Nodup := by
  rw [EntityTree.outgoing, List.map_map]
  exact nodup_map_filter (h.nodup_admitted tree) source

theorem AreDistinct.nodup_incoming (h : AreDistinct found) (target : EntityId) :
    ((EntityTree.incoming (admitted tree found) target).map Prod.fst).Nodup := by
  have hswapped := (h.nodup_admitted tree).map Prod.swap_injective
  rw [List.map_map] at hswapped
  rw [EntityTree.incoming, List.map_map]
  exact nodup_map_filter hswapped target

theorem outgoing_eq (hperm : found.Perm found') (h : (found.map Prod.fst).Nodup)
    (source : EntityId) :
    EntityTree.outgoing (admitted tree found) source =
      EntityTree.outgoing (admitted tree found') source := by
  have hfilter (found : List (EntityId × List Edge)) :
      (admitted tree found).filter (·.1 == source) =
        (calls (found.filter (·.1 == source))).filter
          fun call => tree.admits call.1 call.2.entity := by
    rw [admitted, List.filter_comm, filter_calls]
  rw [EntityTree.outgoing, EntityTree.outgoing, hfilter, hfilter, filter_source_eq hperm h]

theorem incoming_perm (hperm : found.Perm found') (target : EntityId) :
    (EntityTree.incoming (admitted tree found) target).Perm
      (EntityTree.incoming (admitted tree found') target) := by
  have hcalls : (calls found).Perm (calls found') := hperm.flatMap_right _
  exact ((hcalls.filter _).filter _).map _

end Survey

/-! ## Equal up to the order of dependants -/

/-- Two entities that differ at most in the order of their dependants. -/
structure Entity.AgreesWith (e e' : Entity) : Prop where
  unlinked : e.unlinked = e'.unlinked
  dependencies : e.dependencies = e'.dependencies
  dependants : e.dependants.Perm e'.dependants

namespace Survey

variable {found found' : List (EntityId × List Edge)} {tree : EntityTree}

/-- Calls in another order make entities that agree. -/
theorem agreesWith_linkedBy (h : AreDistinct found) (hperm : found.Perm found') (id : EntityId) :
    Option.Rel Entity.AgreesWith ((tree.linkedBy (admitted tree found)).get? id)
      ((tree.linkedBy (admitted tree found')).get? id) := by
  rw [EntityTree.get?_linkedBy, EntityTree.get?_linkedBy]
  cases tree.get? id with
  | none => exact .none
  | some e =>
    refine .some ⟨rfl, ?_, ?_⟩
    · exact congrArg Edge.collect (outgoing_eq tree hperm h.sources id)
    · show (Edge.collect _).Perm (Edge.collect _)
      rw [Edge.collect_of_nodup (h.nodup_incoming tree id),
        Edge.collect_of_nodup ((h.perm hperm).nodup_incoming tree id)]
      exact (incoming_perm tree hperm id).map _

/-- The calls that are admitted are as many as the edges that they make. -/
theorem AreDistinct.edgeCount_eq (h : AreDistinct found) :
    (tree.linkedBy (admitted tree found)).edgeCount = (admitted tree found).length := by
  apply edgeCount_linkedBy _ (h.nodup_outgoing tree)
  intro call hcall
  exact (EntityTree.admits_iff.1 (mem_admitted hcall).2).2.1

/-- It does not matter in which order sources are linked: what is found for each of them does not
depend on the edges that the tree has already, and adding what is found in another order makes a
tree that differs at most in the order of dependants. The number of added edges is the number of
edges of the tree. -/
theorem linking_order_irrelevant :
    (∀ (language : Pattern.Language) (fs : FileSystem) (set : RuleSet) (index : IdentifierIndex)
        (source : EntityId) (tree tree' : EntityTree), tree.unlinked = tree'.unlinked →
      Extraction.dependencies language fs set tree index source =
        Extraction.dependencies language fs set tree' index source) ∧
    ∀ (tree : EntityTree) (found found' : List (EntityId × List Edge)),
      tree.IsUnlinked → AreDistinct found → found.Perm found' →
      (∀ id, Option.Rel Entity.AgreesWith ((attach tree found).1.get? id)
        ((attach tree found').1.get? id)) ∧
      (attach tree found).2 = (attach tree found').2 ∧
      (attach tree found).2 = (attach tree found).1.edgeCount := by
  constructor
  · intro language fs set index source tree tree' h
    rw [← Extraction.dependencies_unlinked, h, Extraction.dependencies_unlinked]
  · intro tree found found' htree h hperm
    have hcalls : (calls found).Perm (calls found') := hperm.flatMap_right _
    rw [attach_eq_linkedBy htree, attach_eq_linkedBy htree]
    exact ⟨agreesWith_linkedBy h hperm, (hcalls.filter _).length_eq, h.edgeCount_eq.symm⟩

/-- Two files that need each other and both need a third. One edge, of a file to itself, is not
admitted. -/
theorem linking_order_irrelevant_mutual :
    let tree : EntityTree := ⟨0, [Entity.file 0 ['a'], Entity.file 1 ['b'], Entity.file 2 ['c']]⟩
    let fact (name : Text) : Fact := ⟨⟨name, ['r'], 0, false⟩, ['d'], true⟩
    let found : List (EntityId × List Edge) :=
      [(0, [⟨1, [fact ['x']]⟩, ⟨2, [fact ['y'], fact ['y']]⟩, ⟨0, [fact ['z']]⟩]),
        (1, [⟨2, [fact ['y']]⟩, ⟨0, [fact ['z']]⟩])]
    let language := Pattern.Language.beginnings
    let fs : FileSystem := ⟨.directory [(['b'], .file [120])], ['/']⟩
    let set : RuleSet := ⟨[], [], [⟨['d'], .dependencies, .pattern ['x'], [], none, false, false⟩]⟩
    tree.IsUnlinked ∧ AreDistinct found ∧ (attach tree found).1.unlinked = tree.unlinked ∧
      Extraction.dependencies language fs set (attach tree found).1 .empty 1 =
        Extraction.dependencies language fs set tree .empty 1 ∧
      (attach tree found.reverse).2 = 4 ∧ (attach tree found).1.edgeCount = 4 ∧
      (attach tree found).1.get? 2 ≠ (attach tree found.reverse).1.get? 2 ∧
      Option.Rel Entity.AgreesWith ((attach tree found).1.get? 2)
        ((attach tree found.reverse).1.get? 2) := by
  intro tree fact found language fs set
  have htree : tree.IsUnlinked := by
    show ∀ e ∈ tree.entities, _
    decide
  have hfound : AreDistinct found := ⟨by decide, by decide⟩
  have hsame : (attach tree found).1.unlinked = tree.unlinked := by decide +kernel
  have hadded : (attach tree found).2 = 4 := by decide +kernel
  have hdiffers : (attach tree found).1.get? 2 ≠ (attach tree found.reverse).1.get? 2 := by
    decide +kernel
  obtain ⟨hdependencies, hattach⟩ := linking_order_irrelevant
  obtain ⟨hagree, hreverse, hcount⟩ :=
    hattach tree found found.reverse htree hfound (List.reverse_perm found).symm
  exact ⟨htree, hfound, hsame, hdependencies language fs set .empty 1 _ _ hsame,
    hreverse.symm.trans hadded, hcount.symm.trans hadded, hdiffers, hagree 2⟩

end Survey

end SourceAtlas
