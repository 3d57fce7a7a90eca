import SourceAtlas.Extraction.Facts
import SourceAtlas.Proofs.Entity.Symmetry

/-!
# Extraction and the edges of a tree

The dependencies of a source are found against a tree whose entities may have edges already. None of
them is looked at: each function of the search gives the same for the tree without its edges.
-/

namespace SourceAtlas

/-- A tree without its edges. -/
def EntityTree.unlinked (tree : EntityTree) : EntityTree :=
  { tree with entities := tree.entities.map Entity.unlinked }

theorem EntityTree.get?_unlinked (tree : EntityTree) (id : EntityId) :
    tree.unlinked.get? id = (tree.get? id).map Entity.unlinked := by
  rw [get?, unlinked, List.getElem?_map]
  rfl

namespace Extraction

namespace Surroundings

/-- The same surroundings before anything is linked. -/
def unlinked (s : Surroundings) : Surroundings :=
  { s with source := s.source.unlinked, tree := s.tree.unlinked }

variable (s : Surroundings) (links : Links) (rule : Rule) (line : Text)

theorem candidate?_unlinked (i : Identifier) :
    s.unlinked.candidate? i = (s.candidate? i).map Entity.unlinked := by
  rw [candidate?, candidate?]
  have hsource : s.unlinked.source.id = s.source.id := rfl
  have htype : s.unlinked.source.fileType = s.source.fileType := rfl
  have hindex : s.unlinked.index = s.index := rfl
  have htree (id : EntityId) : s.unlinked.tree.get? id = (s.tree.get? id).map Entity.unlinked :=
    s.tree.get?_unlinked id
  rw [hsource, htype, hindex]
  cases s.index.owner? i with
  | none => rfl
  | some owner =>
    simp only [Option.bind_eq_bind, Option.bind_some, htree]
    split
    · rfl
    · cases s.tree.get? owner with
      | none => rfl
      | some target =>
        have htarget : target.unlinked.fileType = target.fileType := rfl
        simp only [Option.map_some, Option.bind_some, htarget]
        split <;> rfl

theorem link_unlinked (target : Entity) (i : Identifier) :
    s.unlinked.link links rule line target.unlinked i = s.link links rule line target i := rfl

theorem linkFirst_unlinked (is : List Identifier) :
    s.unlinked.linkFirst rule line links is = s.linkFirst rule line links is := by
  induction is generalizing links with
  | nil => rfl
  | cons i is ih =>
    have hown : s.unlinked.source.hasIdentifier i = s.source.hasIdentifier i := rfl
    rw [linkFirst, linkFirst, hown, candidate?_unlinked, ih]
    split
    · rfl
    · cases s.candidate? i with
      | none => rfl
      | some target =>
        simp only [Option.map_some, link_unlinked, ih]

theorem linkTokens_unlinked (tokens : List Text) :
    s.unlinked.linkTokens rule line links tokens = s.linkTokens rule line links tokens := by
  induction tokens generalizing links with
  | nil => rfl
  | cons token tokens ih =>
    rw [linkTokens, linkTokens]
    simp only [linkFirst_unlinked, ih]
    rfl

theorem linkAll_unlinked (linked : List EntityId) (is : List Identifier) :
    s.unlinked.linkAll rule line linked links is = s.linkAll rule line linked links is := by
  induction is generalizing linked links with
  | nil => rfl
  | cons i is ih =>
    rw [linkAll, linkAll, candidate?_unlinked, ih]
    cases s.candidate? i with
    | none => rfl
    | some target =>
      have hid : target.unlinked.id = target.id := rfl
      simp only [Option.map_some, link_unlinked, ih, hid]

end Surroundings

theorem dependencySink_unlinked (s : Surroundings) :
    dependencySink s.unlinked = dependencySink s := by
  rw [dependencySink, dependencySink]
  congr 1
  funext links rule hit
  split
  · exact s.linkTokens_unlinked links rule hit.line _
  · exact s.linkAll_unlinked links rule hit.line [] _

/-- What is found for a source does not depend on the edges that the tree has already. -/
theorem dependencies_unlinked (language : Pattern.Language) (fs : FileSystem) (set : RuleSet)
    (tree : EntityTree) (index : IdentifierIndex) (source : EntityId) :
    dependencies language fs set tree.unlinked index source =
      dependencies language fs set tree index source := by
  rw [dependencies, dependencies, EntityTree.get?_unlinked]
  cases tree.get? source with
  | none => rfl
  | some e =>
    simp only [Option.map_some]
    exact congrArg (Pass.file language fs set .dependencies · .empty e.path)
      (dependencySink_unlinked ⟨language, e, tree, index⟩)

end Extraction

end SourceAtlas
