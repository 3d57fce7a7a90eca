import SourceAtlas.Entity.Tree

/-!
# Parents of entities

The entities of a tree get their parents one after the other, each parent in the place of an earlier
one. What this comes to is said of one adoption (`adopt?_eq`), of all adoptions by one entity
(`foldlM_adopt?`) and of those by several (`foldlM_adoptAll?`): in the end every entity has the last
one that lists it as its parent, and is otherwise as it was. It fails exactly if there is no entity
for some child, at whatever time that is found out.
-/

namespace SourceAtlas.EntityTree

/-- The last entity of the list that lists a child. -/
def parentOf? (entities : List Entity) (child : EntityId) : Option EntityId :=
  ((entities.filter (·.children.contains child)).getLast?).map Entity.id

/-- An entity is the parent of what it lists unless a later one lists it too. -/
theorem parentOf?_cons (d : Entity) (entities : List Entity) (child : EntityId) :
    parentOf? (d :: entities) child =
      (parentOf? entities child).or (if child ∈ d.children then some d.id else none) := by
  unfold parentOf?
  by_cases h : child ∈ d.children
  · simp [h, List.getLast?_cons]
  · simp [h]

/-! ## Giving parents -/

/-- Entities with the parents that are given to their positions. Where none is given, an entity has
the parent that it had. -/
def placedBy (given : Nat → Option EntityId) (entities : List Entity) : List Entity :=
  entities.mapIdx fun k e => { e with parent := (given k).or e.parent }

variable {entities : List Entity}

@[simp] theorem length_placedBy (given : Nat → Option EntityId) :
    (placedBy given entities).length = entities.length := by
  simp [placedBy]

theorem getElem?_placedBy (given : Nat → Option EntityId) (k : Nat) :
    (placedBy given entities)[k]? =
      entities[k]?.map fun e => { e with parent := (given k).or e.parent } := by
  simp [placedBy]

@[simp] theorem placedBy_none : placedBy (fun _ => none) entities = entities := by
  apply List.ext_getElem?
  simp [getElem?_placedBy]

/-- Parents that are given later take the place of earlier ones. -/
theorem placedBy_placedBy (later earlier : Nat → Option EntityId) :
    placedBy later (placedBy earlier entities) =
      placedBy (fun k => (later k).or (earlier k)) entities := by
  apply List.ext_getElem?
  simp [getElem?_placedBy, Function.comp_def, Option.or_assoc]

theorem adopt?_eq (parent child : EntityId) :
    adopt? entities parent child =
      if child < entities.length then
        some (placedBy (fun k => if k = child then some parent else none) entities)
      else none := by
  unfold adopt?
  congr 2
  apply List.ext_getElem?
  intro k
  rw [List.getElem?_modify, getElem?_placedBy]
  by_cases h : k = child
  · simp [h]
  · simp [h, Ne.symm h]

/-! ## All children -/

theorem foldlM_adopt? (parent : EntityId) (children : List EntityId) (entities : List Entity) :
    children.foldlM (adopt? · parent ·) entities =
      if children.all (· < entities.length) then
        some (placedBy (fun k => if k ∈ children then some parent else none) entities)
      else none := by
  induction children generalizing entities with
  | nil => simp
  | cons child children ih =>
    rw [List.foldlM_cons, adopt?_eq]
    by_cases hchild : child < entities.length
    · have hgiven : (fun k => (if k ∈ children then some parent else none).or
          (if k = child then some parent else none)) =
            fun k => if k ∈ child :: children then some parent else none := by
        funext k
        by_cases hk : k ∈ children <;> simp [hk]
      simp [hchild, ih, placedBy_placedBy, hgiven]
    · simp [hchild]

/-- After several entities have adopted their children, every entity has the last of them that lists
it as its parent. -/
theorem foldlM_adoptAll? (parents entities : List Entity) :
    parents.foldlM (fun placed d => d.children.foldlM (adopt? · d.id ·) placed) entities =
      if parents.all fun d => d.children.all (· < entities.length) then
        some (placedBy (parentOf? parents) entities)
      else none := by
  induction parents generalizing entities with
  | nil => exact congrArg some placedBy_none.symm
  | cons d parents ih =>
    rw [List.foldlM_cons, foldlM_adopt?]
    by_cases hchildren : d.children.all (· < entities.length)
    · have hgiven : (fun k => (parentOf? parents k).or
          (if k ∈ d.children then some d.id else none)) = parentOf? (d :: parents) :=
        funext fun k => (parentOf?_cons d parents k).symm
      simp [hchildren, ih, placedBy_placedBy, hgiven]
    · simp [hchildren]

/-- Entities whose children are all among them get their parents. -/
theorem adoptAll?_eq (entities : List Entity) :
    adoptAll? entities =
      if entities.all fun d => d.children.all (· < entities.length) then
        some (placedBy (parentOf? entities) entities)
      else none :=
  foldlM_adoptAll? entities entities

end SourceAtlas.EntityTree
