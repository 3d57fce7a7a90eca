import Mathlib.Data.List.Nodup
import SourceAtlas.Entity.Index

/-!
# Registered identifiers

The parts of an index agree with one another, and registering an identifier keeps this: a key is
never given out twice under one name, so what is registered is new to the index.
-/

namespace SourceAtlas.IdentifierIndex

/-- The owners and the names list the identifiers of the order, which are all different. -/
structure WellFormed (index : IdentifierIndex) : Prop where
  owners : index.owners.map Prod.fst = index.order.reverse
  byName : ∀ name, index.byName name = index.order.filter (·.name == name)
  nodup : index.order.Nodup

theorem wellFormed_empty : empty.WellFormed := ⟨rfl, fun _ => rfl, List.nodup_nil⟩

/-! ## Keys -/

instance : Std.LawfulOrderMax UInt32 where
  max_eq_or a b := by
    by_cases h : a ≤ b
    · exact .inr (if_pos h)
    · exact .inl (if_neg h)
  max_le_iff a b c := by
    have hmax : max a b = if a ≤ b then b else a := rfl
    rw [hmax]
    simp only [UInt32.le_iff_toNat_le]
    split <;> omega

theorem nextKey_not_mem {keys : List UInt32} {key : UInt32} (h : nextKey keys = some key) :
    key ∉ keys := by
  unfold nextKey at h
  split at h
  · rename_i hmax
    rw [List.max?_eq_none_iff.1 hmax]
    exact List.not_mem_nil
  · rename_i m hmax
    split at h
    · rename_i hfits
      cases h
      intro hmem
      have hle : max m 1 + 1 ≤ m := (List.max?_eq_some_iff.1 hmax).2 _ hmem
      have hm : m ≤ max m 1 := Std.left_le_max
      simp only [UInt32.le_iff_toNat_le, UInt32.toNat_add, UInt32.toNat_one] at hle hm
      rw [UInt32.size] at hfits
      omega
    · cases h

/-! ## One identifier -/

theorem lookup_appendName (i : Identifier) (names : List (Text × List Identifier)) (name : Text) :
    (appendName i names).lookup name =
      if name = i.name then some ((names.lookup name).getD [] ++ [i]) else names.lookup name := by
  induction names with
  | nil =>
    by_cases h : name = i.name
    · simp [appendName, h]
    · have hne : (name == i.name) = false := by simpa using h
      simp [appendName, List.lookup_cons, hne, h]
  | cons entry names ih =>
    obtain ⟨other, is⟩ := entry
    rw [appendName]
    by_cases hother : other = i.name
    · rw [if_pos hother]
      by_cases h : name = i.name
      · simp [h, hother]
      · have hne : (name == other) = false := by simpa [hother] using h
        simp [List.lookup_cons, hne, h]
    · rw [if_neg hother, List.lookup_cons]
      by_cases h : name = other
      · simp [h, hother]
      · have hne : (name == other) = false := by simpa using h
        simp only [hne, ih, List.lookup_cons]

theorem byName_insert (index : IdentifierIndex) (owner : EntityId) (keyed : Identifier)
    (name : Text) :
    (index.insert owner keyed).byName name =
      index.byName name ++ if name = keyed.name then [keyed] else [] := by
  rw [byName, insert, lookup_appendName]
  split
  · rfl
  · rw [List.append_nil]
    rfl

theorem owner?_insert (index : IdentifierIndex) (owner : EntityId) (keyed i : Identifier) :
    (index.insert owner keyed).owner? i = if i = keyed then some owner else index.owner? i := by
  rw [owner?, insert, List.lookup_cons]
  by_cases h : i = keyed
  · simp [h]
  · have hne : (i == keyed) = false := by simpa using h
    simp only [hne, if_neg h, owner?]

theorem WellFormed.insert {index : IdentifierIndex} (h : index.WellFormed) {keyed : Identifier}
    (hnew : keyed ∉ index.order) (owner : EntityId) : (index.insert owner keyed).WellFormed := by
  refine ⟨?_, fun name => ?_, ?_⟩
  · rw [IdentifierIndex.insert, List.map_cons, h.owners, List.reverse_concat]
  · rw [byName_insert, h.byName, IdentifierIndex.insert, List.filter_append]
    by_cases hname : name = keyed.name
    · simp [hname]
    · simp [hname, Ne.symm hname]
  · rw [IdentifierIndex.insert, List.nodup_append_comm, List.singleton_append, List.nodup_cons]
    exact ⟨hnew, h.nodup⟩

/-- What registering does: the identifier gets a key that makes it new, and is put in. -/
theorem WellFormed.register {index index' : IdentifierIndex} (h : index.WellFormed)
    {owner : EntityId} {i keyed : Identifier}
    (hreg : index.register owner i = some (keyed, index')) :
    keyed ∉ index.order ∧ index' = index.insert owner keyed ∧ index'.WellFormed := by
  rw [IdentifierIndex.register] at hreg
  obtain ⟨key, hkey, heq⟩ := Option.bind_eq_some_iff.1 hreg
  cases heq
  have hnew : { i with key } ∉ index.order := by
    intro hmem
    refine nextKey_not_mem hkey ?_
    rw [h.byName, List.mem_map]
    exact ⟨{ i with key }, List.mem_filter.2 ⟨hmem, by simp⟩, rfl⟩
  exact ⟨hnew, rfl, h.insert hnew owner⟩

end SourceAtlas.IdentifierIndex
