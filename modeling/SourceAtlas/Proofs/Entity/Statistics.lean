import Mathlib.Algebra.Order.BigOperators.Group.List
import Mathlib.Algebra.Order.Group.Nat
import Mathlib.Data.Char
import Mathlib.Data.List.Find
import Mathlib.Data.UInt
import SourceAtlas.Entity.Statistics
import SourceAtlas.Proofs.Text.ByteOrder

/-!
# Rows of statistics

Entities are counted one after the other in rows that are kept in the order of their labels. What
the rows tell of the entities counted so far (`Tallies`) is kept by every entity that is counted
next, and so holds of all. Amounts are sums modulo `2 ^ 64` and are exact as long as the sums are
smaller.
-/

namespace SourceAtlas

/-- What is counted of files. -/
inductive Measure where
  | files
  | lines
  | size
  deriving DecidableEq

namespace Measure

/-- The amount that a row tells. -/
def ofRow : Measure → TypeTotals → UInt64
  | files, row => row.files
  | lines, row => row.lines
  | size, row => row.size

/-- What one file adds to an amount. -/
def ofFile : Measure → Entity → UInt64
  | files, _ => 1
  | lines, e => e.lineCount
  | size, e => e.size

/-- The exact amount of some files. -/
def ofFiles (m : Measure) (files : List Entity) : Nat := (files.map fun e => (m.ofFile e).toNat).sum

variable (m : Measure) {files others : List Entity}

@[simp] theorem ofFiles_nil : m.ofFiles [] = 0 := rfl

@[simp] theorem ofFiles_cons (e : Entity) (files : List Entity) :
    m.ofFiles (e :: files) = (m.ofFile e).toNat + m.ofFiles files := rfl

@[simp] theorem ofFiles_append (files others : List Entity) :
    m.ofFiles (files ++ others) = m.ofFiles files + m.ofFiles others := by
  simp [ofFiles]

theorem ofFiles_flatMap {α : Type} (l : List α) (f : α → List Entity) :
    m.ofFiles (l.flatMap f) = (l.map fun a => m.ofFiles (f a)).sum := by
  induction l with
  | nil => rfl
  | cons a l ih => simp [ih]

theorem ofFiles_le_of_sublist (h : files.Sublist others) : m.ofFiles files ≤ m.ofFiles others :=
  (h.map _).sum_le_sum fun _ _ => Nat.zero_le _

@[simp] theorem ofRow_start (label color : Text) : m.ofRow (.start label color) = 0 := by
  cases m <;> rfl

@[simp] theorem ofRow_add (row : TypeTotals) (e : Entity) :
    m.ofRow (row.add e) = m.ofRow row + m.ofFile e := by
  cases m <;> rfl

/-- The row of totals has the sums of the rows. -/
theorem ofRow_total (rows : List TypeTotals) :
    m.ofRow (.total rows) = TypeTotals.sum (rows.map m.ofRow) := by
  cases m <;> rfl

end Measure

namespace Entity

/-- Whether an entity is a file with a label. -/
def hasLabel (label : Text) (e : Entity) : Bool := !e.isDirectory && e.fileType == some label

/-- Whether an entity is a file whose type is known. -/
def isLabelled (e : Entity) : Bool := !e.isDirectory && e.fileType.isSome

theorem hasLabel_iff {label : Text} {e : Entity} :
    e.hasLabel label ↔ e.isDirectory = false ∧ e.fileType = some label := by
  simp [hasLabel]

theorem isLabelled_iff {e : Entity} : e.isLabelled ↔ ∃ label, e.hasLabel label := by
  simp [hasLabel_iff, isLabelled, Option.isSome_iff_exists]

theorem hasLabel_unique {label label' : Text} {e : Entity} (h : e.hasLabel label)
    (h' : e.hasLabel label') : label' = label :=
  Option.some.inj ((hasLabel_iff.1 h').2.symm.trans (hasLabel_iff.1 h).2)

end Entity

namespace TypeTotals

variable {rows : List TypeTotals} {label : Text} {e : Entity} {entities : List Entity}

/-! ## One file -/

@[simp] theorem label_add (row : TypeTotals) (e : Entity) : (row.add e).label = row.label := rfl

@[simp] theorem color_add (row : TypeTotals) (e : Entity) : (row.add e).color = row.color := rfl

/-- The rows in the order of their labels, each label once. -/
def Increasing (rows : List TypeTotals) : Prop := rows.Pairwise fun a b => a.label < b.label

/-- The row of a label, or a new one in the color of a file. -/
def rowFor (label : Text) (e : Entity) (rows : List TypeTotals) : TypeTotals :=
  (rows.find? (·.label = label)).getD (start label e.color)

theorem rowFor_cons_self {row : TypeTotals} (h : row.label = label) :
    rowFor label e (row :: rows) = row := by
  simp [rowFor, h]

theorem rowFor_cons_of_ne {row : TypeTotals} (h : row.label ≠ label) :
    rowFor label e (row :: rows) = rowFor label e rows := by
  simp [rowFor, h]

theorem rowFor_of_forall_ne (h : ∀ row ∈ rows, row.label ≠ label) :
    rowFor label e rows = start label e.color := by
  have hnone : rows.find? (·.label = label) = none := by simpa using h
  rw [rowFor, hnone, Option.getD_none]

/-- Counting a file changes the row of its label and no other. -/
theorem mem_addFile (h : Increasing rows) {row : TypeTotals} :
    row ∈ addFile label e rows ↔
      row = (rowFor label e rows).add e ∨ row ∈ rows ∧ row.label ≠ label := by
  induction rows with
  | nil => simp [addFile, rowFor]
  | cons first rows ih =>
    obtain ⟨hfirst, hrows⟩ := List.pairwise_cons.1 h
    unfold addFile
    split
    · rename_i hlt
      have hne : ∀ row ∈ first :: rows, row.label ≠ label := by
        rintro row hrow rfl
        rcases List.mem_cons.1 hrow with rfl | hrow
        · exact List.lt_irrefl _ hlt
        · exact List.lt_asymm hlt (hfirst row hrow)
      rw [rowFor_of_forall_ne hne, List.mem_cons]
      exact or_congr_right (iff_self_and.2 (hne row))
    · split
      · rename_i heq
        have hne : row ∈ rows → row.label ≠ label := by
          rintro hrow rfl
          exact List.lt_irrefl _ (heq ▸ hfirst row hrow)
        rw [rowFor_cons_self heq.symm, List.mem_cons]
        refine or_congr_right ⟨fun hrow => ⟨List.mem_cons_of_mem _ hrow, hne hrow⟩, ?_⟩
        rintro ⟨hrow, hlabel⟩
        rcases List.mem_cons.1 hrow with rfl | hrow
        · exact absurd heq.symm hlabel
        · exact hrow
      · rename_i hlabel
        rw [rowFor_cons_of_ne (Ne.symm hlabel), List.mem_cons, ih hrows, List.mem_cons]
        constructor
        · rintro (rfl | hrow | ⟨hrow, hne⟩)
          · exact .inr ⟨.inl rfl, Ne.symm hlabel⟩
          · exact .inl hrow
          · exact .inr ⟨.inr hrow, hne⟩
        · rintro (hrow | ⟨rfl | hrow, hne⟩)
          · exact .inr (.inl hrow)
          · exact .inl rfl
          · exact .inr (.inr ⟨hrow, hne⟩)

theorem label_rowFor (label : Text) (e : Entity) (rows : List TypeTotals) :
    (rowFor label e rows).label = label := by
  unfold rowFor
  cases hfind : rows.find? (·.label = label) with
  | none => rfl
  | some row => simpa using List.find?_some hfind

theorem exists_label_addFile (h : Increasing rows) {label' : Text} :
    (∃ row ∈ addFile label e rows, row.label = label') ↔
      label' = label ∨ ∃ row ∈ rows, row.label = label' := by
  constructor
  · rintro ⟨row, hrow, rfl⟩
    rcases (mem_addFile h).1 hrow with rfl | ⟨hrow, -⟩
    · exact .inl (label_rowFor label e rows)
    · exact .inr ⟨row, hrow, rfl⟩
  · by_cases heq : label' = label
    · intro
      exact ⟨_, (mem_addFile h).2 (.inl rfl), (label_rowFor label e rows).trans heq.symm⟩
    · rintro (rfl | ⟨row, hrow, rfl⟩)
      · exact absurd rfl heq
      · exact ⟨row, (mem_addFile h).2 (.inr ⟨hrow, heq⟩), rfl⟩

theorem increasing_addFile (h : Increasing rows) : Increasing (addFile label e rows) := by
  induction rows with
  | nil => exact List.pairwise_singleton _ _
  | cons first rows ih =>
    obtain ⟨hfirst, hrows⟩ := List.pairwise_cons.1 h
    unfold addFile
    split
    · rename_i hlt
      refine List.pairwise_cons.2 ⟨List.forall_mem_cons.2 ⟨hlt, fun row hrow => ?_⟩, h⟩
      exact List.lt_trans hlt (hfirst row hrow)
    · split
      · exact List.pairwise_cons.2 ⟨hfirst, hrows⟩
      · rename_i hnlt hne
        refine List.pairwise_cons.2 ⟨fun row hrow => ?_, ih hrows⟩
        rcases (mem_addFile hrows).1 hrow with rfl | ⟨hrow, -⟩
        · rw [label_add, label_rowFor]
          exact (List.le_iff_lt_or_eq.1 hnlt).resolve_right (Ne.symm hne)
        · exact hfirst row hrow

@[simp] theorem sum_nil : sum [] = 0 := rfl

@[simp] theorem sum_cons (count : UInt64) (counts : List UInt64) :
    sum (count :: counts) = count + sum counts := rfl

/-- Counting a file adds to the sum of the rows what the file adds to an amount. -/
theorem sum_addFile (m : Measure) :
    sum ((addFile label e rows).map m.ofRow) = sum (rows.map m.ofRow) + m.ofFile e := by
  induction rows with
  | nil => simp [addFile]
  | cons first rows ih =>
    unfold addFile
    split
    · simp [UInt64.add_comm]
    · split
      · simp [UInt64.add_assoc, UInt64.add_comm]
      · simp [ih, UInt64.add_assoc]

/-! ## All entities -/

/-- What rows tell of the entities that were counted. -/
structure Tallies (rows : List TypeTotals) (entities : List Entity) : Prop where
  increasing : Increasing rows
  labels : ∀ label, (∃ row ∈ rows, row.label = label) ↔ ∃ e ∈ entities, e.hasLabel label
  amounts : ∀ row ∈ rows, ∀ m : Measure,
    m.ofRow row = UInt64.ofNat (m.ofFiles (entities.filter (·.hasLabel row.label)))
  colors : ∀ row ∈ rows,
    (entities.find? (·.hasLabel row.label)).map Entity.color = some row.color
  total : ∀ m : Measure,
    sum (rows.map m.ofRow) = UInt64.ofNat (m.ofFiles (entities.filter Entity.isLabelled))

theorem addEntity_of_hasLabel (h : e.hasLabel label) :
    addEntity rows e = addFile label e rows := by
  obtain ⟨hfile, htype⟩ := Entity.hasLabel_iff.1 h
  simp [addEntity, hfile, htype]

theorem addEntity_of_not_isLabelled (h : ¬ e.isLabelled) : addEntity rows e = rows := by
  unfold addEntity
  split
  · rfl
  · rename_i hfile
    cases htype : e.fileType with
    | none => rfl
    | some label =>
      exact absurd (Entity.isLabelled_iff.2 ⟨label, by simp [Entity.hasLabel, hfile, htype]⟩) h

theorem Tallies.not_hasLabel (h : Tallies rows entities)
    (hfind : rows.find? (·.label = label) = none) : ∀ e ∈ entities, ¬ e.hasLabel label := by
  intro e he hlabel
  obtain ⟨row, hrow, heq⟩ := (h.labels label).2 ⟨e, he, hlabel⟩
  exact absurd heq (by simpa using List.find?_eq_none.1 hfind row hrow)

/-- The row of a label tells of the files with the label, also if there are none yet. -/
theorem Tallies.rowFor_eq (h : Tallies rows entities) (label : Text) (e : Entity) :
    (∀ m : Measure, m.ofRow (rowFor label e rows) =
      UInt64.ofNat (m.ofFiles (entities.filter (·.hasLabel label)))) ∧
    some (rowFor label e rows).color =
      ((entities.find? (·.hasLabel label)).map Entity.color).or (some e.color) := by
  cases hfind : rows.find? (·.label = label) with
  | some row =>
    have hrow : row ∈ rows := List.mem_of_find?_eq_some hfind
    obtain rfl : row.label = label := by simpa using List.find?_some hfind
    rw [rowFor, hfind, Option.getD_some, h.colors row hrow, Option.some_or]
    exact ⟨h.amounts row hrow, rfl⟩
  | none =>
    have hnone := h.not_hasLabel hfind
    rw [rowFor, hfind, Option.getD_none, List.filter_eq_nil_iff.2 hnone,
      List.find?_eq_none.2 hnone]
    exact ⟨fun m => m.ofRow_start label e.color, rfl⟩

theorem tallies_nil : Tallies [] [] :=
  ⟨.nil, by simp, by simp, by simp, fun _ => rfl⟩

theorem Tallies.addEntity_of_not_isLabelled (h : Tallies rows entities) (he : ¬ e.isLabelled) :
    Tallies (addEntity rows e) (entities ++ [e]) := by
  have hlabel : ∀ label, ¬ e.hasLabel label := fun label hlabel =>
    he (Entity.isLabelled_iff.2 ⟨label, hlabel⟩)
  rw [TypeTotals.addEntity_of_not_isLabelled he]
  refine ⟨h.increasing, fun label => ?_, fun row hrow m => ?_, fun row hrow => ?_, fun m => ?_⟩
  · simp [h.labels label, hlabel]
  · simp [h.amounts row hrow m, hlabel]
  · simp [← h.colors row hrow, hlabel]
  · simp [h.total m, he]

theorem Tallies.addFile (h : Tallies rows entities) (he : e.hasLabel label) :
    Tallies (addFile label e rows) (entities ++ [e]) := by
  have hlabel (label' : Text) : e.hasLabel label' ↔ label' = label :=
    ⟨Entity.hasLabel_unique he, fun heq => heq ▸ he⟩
  obtain ⟨hamounts, hcolor⟩ := h.rowFor_eq label e
  refine ⟨increasing_addFile h.increasing, fun label' => ?_, fun row hrow m => ?_,
    fun row hrow => ?_, fun m => ?_⟩
  · rw [exists_label_addFile h.increasing, h.labels]
    simp [hlabel, or_comm]
  · rcases (mem_addFile h.increasing).1 hrow with rfl | ⟨hrow, hne⟩
    · simp [label_rowFor, he, hamounts m]
    · simp [h.amounts row hrow m, hlabel, hne]
  · rcases (mem_addFile h.increasing).1 hrow with rfl | ⟨hrow, hne⟩
    · simp [label_rowFor, he, hcolor]
    · simp [← h.colors row hrow, hlabel, hne]
  · simp [sum_addFile, h.total m, Entity.isLabelled_iff.2 ⟨label, he⟩]

/-- Counting one more entity keeps what rows tell. -/
theorem Tallies.addEntity (h : Tallies rows entities) (e : Entity) :
    Tallies (addEntity rows e) (entities ++ [e]) := by
  by_cases he : e.isLabelled
  · obtain ⟨label, hlabel⟩ := Entity.isLabelled_iff.1 he
    rw [addEntity_of_hasLabel hlabel]
    exact h.addFile hlabel
  · exact h.addEntity_of_not_isLabelled he

/-- The rows of entities tell what there is of each type. -/
theorem tallies_ofEntities (entities : List Entity) : Tallies (ofEntities entities) entities := by
  unfold ofEntities
  induction entities using List.reverseRecOn with
  | nil => exact tallies_nil
  | append_singleton entities e ih =>
    rw [List.foldl_concat]
    exact ih.addEntity e

/-! ## Exact amounts -/

/-- The amount that rows tell of a label; where there is no row, it is zero. -/
def amountOf (m : Measure) (label : Text) (rows : List TypeTotals) : Nat :=
  ((rows.find? (·.label = label)).map fun row => (m.ofRow row).toNat).getD 0

/-- What rows tell of entities if no sum is too large: one row for each label of a file, in the
order of the bytes of the labels, with the number of the files with this label, the sums of their
lines and sizes, and the color of the first of them. The totals are those of all files with a
label. -/
structure Describe (rows : List TypeTotals) (entities : List Entity) : Prop where
  increasing : rows.Pairwise fun a b => Text.encode a.label < Text.encode b.label
  labels : ∀ label, (∃ row ∈ rows, row.label = label) ↔ ∃ e ∈ entities, e.hasLabel label
  amounts : ∀ row ∈ rows, ∀ m : Measure,
    (m.ofRow row).toNat = m.ofFiles (entities.filter (·.hasLabel row.label))
  colors : ∀ row ∈ rows,
    (entities.find? (·.hasLabel row.label)).map Entity.color = some row.color
  total : ∀ m : Measure,
    (m.ofRow (total rows)).toNat = m.ofFiles (entities.filter Entity.isLabelled)

theorem ofFiles_hasLabel_le (m : Measure) (label : Text) (entities : List Entity) :
    m.ofFiles (entities.filter (·.hasLabel label)) ≤
      m.ofFiles (entities.filter Entity.isLabelled) :=
  m.ofFiles_le_of_sublist (List.monotone_filter_right entities fun _ h =>
    Entity.isLabelled_iff.2 ⟨label, h⟩)

namespace Tallies

variable (h : Tallies rows entities)

include h

theorem toNat_amount {m : Measure}
    (hfits : m.ofFiles (entities.filter Entity.isLabelled) < UInt64.size) {row : TypeTotals}
    (hrow : row ∈ rows) :
    (m.ofRow row).toNat = m.ofFiles (entities.filter (·.hasLabel row.label)) := by
  rw [h.amounts row hrow m]
  exact UInt64.toNat_ofNat_of_lt ((ofFiles_hasLabel_le m row.label entities).trans_lt hfits)

theorem toNat_total {m : Measure}
    (hfits : m.ofFiles (entities.filter Entity.isLabelled) < UInt64.size) :
    (m.ofRow (.total rows)).toNat = m.ofFiles (entities.filter Entity.isLabelled) := by
  rw [m.ofRow_total, h.total m]
  exact UInt64.toNat_ofNat_of_lt hfits

theorem amountOf_eq {m : Measure}
    (hfits : m.ofFiles (entities.filter Entity.isLabelled) < UInt64.size) (label : Text) :
    amountOf m label rows = m.ofFiles (entities.filter (·.hasLabel label)) := by
  cases hfind : rows.find? (·.label = label) with
  | some row =>
    obtain rfl : row.label = label := by simpa using List.find?_some hfind
    rw [amountOf, hfind]
    exact h.toNat_amount hfits (List.mem_of_find?_eq_some hfind)
  | none =>
    rw [amountOf, hfind, List.filter_eq_nil_iff.2 (h.not_hasLabel hfind)]
    rfl

theorem describe
    (hfits : ∀ m : Measure, m.ofFiles (entities.filter Entity.isLabelled) < UInt64.size) :
    Describe rows entities :=
  ⟨h.increasing.imp Text.encode_lt_encode, h.labels, fun _ hrow m => h.toNat_amount (hfits m) hrow,
    h.colors, fun m => h.toNat_total (hfits m)⟩

end Tallies

end TypeTotals

end SourceAtlas
