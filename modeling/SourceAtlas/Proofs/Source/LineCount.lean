import Mathlib.Data.List.Nodup
import SourceAtlas.Source.LineCount

/-!
# Lines however the bytes come in

The lines of a file are counted portion by portion, and a pass reads them by cutting the whole
content at its newlines. Both find the same number of lines. The count after some portions depends
on their concatenation alone (`after`), since a portion decides by its own last byte whether a line
goes on; and the lines that are read give the content back when each of them is ended by a newline,
so that counting newlines counts lines.
-/

namespace SourceAtlas.LineCount

open Text (Bytes rawLines)

/-- Bytes that stop within a line, behind the last newline. -/
def StopsInLine (bytes : Bytes) : Prop := bytes ≠ [] ∧ bytes.getLast? ≠ some newline

instance (bytes : Bytes) : Decidable (StopsInLine bytes) := inferInstanceAs (Decidable (_ ∧ _))

/-! ## Counting by portions -/

/-- The count after some bytes, told from the bytes alone. -/
def after (bytes : Bytes) : LineCount := ⟨bytes.count newline, decide (StopsInLine bytes)⟩

theorem after_nil : after [] = zero := rfl

theorem feed_after (bytes : Bytes) {portion : Bytes} (h : portion ≠ []) :
    (after bytes).feed portion = after (bytes ++ portion) := by
  have hlast : (bytes ++ portion).getLast? = portion.getLast? :=
    List.getLast?_append_of_ne_nil _ h
  have hstops : StopsInLine (bytes ++ portion) ↔ portion.getLast? ≠ some newline := by
    simp [StopsInLine, hlast, h]
  simp only [feed, after, List.count_append, hstops, LineCount.mk.injEq, true_and]
  simp [bne, beq_eq_decide]

/-- The loop over the portions goes on from what the bytes before them have left. -/
theorem feedAll_after {portions : List Bytes} (hfilled : ∀ portion ∈ portions, portion ≠ [])
    (bytes : Bytes) : (after bytes).feedAll portions = after (bytes ++ portions.flatten) := by
  induction portions generalizing bytes with
  | nil => simp [feedAll]
  | cons portion portions ih =>
    obtain ⟨hportion, hportions⟩ := List.forall_mem_cons.1 hfilled
    rw [feedAll, if_neg (by simpa using hportion), feed_after bytes hportion, ih hportions,
      List.flatten_cons, List.append_assoc]

theorem ofPortions_eq {portions : List Bytes} (hfilled : ∀ portion ∈ portions, portion ≠ []) :
    ofPortions portions = (after portions.flatten).total := by
  rw [ofPortions, ← after_nil, feedAll_after hfilled, List.nil_append]

theorem total_after (bytes : Bytes) :
    (after bytes).total = bytes.count newline + if StopsInLine bytes then 1 else 0 := by
  simp [total, after]

theorem ofBytes_eq (bytes : Bytes) : ofBytes bytes = (after bytes).total := by
  by_cases h : bytes = []
  · subst h
    rfl
  · rw [ofBytes, ofPortions_eq (by simpa using h), List.flatten_singleton]

/-! ## Lines of the whole content -/

theorem rawLines_eq_nil {bytes : Bytes} : rawLines bytes = [] ↔ bytes = [] := by
  cases bytes with
  | nil => simp [rawLines]
  | cons b bytes =>
    rw [rawLines]
    split
    · simp
    · split <;> simp

theorem newline_notMem_rawLines {bytes : Bytes} : ∀ line ∈ rawLines bytes, newline ∉ line := by
  induction bytes with
  | nil => simp [rawLines]
  | cons b bytes ih =>
    rw [rawLines]
    split
    · simpa using ih
    · rename_i hb
      have hne : newline ≠ b := fun h => hb h.symm
      split
      · simpa using hne
      · rename_i line lines hlines
        rw [hlines, List.forall_mem_cons] at ih
        rw [List.forall_mem_cons]
        exact ⟨by simpa [hne] using ih.1, ih.2⟩

/-- A byte in front of other bytes has no influence on where they stop. -/
theorem stopsInLine_cons {b : UInt8} {bytes : Bytes} (h : bytes ≠ []) :
    StopsInLine (b :: bytes) ↔ StopsInLine bytes := by
  simp [StopsInLine, h, List.getLast?_cons_of_ne_nil h]

/-- Each line ended by a newline, the lines are the content again, up to a newline at its end. -/
theorem flatMap_rawLines (bytes : Bytes) :
    (rawLines bytes).flatMap (· ++ [newline]) =
      bytes ++ if StopsInLine bytes then [newline] else [] := by
  induction bytes with
  | nil => rfl
  | cons b bytes ih =>
    by_cases hempty : bytes = []
    · subst hempty
      by_cases hb : b = newline
      · subst hb
        rfl
      · have hstops : StopsInLine [b] := ⟨List.cons_ne_nil _ _, by simpa using hb⟩
        have hlines : rawLines [b] = [[b]] := if_neg hb
        rw [hlines, if_pos hstops]
        rfl
    · simp only [stopsInLine_cons hempty, List.cons_append, ← ih]
      rw [rawLines]
      split
      · rename_i hb
        subst hb
        rfl
      · split
        · rename_i hlines
          exact absurd (rawLines_eq_nil.1 hlines) hempty
        · rename_i line lines hlines
          simp [hlines]

/-- Lines that are each ended by a newline have as many newlines as there are lines. -/
theorem count_flatMap_newline {lines : List Bytes} (h : ∀ line ∈ lines, newline ∉ line) :
    (lines.flatMap (· ++ [newline])).count newline = lines.length := by
  induction lines with
  | nil => rfl
  | cons line lines ih =>
    obtain ⟨hline, hlines⟩ := List.forall_mem_cons.1 h
    simp [List.count_eq_zero.2 hline, ih hlines]

theorem length_rawLines (bytes : Bytes) :
    (rawLines bytes).length = bytes.count newline + if StopsInLine bytes then 1 else 0 := by
  rw [← count_flatMap_newline newline_notMem_rawLines, flatMap_rawLines, List.count_append]
  split <;> simp

/-- However the content of a file comes in, as many lines are counted as it has newlines, and one
more if it stops within a line. These are the lines that the content is cut into: none of them holds
a newline, and with a newline behind each they are the content again. -/
theorem ofPortions_eq_length_rawLines {content : Bytes} {portions : List Bytes}
    (hwhole : portions.flatten = content) (hfilled : ∀ portion ∈ portions, portion ≠ []) :
    ofPortions portions = content.count newline +
        (if content ≠ [] ∧ content.getLast? ≠ some newline then 1 else 0) ∧
      ofPortions portions = (rawLines content).length ∧
      ofPortions portions = ofBytes content ∧
      (∀ line ∈ rawLines content, newline ∉ line) ∧
      (rawLines content).flatMap (· ++ [newline]) =
        content ++ if content ≠ [] ∧ content.getLast? ≠ some newline then [newline] else [] := by
  subst hwhole
  have hcount := ofPortions_eq hfilled
  refine ⟨hcount.trans (total_after _), ?_, hcount.trans (ofBytes_eq _).symm,
    newline_notMem_rawLines, flatMap_rawLines _⟩
  rw [hcount, total_after, length_rawLines]

/-- Newlines at the end and at the beginning of a portion, and a last line in two portions. -/
theorem ofPortions_eq_length_rawLines_cut_lines :
    let portions : List Bytes := [[97, newline], [newline, 98], [99]]
    (∀ portion ∈ portions, portion ≠ []) ∧ ofPortions portions = 3 ∧
      rawLines portions.flatten = [[97], [], [98, 99]] := by
  intro portions
  have hfilled : ∀ portion ∈ portions, portion ≠ [] := by decide
  obtain ⟨hcount, -⟩ := ofPortions_eq_length_rawLines rfl hfilled
  exact ⟨hfilled, hcount.trans (by decide), by decide⟩

end SourceAtlas.LineCount
