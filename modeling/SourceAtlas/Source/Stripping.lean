import SourceAtlas.Rule.Basic

/-!
# Stripping comments and literals

A source line is reduced to its code: comments and text literals are left out together with their
marks. A comment or a literal that is open at the end of a line is still open on the next one, so
stripping goes from one line state to the next.

Outside comments and literals a mark that starts a line comment is looked for first, in all of the
rest of the line; only a line without one is searched for the other marks.
-/

namespace SourceAtlas

/-- What is open between two lines. -/
structure LineState where
  insideComment : Bool
  /-- The open literal, as its position among the literal marks. -/
  openLiteral : Option Nat
  deriving DecidableEq, Repr

namespace LineState

def clear : LineState := ⟨false, none⟩

def isClear (s : LineState) : Bool := !s.insideComment && s.openLiteral.isNone

end LineState

namespace Stripping

/-- A mark that was found: where, how long it is, and what it belongs to. -/
structure Found (α : Type) where
  position : Nat
  length : Nat
  mark : α

namespace Found

variable {α : Type}

/-- Whether a mark is to be taken rather than another one: it stands further left, or at the same
position and is longer. -/
def precedes (a b : Found α) : Bool :=
  a.position < b.position || (a.position == b.position && b.length < a.length)

/-- The one to be taken of the best mark so far and the next one. -/
def prefer (best : Option (Found α)) (mark : Found α) : Option (Found α) :=
  match best with
  | none => some mark
  | some b => if mark.precedes b then some mark else some b

/-- The mark to be taken; the first in the list among equals. -/
def foremost? (marks : List (Found α)) : Option (Found α) := marks.foldl prefer none

theorem foldl_prefer {marks : List (Found α)} {best : Option (Found α)} {found : Found α}
    (h : marks.foldl prefer best = some found) : best = some found ∨ found ∈ marks := by
  induction marks generalizing best with
  | nil => exact .inl h
  | cons mark marks ih =>
    rcases ih h with hb | hm
    · unfold prefer at hb
      split at hb
      · cases hb
        exact .inr (by simp)
      · split at hb
        · cases hb
          exact .inr (by simp)
        · exact .inl hb
    · exact .inr (by simp [hm])

theorem foremost?_mem {marks : List (Found α)} {found : Found α}
    (h : foremost? marks = some found) : found ∈ marks := by
  simpa using foldl_prefer h

end Found

/-- Looks for a mark; an empty one is nowhere. -/
def findMark? {α : Type} (text : Text) (t : Text) (mark : α) : Option (Found α) :=
  if text.isEmpty then none else (Text.find? text t).map fun i => ⟨i, text.length, mark⟩

/-- The position behind the end of a comment that comes first. -/
def commentEnd? (set : RuleSet) (t : Text) : Option Nat :=
  (Found.foremost? (set.blockComments.filterMap fun c => findMark? c.stop t ())).map fun f =>
    f.position + f.length

/-- Whether an end mark behind `before` does not end its literal. An exception that is longer than
the mark and ends with it covers the mark; any other one stands before it. -/
def isExcepted (mark : LiteralMark) (before : Text) : Bool :=
  (mark.exceptions.filter (!·.isEmpty)).any fun e =>
    if mark.stop.isSuffixOf e && mark.stop.length < e.length then e.isSuffixOf (before ++ mark.stop)
    else e.isSuffixOf before

/-- The position behind the first end mark in `t` that is no exception, where `before` is what was
passed on the way to `t`. End marks do not overlap: the search goes on behind each. -/
def literalEndFrom? (mark : LiteralMark) (before t : Text) : Option Nat :=
  match Text.find? mark.stop t with
  | none => none
  | some i =>
    let passed := i + mark.stop.length
    if !isExcepted mark (before ++ t.take i) then some (before.length + passed)
    else if 0 < passed ∧ 0 < t.length then
      literalEndFrom? mark (before ++ t.take passed) (t.drop passed)
    else none
termination_by t.length
decreasing_by simp only [List.length_drop]; omega

/-- The position behind the end of a literal. A literal without an end mark ends at once. -/
def literalEnd? (mark : LiteralMark) (t : Text) : Option Nat :=
  if mark.stop.isEmpty then some 0 else literalEndFrom? mark [] t

/-- The position of the first mark that starts a line comment. -/
def lineComment? (set : RuleSet) (t : Text) : Option Nat :=
  (Found.foremost? (set.lineComments.filterMap fun start => findMark? start t ())).map
    Found.position

/-- What a mark opens. -/
inductive Opening where
  | comment
  | literal (index : Nat)
  deriving DecidableEq, Repr

def Opening.enter : Opening → LineState
  | comment => ⟨true, none⟩
  | literal index => ⟨false, some index⟩

/-- The mark that opens the next comment or literal. -/
def opening? (set : RuleSet) (t : Text) : Option (Found Opening) :=
  Found.foremost?
    ((set.blockComments.filterMap fun c => findMark? c.start t .comment) ++
      set.literals.zipIdx.filterMap fun (l, i) => findMark? l.start t (.literal i))

theorem findMark?_bounds {α : Type} {text t : Text} {mark : α} {found : Found α}
    (h : findMark? text t mark = some found) :
    0 < found.length ∧ found.position + found.length ≤ t.length := by
  unfold findMark? at h
  split at h
  · cases h
  · rename_i hne
    obtain ⟨i, hi, rfl⟩ := Option.map_eq_some_iff.1 h
    exact ⟨List.length_pos_iff.2 (by simpa using hne), Text.find?_le hi⟩

theorem opening?_bounds {set : RuleSet} {t : Text} {found : Found Opening}
    (h : opening? set t = some found) :
    0 < found.length ∧ found.position + found.length ≤ t.length := by
  rcases List.mem_append.1 (Found.foremost?_mem h) with hc | hl
  · obtain ⟨c, -, hc⟩ := List.mem_filterMap.1 hc
    exact findMark?_bounds hc
  · obtain ⟨⟨l, i⟩, -, hl⟩ := List.mem_filterMap.1 hl
    exact findMark?_bounds hl

end Stripping

/-- The code of a line that starts in a state, and the state at its end. -/
def RuleSet.strip (set : RuleSet) (state : LineState) (t : Text) : Text × LineState :=
  if _hc : state.insideComment then
    match Stripping.commentEnd? set t with
    | some n => set.strip { state with insideComment := false } (t.drop n)
    | none => ([], state)
  else
    match _hl : state.openLiteral with
    | some index =>
      match set.literals[index]? with
      | none => set.strip { state with openLiteral := none } t
      | some mark =>
        match Stripping.literalEnd? mark t with
        | some n => set.strip { state with openLiteral := none } (t.drop n)
        | none => ([], state)
    | none =>
      match Stripping.lineComment? set t with
      | some n => (t.take n, state)
      | none =>
        match ho : Stripping.opening? set t with
        | none => (t, state)
        | some found =>
          have := Stripping.opening?_bounds ho
          let (code, last) := set.strip found.mark.enter (t.drop (found.position + found.length))
          (t.take found.position ++ code, last)
termination_by 2 * t.length + state.insideComment.toNat + state.openLiteral.isSome.toNat
decreasing_by
  · simp only [_hc, Bool.toNat_true, Bool.toNat_false, List.length_drop]
    omega
  · simp only [_hl, Option.isSome_some, Option.isSome_none, Bool.toNat_true, Bool.toNat_false]
    omega
  · simp only [_hl, Option.isSome_some, Option.isSome_none, Bool.toNat_true, Bool.toNat_false,
      List.length_drop]
    omega
  · simp only [List.length_drop]
    cases found.mark <;> simp [Stripping.Opening.enter] <;> omega

end SourceAtlas
