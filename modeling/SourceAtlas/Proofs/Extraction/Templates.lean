import SourceAtlas.Proofs.Extraction.Conditions

/-!
# Templates

A template is cut at its marks into pieces, of which every second one is a name. Expanding it puts
the values of the names in their places and looks at nothing else. A text in which no name is marked
stays as it is, and a text that is one marked name becomes the value of the name.
-/

namespace SourceAtlas.Template

open Text (StandsAt)

variable {m : Marker} {resolve : Text → Text} {t name : Text}

/-- A text without a pair of marks stays as it is. -/
theorem expand_of_unmarked (h : ∀ name, ¬ m.wrap name <:+: t) : expand m resolve t = t := by
  rw [expand]
  split
  · rfl
  · rename_i i hopen
    dsimp only
    split
    · rfl
    · rename_i n hclose
      have hopen : StandsAt m.delimiter t i := (Text.isLeast_of_find? hopen).1
      have hclose : StandsAt m.delimiter (t.drop (i + 2)) n := (Text.isLeast_of_find? hclose).1
      refine absurd ?_ (h ((t.drop (i + 2)).take n))
      -- From the first mark on, the text is a marked name and what follows it.
      have hname : t.drop i = m.wrap ((t.drop (i + 2)).take n) ++
          (t.drop (i + 2)).drop (n + 2) := by
        have hrest := hclose.drop_eq
        rw [m.delimiter_length] at hrest
        rw [hopen.drop_eq, m.delimiter_length, Marker.wrap, List.append_assoc, List.append_assoc,
          ← hrest, List.take_append_drop]
      have hwithin : m.wrap ((t.drop (i + 2)).take n) <:+: t.drop i :=
        hname ▸ (List.prefix_append _ _).isInfix
      exact hwithin.trans (List.drop_suffix i t).isInfix

theorem unmarked_of_not_isInfix (h : ¬ m.delimiter <:+: t) (name : Text) :
    ¬ m.wrap name <:+: t := by
  intro hname
  refine h (List.IsInfix.trans ?_ hname)
  rw [Marker.wrap, List.append_assoc]
  exact (List.prefix_append _ _).isInfix

/-! ## Pieces -/

/-- The pieces of a template in their order, with the value of every second one in its place. If
their number is even, the last mark has no partner: it stays, and the last piece is no name. -/
def weave (delimiter : Text) (resolve : Text → Text) : List Text → Text
  | [] => []
  | [piece] => piece
  | [piece, loose] => piece ++ delimiter ++ loose
  | piece :: name :: next :: pieces =>
    piece ++ resolve name ++ weave delimiter resolve (next :: pieces)

theorem delimiter_ne_nil (m : Marker) : m.delimiter ≠ [] := by cases m <;> decide

theorem drop_behind_mark (m : Marker) (piece rest : Text) :
    (piece ++ m.delimiter ++ rest).drop (piece.length + 2) = rest :=
  List.drop_left' (by rw [List.length_append, m.delimiter_length])

/-- The first two marks of a template are around a name. -/
theorem expand_name {piece rest : Text}
    (hopen : ∀ position,
      StandsAt m.delimiter (piece ++ m.delimiter ++ (name ++ m.delimiter ++ rest)) position →
        piece.length ≤ position)
    (hclose : ∀ position, StandsAt m.delimiter (name ++ m.delimiter ++ rest) position →
      name.length ≤ position) :
    expand m resolve (piece ++ m.delimiter ++ (name ++ m.delimiter ++ rest)) =
      piece ++ resolve name ++ expand m resolve rest := by
  have hfirst := Text.find?_of_leftmost hopen
  have hsecond := Text.find?_of_leftmost hclose
  rw [expand]
  split
  · rename_i hnone
    cases hfirst.symm.trans hnone
  · rename_i i hi
    cases hfirst.symm.trans hi
    simp only [drop_behind_mark, hsecond]
    rw [List.append_assoc piece, List.take_left, List.append_assoc name, List.take_left]

/-- A mark without a partner stays. -/
theorem expand_loose {piece rest : Text}
    (hopen : ∀ position, StandsAt m.delimiter (piece ++ m.delimiter ++ rest) position →
      piece.length ≤ position)
    (hrest : ¬ m.delimiter <:+: rest) :
    expand m resolve (piece ++ m.delimiter ++ rest) = piece ++ m.delimiter ++ rest := by
  rw [expand]
  split
  · rfl
  · rename_i i hi
    cases (Text.find?_of_leftmost hopen).symm.trans hi
    simp only [drop_behind_mark, Text.find?_eq_none.2 hrest]

/-- Expanding a template puts the values of its names between the other pieces. -/
theorem expand_eq_weave {pieces : List Text} (h : Text.Cuts m.delimiter t pieces) :
    expand m resolve t = weave m.delimiter resolve pieces := by
  induction pieces using weave.induct generalizing t with
  | case1 => cases h
  | case2 piece =>
    cases h with
    | last absent => exact expand_of_unmarked (unmarked_of_not_isInfix absent)
    | next _ rest => cases rest
  | case3 piece loose =>
    cases h with
    | next leftmost rest =>
      cases rest with
      | last absent => exact expand_loose leftmost absent
      | next _ rest => cases rest
  | case4 piece name next pieces ih =>
    cases h with
    | next leftmost rest =>
      cases rest with
      | next leftmost' rest => rw [expand_name leftmost leftmost', ih rest, weave]

/-- A text that is one marked name becomes the value of the name. -/
theorem expand_wrap (h : ∀ c ∈ m.delimiter, c ∉ name) :
    expand m resolve (m.wrap name) = resolve name := by
  have hne := delimiter_ne_nil m
  have hlast : Text.Cuts m.delimiter [] [[]] := .last fun hinside =>
    hne (List.eq_nil_of_infix_nil hinside)
  have hname : Text.Cuts m.delimiter (name ++ m.delimiter ++ []) [name, []] :=
    .next (fun position hstands => Text.repels_of_forall_not_mem hne h _ position
      (by rwa [List.append_assoc] at hstands)) hlast
  have hpieces : Text.Cuts m.delimiter ([] ++ m.delimiter ++ (name ++ m.delimiter ++ []))
      [[], name, []] := .next (fun _ _ => Nat.zero_le _) hname
  have hwrap : [] ++ m.delimiter ++ (name ++ m.delimiter ++ []) = m.wrap name := by
    simp [Marker.wrap]
  rw [← hwrap, expand_eq_weave hpieces]
  simp [weave]

/-! ## Names -/

/-- The names that stand for the place of a file. -/
def builtinNames : List Text :=
  ["NAMEOFFILE", "NAMEOFFILEONLY", "PATHOFFILE", "PATHOFFILEONLY", "NAMEOFDIRECTORY",
    "PATHOFDIRECTORY"].map String.toList

theorem builtin?_eq_none {e : Entity} (h : name ∉ builtinNames) : builtin? e name = none := by
  have hname {text : String} (heq : String.ofList name = text) : name = text.toList := by
    rw [← heq, String.toList_ofList]
  unfold builtin?
  split
  case h_7 => rfl
  all_goals
    rename_i heq
    rw [hname heq] at h
    exact absurd (by decide) h

theorem resolve_of_valueOf? {e : Entity} {value : Text} (h : name ∉ builtinNames)
    (hvalue : e.valueOf? name = some value) : Template.resolve e name = value := by
  rw [Template.resolve, builtin?_eq_none h, hvalue]
  rfl

end SourceAtlas.Template
