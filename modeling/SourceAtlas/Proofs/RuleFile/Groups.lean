import SourceAtlas.Proofs.Text.Cutting
import SourceAtlas.Rule.Parser
import SourceAtlas.Rule.Printer

/-!
# Bracketed groups

Marks are listed as groups in brackets, and a closing bracket, a comma and an opening bracket
separate two groups, with white space around the comma. A group is `Unbroken` if no such separator
stands inside it. Groups that are read are unbroken, and unbroken groups are read back from a
printed list one by one; a group that holds a separator comes back as several groups.
-/

namespace SourceAtlas.RuleFile

open Text (IsBlank IsTrimmed)

/-- No separator of groups stands in the text. -/
def Unbroken (t : Text) : Prop := ∀ u v, t = u ++ ']' :: v → groupStart? v = none

/-! ## Separators -/

theorem groupStart?_append {v rest : Text} (h : groupStart? v = some rest) (w : Text) :
    groupStart? (v ++ w) = some (rest ++ w) := by
  have extend {t u : Text} {c : Char} (ht : Text.trimStart t = c :: u) :
      Text.trimStart (t ++ w) = c :: (u ++ w) := by
    obtain ⟨a, ha, hta⟩ := Text.exists_eq_append_trimStart t
    have hc : ¬Text.isSpace c := Text.head_trimStart (t := t) c (by rw [ht]; rfl)
    rw [hta, List.append_assoc, Text.trimStart_append ha, ht]
    exact Text.trimStart_cons hc
  unfold groupStart? at h
  split at h
  · rename_i u hu
    split at h
    · rename_i x hx
      cases h
      simp only [groupStart?, extend hu, extend hx]
    · cases h
  · cases h

/-- A closing bracket that follows a text is no part of a separator that starts in the text. -/
theorem groupStart?_append_bracket (v w : Text) :
    groupStart? (v ++ ']' :: w) = (groupStart? v).map (· ++ ']' :: w) := by
  have hb : ¬Text.isSpace ']' := by decide
  cases hv : groupStart? v with
  | some rest => rw [groupStart?_append hv, Option.map_some]
  | none =>
    unfold groupStart? at hv ⊢
    rw [Text.trimStart_append_cons hb]
    cases ht : Text.trimStart v with
    | nil => simp
    | cons c u =>
      by_cases hc : c = ','
      · subst hc
        simp only [ht, List.cons_append, Text.trimStart_append_cons hb] at hv ⊢
        cases hu : Text.trimStart u with
        | nil => simp
        | cons d x =>
          by_cases hd : d = '['
          · subst hd
            simp [hu] at hv
          · simp [hd]
      · simp [hc]

theorem groupStart?_suffix {t rest : Text} (h : groupStart? t = some rest) : rest <:+ t := by
  unfold groupStart? at h
  split at h
  · rename_i u hu
    split at h
    · rename_i x hx
      cases h
      have hxu : rest <:+ u := (List.suffix_cons _ _).trans (hx ▸ Text.trimStart_suffix u)
      exact hxu.trans ((List.suffix_cons _ _).trans (hu ▸ Text.trimStart_suffix t))
    · cases h
  · cases h

theorem comma_mem_of_groupStart? {t rest : Text} (h : groupStart? t = some rest) : ',' ∈ t := by
  unfold groupStart? at h
  split at h
  · rename_i u hu
    exact (Text.trimStart_suffix t).subset (hu ▸ List.mem_cons_self)
  · cases h

/-- White space, a comma, white space and an opening bracket make a separator. -/
theorem groupStart?_of_blank {a b : Text} (ha : IsBlank a) (hb : IsBlank b) (t : Text) :
    groupStart? (a ++ ',' :: (b ++ '[' :: t)) = some t := by
  have hcomma : Text.trimStart (a ++ ',' :: (b ++ '[' :: t)) = ',' :: (b ++ '[' :: t) := by
    rw [Text.trimStart_append ha]
    exact Text.trimStart_cons (by decide)
  have hopen : Text.trimStart (b ++ '[' :: t) = '[' :: t := by
    rw [Text.trimStart_append hb]
    exact Text.trimStart_cons (by decide)
  simp only [groupStart?, hcomma, hopen]

/-- A separator whose comma is the first one of a text has nothing but white space before the
comma, and the next group behind it. -/
theorem isBlank_of_groupStart? {a t found : Text} (ha : ',' ∉ a)
    (h : groupStart? (a ++ ',' :: t) = some found) :
    IsBlank a ∧ (Text.trimStart t).head? = some '[' := by
  unfold groupStart? at h
  rw [Text.trimStart_append_cons (by decide)] at h
  cases hs : Text.trimStart a with
  | nil =>
    rw [hs] at h
    refine ⟨Text.trimStart_eq_nil.1 hs, ?_⟩
    simp only [List.nil_append] at h
    split at h
    · rename_i hopen
      rw [hopen]
      rfl
    · cases h
  | cons c u =>
    rw [hs, List.cons_append] at h
    have hmem : c ∈ a := (Text.trimStart_suffix a).subset (hs ▸ List.mem_cons_self)
    split at h
    · rename_i hc
      exact absurd ((List.cons.inj hc).1 ▸ hmem) ha
    · cases h

/-! ## Cutting at separators -/

theorem splitGroups_nil : splitGroups [] = [[]] := by rw [splitGroups]

theorem splitGroups_bracket {t rest : Text} (h : groupStart? t = some rest) :
    splitGroups (']' :: t) = [] :: splitGroups rest := by
  rw [splitGroups]
  split
  · rename_i found h' _
    rw [h] at h'
    cases h'
    rfl
  · rename_i hne
    exact absurd (by decide) (hne rest h)

theorem splitGroups_cons {c : Char} {t : Text} (h : c = ']' → groupStart? t = none) :
    splitGroups (c :: t) =
      match splitGroups t with
      | [] => [[c]]
      | g :: gs => (c :: g) :: gs := by
  rw [splitGroups]
  split
  · rename_i rest h' hc
    rw [h (of_decide_eq_true hc)] at h'
    cases h'
  · rfl

theorem splitGroups_ne_nil (t : Text) : splitGroups t ≠ [] := by
  cases t with
  | nil => simp [splitGroups_nil]
  | cons c t =>
    rw [splitGroups]
    split
    · simp
    · split <;> simp

/-- The two ways in which a text with a first character is cut: a separator starts here, or the
character joins the first group of the rest. -/
theorem splitGroups_cases (c : Char) (t : Text) :
    (∃ rest, c = ']' ∧ groupStart? t = some rest ∧
      splitGroups (c :: t) = [] :: splitGroups rest) ∨
    ((c = ']' → groupStart? t = none) ∧
      ∃ g gs, splitGroups t = g :: gs ∧ splitGroups (c :: t) = (c :: g) :: gs) := by
  by_cases hc : c = ']' → groupStart? t = none
  · obtain ⟨g, gs, hg⟩ := List.exists_cons_of_ne_nil (splitGroups_ne_nil t)
    exact .inr ⟨hc, g, gs, hg, by rw [splitGroups_cons hc, hg]⟩
  · obtain ⟨rfl, hne⟩ := Classical.not_imp.1 hc
    obtain ⟨rest, hrest⟩ := Option.ne_none_iff_exists'.1 hne
    exact .inl ⟨rest, rfl, hrest, splitGroups_bracket hrest⟩

/-- The printed separator cuts a list of groups wherever it stands: no separator that starts
before it reaches into it. -/
theorem splitGroups_append (g rest : Text) :
    splitGroups (g ++ ']' :: ',' :: ' ' :: '[' :: rest) = splitGroups g ++ splitGroups rest := by
  induction h : g.length using Nat.strong_induction_on generalizing g with
  | _ n ih =>
    cases g with
    | nil =>
      have hsep : groupStart? (',' :: ' ' :: '[' :: rest) = some rest :=
        groupStart?_of_blank Text.isBlank_nil (b := [' ']) (by simp [IsBlank]; rfl) rest
      rw [List.nil_append, splitGroups_bracket hsep, splitGroups_nil]
      rfl
    | cons c g =>
      simp only [List.length_cons] at h
      have hstart := groupStart?_append_bracket g (',' :: ' ' :: '[' :: rest)
      rcases splitGroups_cases c g with ⟨inner, rfl, hinner, hcut⟩ | ⟨hc, first, others, hg, hcut⟩
      · have hlen := groupStart?_length hinner
        rw [hinner] at hstart
        rw [List.cons_append, splitGroups_bracket hstart, hcut,
          ih inner.length (by omega) inner rfl]
        rfl
      · have hnone : c = ']' → groupStart? (g ++ ']' :: ',' :: ' ' :: '[' :: rest) = none := by
          intro hb
          rw [hstart, hc hb, Option.map_none]
        rw [List.cons_append, splitGroups_cons hnone, hcut, ih g.length (by omega) g rfl, hg]
        rfl

/-! ## Unbroken groups -/

theorem unbroken_nil : Unbroken [] := by
  intro u v h
  simp at h

theorem unbroken_cons {c : Char} {t : Text} :
    Unbroken (c :: t) ↔ (c = ']' → groupStart? t = none) ∧ Unbroken t := by
  constructor
  · intro h
    refine ⟨?_, ?_⟩
    · rintro rfl
      exact h [] t rfl
    · intro u v ht
      exact h (c :: u) v (by rw [ht, List.cons_append])
  · rintro ⟨hc, ht⟩ u v h
    cases u with
    | nil =>
      obtain ⟨rfl, rfl⟩ := List.cons.inj h
      exact hc rfl
    | cons d u => exact ht u v (List.tail_eq_of_cons_eq h)

theorem unbroken_of_comma_not_mem {t : Text} (h : ',' ∉ t) : Unbroken t := by
  intro u v ht
  cases hv : groupStart? v with
  | none => rfl
  | some rest =>
    have hmem : ',' ∈ v := comma_mem_of_groupStart? hv
    exact absurd (by rw [ht]; simp [hmem]) h

theorem Unbroken.of_append {u v : Text} (h : Unbroken (u ++ v)) : Unbroken v := by
  intro x y hv
  exact h (u ++ x) y (by rw [hv, List.append_assoc])

/-- A separator is not undone by what follows it. -/
theorem Unbroken.of_append_right {u v : Text} (h : Unbroken (u ++ v)) : Unbroken u := by
  intro x y hu
  by_contra hne
  obtain ⟨rest, hrest⟩ := Option.ne_none_iff_exists'.1 hne
  have := h x (y ++ v) (by rw [hu]; simp)
  rw [groupStart?_append hrest] at this
  cases this

/-- An unbroken text is a single group. -/
theorem splitGroups_of_unbroken {t : Text} (h : Unbroken t) : splitGroups t = [t] := by
  induction t with
  | nil => exact splitGroups_nil
  | cons c t ih =>
    obtain ⟨hc, ht⟩ := unbroken_cons.1 h
    rw [splitGroups_cons hc, ih ht]

theorem one_lt_length_splitGroups {t : Text} (h : ¬Unbroken t) : 1 < (splitGroups t).length := by
  induction t with
  | nil => exact absurd unbroken_nil h
  | cons c t ih =>
    rcases splitGroups_cases c t with ⟨rest, rfl, hrest, hcut⟩ | ⟨hc, first, others, hg, hcut⟩
    · have := List.length_pos_iff.2 (splitGroups_ne_nil rest)
      rw [hcut, List.length_cons]
      omega
    · have ht := ih fun ht => h (unbroken_cons.2 ⟨hc, ht⟩)
      rw [hcut]
      simpa [hg] using ht

theorem head_splitGroups_prefix {t g : Text} {gs : List Text} (h : splitGroups t = g :: gs) :
    g <+: t := by
  induction t generalizing g gs with
  | nil =>
    rw [splitGroups_nil] at h
    exact List.head_eq_of_cons_eq h ▸ List.nil_prefix
  | cons c t ih =>
    rcases splitGroups_cases c t with ⟨rest, rfl, hrest, hcut⟩ | ⟨hc, first, others, hg, hcut⟩
    · rw [hcut] at h
      exact List.head_eq_of_cons_eq h ▸ List.nil_prefix
    · rw [hcut] at h
      rw [← List.head_eq_of_cons_eq h]
      exact List.cons_prefix_cons.2 ⟨rfl, ih hg⟩

/-- Every group that is cut off a text is an unbroken part of it. -/
theorem mem_splitGroups {t g : Text} (h : g ∈ splitGroups t) : Unbroken g ∧ g <:+: t := by
  induction hn : t.length using Nat.strong_induction_on generalizing t g with
  | _ n ih =>
    cases t with
    | nil =>
      rw [splitGroups_nil, List.mem_singleton] at h
      subst h
      exact ⟨unbroken_nil, List.infix_rfl⟩
    | cons c t =>
      simp only [List.length_cons] at hn
      rcases splitGroups_cases c t with ⟨rest, rfl, hrest, hcut⟩ | ⟨hc, first, others, hg, hcut⟩
      · have hlen := groupStart?_length hrest
        have hpart := (groupStart?_suffix hrest).trans (List.suffix_cons ']' t)
        rw [hcut] at h
        rcases List.mem_cons.1 h with rfl | h
        · exact ⟨unbroken_nil, List.nil_infix⟩
        · obtain ⟨hu, hi⟩ := ih rest.length (by omega) h rfl
          exact ⟨hu, hi.trans hpart.isInfix⟩
      · rw [hcut] at h
        rcases List.mem_cons.1 h with rfl | h
        · obtain ⟨hu, hi⟩ := ih t.length (by omega) (hg ▸ List.mem_cons_self) rfl
          obtain ⟨tail, htail⟩ := head_splitGroups_prefix hg
          refine ⟨unbroken_cons.2 ⟨?_, hu⟩, ⟨[], tail, by simp [htail]⟩⟩
          -- A separator inside the first group would already have cut the text.
          intro hb
          by_contra hne
          obtain ⟨rest, hrest⟩ := Option.ne_none_iff_exists'.1 hne
          have := groupStart?_append hrest tail
          rw [htail, hc hb] at this
          cases this
        · obtain ⟨hu, hi⟩ := ih t.length (by omega) (hg ▸ List.mem_cons_of_mem _ h) rfl
          exact ⟨hu, hi.trans (List.suffix_cons c t).isInfix⟩

/-! ## Printed lists -/

/-- A group as a list of groups shows it. -/
def bracketed (g : Text) : Text := '[' :: g ++ [']']

/-- What separates the groups of a printed list. -/
def separator : Text := "], [".toList

theorem join_bracketed {gs : List Text} (hne : gs ≠ []) :
    Text.join ", ".toList (gs.map bracketed) = bracketed (Text.join separator gs) := by
  induction gs with
  | nil => exact absurd rfl hne
  | cons g gs ih =>
    cases gs with
    | nil => rfl
    | cons h hs =>
      have htail := ih (by simp)
      simp only [List.map_cons, Text.join] at htail ⊢
      rw [htail]
      simp [bracketed, separator]

theorem splitGroups_join {gs : List Text} (hne : gs ≠ []) :
    splitGroups (Text.join separator gs) = gs.flatMap splitGroups := by
  induction gs with
  | nil => exact absurd rfl hne
  | cons g gs ih =>
    cases gs with
    | nil => simp [Text.join]
    | cons h hs =>
      have hsplit : Text.join separator (g :: h :: hs) =
          g ++ ']' :: ',' :: ' ' :: '[' :: Text.join separator (h :: hs) := by
        simp [Text.join, separator]
      rw [hsplit, splitGroups_append, ih (by simp)]
      rfl

theorem findLast?_concat (c : Char) (t : Text) :
    Text.findLast? c (t ++ [c]) = some t.length := by
  simp [Text.findLast?, List.findIdx?_cons]

/-- The groups of a list between the first opening bracket of a line and the closing one at its
end. -/
theorem groups_brackets {a t : Text} (ha : '[' ∉ a) (ht : ¬IsBlank t) :
    groups (a ++ '[' :: bracketed t ++ [']']) = .ok (splitGroups t) := by
  have hfirst : (a ++ '[' :: bracketed t ++ [']']).findIdx? (· == '[') = some a.length := by
    have hnone : a.findIdx? (· == '[') = none := by
      rw [List.findIdx?_eq_none_iff]
      intro c hc
      have : c ≠ '[' := fun h => ha (h ▸ hc)
      simpa using this
    rw [List.append_assoc, List.findIdx?_append, hnone]
    simp [List.findIdx?_cons]
  have htrimmed : IsTrimmed (bracketed t) := by
    refine ⟨?_, ?_⟩ <;> intro c hc
    · cases hc
      decide
    · simp only [bracketed, List.getLast?_append, List.getLast?_singleton] at hc
      cases hc
      decide
  have hinner : ((a ++ '[' :: bracketed t ++ [']']).take (a ++ '[' :: bracketed t).length).drop
      (a.length + 1) = bracketed t := by
    rw [List.take_left' rfl, List.drop_append]
    simp
  have hlast : ¬(a ++ '[' :: bracketed t).length ≤ a.length := by
    simp
  unfold groups
  rw [hfirst, findLast?_concat]
  simp only [Option.getD_some, if_neg hlast, hinner, Text.trim_of_isTrimmed htrimmed]
  have hopen : (bracketed t).head? = some '[' := rfl
  have hrest : Text.dropSuffixChar ']' (bracketed t).tail = t := by
    simp [bracketed, Text.dropSuffixChar]
  rw [if_pos hopen, hrest, if_neg]
  rw [List.isEmpty_iff, Text.trim_eq_nil]
  exact ht

/-- The groups of a line are unbroken parts of it. -/
theorem mem_groups {line g : Text} {gs : List Text} (h : groups line = .ok gs) (hg : g ∈ gs) :
    Unbroken g ∧ g ⊆ line := by
  have cut {t : Text} (ht : t ⊆ line)
      (h : (if (Text.trim (Text.dropSuffixChar ']' t)).isEmpty then .ok []
        else .ok (splitGroups (Text.dropSuffixChar ']' t)) : Except Malformation _) = .ok gs) :
      Unbroken g ∧ g ⊆ line := by
    have hpart : Text.dropSuffixChar ']' t ⊆ t := by
      unfold Text.dropSuffixChar
      split
      · exact (List.dropLast_sublist t).subset
      · exact List.Subset.refl t
    split at h
    · cases h
      cases hg
    · cases h
      obtain ⟨hu, hi⟩ := mem_splitGroups hg
      exact ⟨hu, List.Subset.trans hi.subset (List.Subset.trans hpart ht)⟩
  have hinner (first last : Nat) : Text.trim ((line.take last).drop first) ⊆ line := by
    intro c hc
    exact List.mem_of_mem_take (List.mem_of_mem_drop (Text.mem_of_mem_trim hc))
  unfold groups at h
  split at h
  · cases h
  · simp only at h
    split at h
    · cases h
    · split at h
      · exact cut (List.Subset.trans (List.tail_sublist _).subset (hinner _ _)) h
      · exact cut (hinner _ _) h

end SourceAtlas.RuleFile
