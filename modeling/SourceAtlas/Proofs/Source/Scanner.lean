import Mathlib.Data.List.MinMax
import SourceAtlas.Source.Stripping

/-!
# Stripping as a scanner

Stripping looks for every mark on its own, over all that is left of the line, and takes the one
that is found foremost. A scanner goes from left to right instead and looks only at the marks that
stand at its position. Here the two are shown to agree, from every state and on every line.

The scanner is a relation: a line is scanned by finitely many turns, the last of which stops.
-/

namespace SourceAtlas.Stripping

/-! ## Marks at a position -/

/-- Whether a text starts with a mark. An empty mark stands nowhere. -/
def stands {α : Type} (t : Text) (mark : Text × α) : Bool :=
  !mark.1.isEmpty && mark.1.isPrefixOf t

/-- The longest mark that a text starts with, the first in the list among equals. -/
def longest? {α : Type} (marks : List (Text × α)) (t : Text) : Option (Text × α) :=
  (marks.filter (stands t)).argmax fun mark => mark.1.length

/-- The first position at which something is found: what was passed on the way, what is found, and
the text from there on. -/
def firstWhere {β : Type} (here : Text → Option β) (t : Text) : Option (Text × β × Text) :=
  match here t with
  | some b => some ([], b, t)
  | none =>
    match t with
    | [] => none
    | c :: t => (firstWhere here t).map fun (passed, b, rest) => (c :: passed, b, rest)

theorem eq_append_of_firstWhere {β : Type} {here : Text → Option β} {t passed rest : Text} {b : β}
    (h : firstWhere here t = some (passed, b, rest)) : t = passed ++ rest := by
  induction t generalizing passed with
  | nil =>
    rw [firstWhere] at h
    split at h <;> cases h
    rfl
  | cons c t ih =>
    rw [firstWhere] at h
    split at h
    · cases h
      rfl
    · obtain ⟨⟨passed', _, _⟩, h, heq⟩ := Option.map_eq_some_iff.1 h
      cases heq
      rw [ih h, List.cons_append]

theorem drop_of_firstWhere {β : Type} {here : Text → Option β} {t passed rest : Text} {b : β}
    (h : firstWhere here t = some (passed, b, rest)) (n : Nat) :
    t.drop (passed.length + n) = rest.drop n := by
  rw [eq_append_of_firstWhere h, ← List.drop_drop, List.drop_left]

theorem take_of_firstWhere {β : Type} {here : Text → Option β} {t passed rest : Text} {b : β}
    (h : firstWhere here t = some (passed, b, rest)) : t.take passed.length = passed := by
  rw [eq_append_of_firstWhere h, List.take_left]

theorem firstWhere_map {β γ : Type} (here : Text → Option β) (f : β → γ) (t : Text) :
    firstWhere (fun t => (here t).map f) t =
      (firstWhere here t).map fun (passed, b, rest) => (passed, f b, rest) := by
  induction t with
  | nil =>
    rw [firstWhere, firstWhere]
    cases here [] <;> rfl
  | cons c t ih =>
    rw [firstWhere, firstWhere, ih]
    cases here (c :: t) with
    | some b => rfl
    | none =>
      simp only [Option.map_none, Option.map_map]
      rfl

section

variable {α : Type} (marks : List (Text × α)) (t : Text)

/-- The longer one of the best mark so far and the next one. -/
def longer (best : Option (Text × α)) (mark : Text × α) : Option (Text × α) :=
  match best with
  | none => some mark
  | some other => if other.1.length < mark.1.length then some mark else some other

theorem longest?_concat (mark : Text × α) :
    longest? (marks ++ [mark]) t =
      if stands t mark then longer (longest? marks t) mark else longest? marks t := by
  rw [longest?, List.filter_append]
  split
  · rename_i hstands
    rw [List.filter_cons_of_pos hstands, List.filter_nil, List.argmax_concat, ← longest?]
    cases longest? marks t <;> rfl
  · rename_i hstands
    rw [List.filter_cons_of_neg hstands, List.filter_nil, List.append_nil, ← longest?]

theorem longest?_eq_none : longest? marks t = none ↔ ∀ mark ∈ marks, ¬ stands t mark := by
  rw [longest?, List.argmax_eq_none, List.filter_eq_nil_iff]

/-! ## The foremost mark -/

/-- A mark as it is found when it is searched for in a text. -/
def search (mark : Text × α) : Option (Found α) := findMark? mark.1 t mark.2

/-- A mark that was found in the text behind the first character of another one. -/
def Found.behind (found : Found α) : Found α := { found with position := found.position + 1 }

variable {marks t}

theorem search_of_stands {mark : Text × α} (h : stands t mark) :
    search t mark = some ⟨0, mark.1.length, mark.2⟩ := by
  obtain ⟨hne, hstart⟩ := Bool.and_eq_true_iff.1 h
  rw [search, findMark?, if_neg (by simpa using hne)]
  cases t with
  | nil =>
    rw [List.eq_nil_of_prefix_nil (List.isPrefixOf_iff_prefix.1 hstart)] at hne
    cases hne
  | cons c t =>
    rw [Text.find?, if_pos hstart]
    rfl

theorem search_cons_of_not_stands {mark : Text × α} {c : Char} (h : ¬ stands (c :: t) mark) :
    search (c :: t) mark = (search t mark).map Found.behind := by
  rw [search, search, findMark?, findMark?]
  split
  · rfl
  · rename_i hne
    have hstart : ¬ mark.1.isPrefixOf (c :: t) := by
      intro hstart
      exact h (Bool.and_eq_true_iff.2 ⟨by simpa using hne, hstart⟩)
    rw [Text.find?, if_neg hstart, Option.map_map, Option.map_map]
    rfl

theorem search_nil (mark : Text × α) : search [] mark = none := by
  rw [search, findMark?]
  split
  · rfl
  · rename_i hne
    rw [Text.find?, if_neg hne]
    rfl

theorem search_position_pos {mark : Text × α} {found : Found α} (h : ¬ stands t mark)
    (hfound : search t mark = some found) : 0 < found.position := by
  cases t with
  | nil =>
    rw [search_nil] at hfound
    cases hfound
  | cons c t =>
    rw [search_cons_of_not_stands h] at hfound
    obtain ⟨_, -, rfl⟩ := Option.map_eq_some_iff.1 hfound
    exact Nat.succ_pos _

theorem precedes_iff {a b : Found α} :
    a.precedes b ↔ a.position < b.position ∨ a.position = b.position ∧ b.length < a.length := by
  simp [Found.precedes]

theorem foremost?_concat (marks : List (Found α)) (mark : Found α) :
    Found.foremost? (marks ++ [mark]) = Found.prefer (Found.foremost? marks) mark := by
  rw [Found.foremost?, List.foldl_append]
  rfl

theorem foremost?_map_behind (marks : List (Found α)) :
    Found.foremost? (marks.map Found.behind) = (Found.foremost? marks).map Found.behind := by
  induction marks using List.reverseRecOn with
  | nil => rfl
  | append_singleton marks mark ih =>
    rw [List.map_append, List.map_singleton, foremost?_concat, foremost?_concat, ih]
    cases Found.foremost? marks with
    | none => rfl
    | some best =>
      have hsame : mark.behind.precedes best.behind = mark.precedes best := by
        rw [Bool.eq_iff_iff, precedes_iff, precedes_iff]
        simp only [Found.behind, Nat.add_lt_add_iff_right, Nat.add_right_cancel_iff]
      simp only [Found.prefer, Option.map_some, hsame]
      split <;> rfl

/-- The best mark found so far is the one chosen among those that stand here. If none does, it
stands further on. -/
def Leads (best : Option (Found α)) : Option (Text × α) → Prop
  | some mark => best = some ⟨0, mark.1.length, mark.2⟩
  | none => ∀ found, best = some found → 0 < found.position

theorem Leads.prefer_here {best : Option (Found α)} {chosen : Option (Text × α)}
    (h : Leads best chosen) (mark : Text × α) :
    Leads (Found.prefer best ⟨0, mark.1.length, mark.2⟩) (longer chosen mark) := by
  cases chosen with
  | none =>
    cases best with
    | none => rfl
    | some found =>
      have hprecedes : Found.precedes ⟨0, mark.1.length, mark.2⟩ found :=
        precedes_iff.2 (.inl (h found rfl))
      rw [longer, Leads, Found.prefer, if_pos hprecedes]
  | some other =>
    have hbest : best = some ⟨0, other.1.length, other.2⟩ := h
    have hprecedes : Found.precedes ⟨0, mark.1.length, mark.2⟩ ⟨0, other.1.length, other.2⟩ ↔
        other.1.length < mark.1.length := by
      simp [precedes_iff]
    rw [hbest, Found.prefer, longer]
    simp only [hprecedes]
    split <;> rfl

theorem Leads.prefer_further {best : Option (Found α)} {chosen : Option (Text × α)}
    (h : Leads best chosen) {found : Found α} (hfound : 0 < found.position) :
    Leads (Found.prefer best found) chosen := by
  cases chosen with
  | none =>
    intro other hother
    unfold Found.prefer at hother
    split at hother
    · cases hother
      exact hfound
    · rename_i b
      split at hother
      · cases hother
        exact hfound
      · exact h other hother
  | some mark =>
    have hbest : best = some ⟨0, mark.1.length, mark.2⟩ := h
    have hprecedes : ¬ found.precedes ⟨0, mark.1.length, mark.2⟩ := by
      simp only [precedes_iff]
      omega
    rw [Leads, hbest, Found.prefer, if_neg hprecedes]

/-- Of all marks that are found, the foremost is the longest one that stands here, if any does. -/
theorem leads_foremost? (marks : List (Text × α)) (t : Text) :
    Leads (Found.foremost? (marks.filterMap (search t))) (longest? marks t) := by
  induction marks using List.reverseRecOn with
  | nil => rintro found ⟨⟩
  | append_singleton marks mark ih =>
    rw [longest?_concat, List.filterMap_append]
    by_cases hstands : stands t mark
    · rw [if_pos hstands, List.filterMap_cons_some (search_of_stands hstands), List.filterMap_nil,
        foremost?_concat]
      exact ih.prefer_here mark
    · rw [if_neg hstands]
      cases hsearch : search t mark with
      | none =>
        rw [List.filterMap_cons_none hsearch, List.filterMap_nil, List.append_nil]
        exact ih
      | some found =>
        rw [List.filterMap_cons_some hsearch, List.filterMap_nil, foremost?_concat]
        exact ih.prefer_further (search_position_pos hstands hsearch)

/-- The foremost mark is the longest one at the first position at which any mark stands. -/
theorem foremost?_eq_firstWhere (marks : List (Text × α)) (t : Text) :
    Found.foremost? (marks.filterMap (search t)) =
      (firstWhere (longest? marks) t).map fun (passed, mark, _) =>
        ⟨passed.length, mark.1.length, mark.2⟩ := by
  induction t with
  | nil =>
    have hleads := leads_foremost? marks []
    rw [firstWhere]
    split
    · rename_i mark hlongest
      rw [hlongest] at hleads
      exact hleads
    · rw [List.filterMap_eq_nil_iff.2 fun mark _ => search_nil mark]
      rfl
  | cons c t ih =>
    have hleads := leads_foremost? marks (c :: t)
    rw [firstWhere]
    split
    · rename_i mark hlongest
      rw [hlongest] at hleads
      exact hleads
    · rename_i hlongest
      have hbehind : marks.filterMap (search (c :: t)) =
          (marks.filterMap (search t)).map Found.behind := by
        rw [List.map_filterMap]
        exact List.filterMap_congr fun mark hmark =>
          search_cons_of_not_stands ((longest?_eq_none marks _).1 hlongest mark hmark)
      rw [hbehind, foremost?_map_behind, ih, Option.map_map, Option.map_map]
      rfl

end

/-! ## The scanner -/

/-- The marks that end a comment. -/
def commentEnds (set : RuleSet) : List (Text × Unit) :=
  set.blockComments.map fun c => (c.stop, ())

/-- The marks that open a comment or a literal, comments first. -/
def openings (set : RuleSet) : List (Text × Opening) :=
  (set.blockComments.map fun c => (c.start, .comment)) ++
    set.literals.zipIdx.map fun (l, i) => (l.start, .literal i)

/-- Whether a text starts with one of some texts. -/
def startsWithAny (starts : List Text) (t : Text) : Option Unit :=
  if starts.any (·.isPrefixOf t) then some () else none

/-- What the scanner does in one turn: it copies some code, and stops in a state or goes on from a
state with the rest of the line. -/
inductive Turn where
  | stop (code : Text) (state : LineState)
  | goOn (code : Text) (state : LineState) (rest : Text)

/-- One turn of the scanner, where `starts` are the marks that start a line comment. -/
def turn (set : RuleSet) (starts : List Text) (state : LineState) (t : Text) : Turn :=
  if state.insideComment then
    match firstWhere (longest? (commentEnds set)) t with
    | some (_, mark, rest) =>
      .goOn [] { state with insideComment := false } (rest.drop mark.1.length)
    | none => .stop [] state
  else
    match state.openLiteral with
    | some index =>
      match set.literals[index]? with
      | none => .goOn [] { state with openLiteral := none } t
      | some mark =>
        match literalEnd? mark t with
        | some n => .goOn [] { state with openLiteral := none } (t.drop n)
        | none => .stop [] state
    | none =>
      match firstWhere (startsWithAny starts) t with
      | some (passed, _, _) => .stop passed state
      | none =>
        match firstWhere (longest? (openings set)) t with
        | some (passed, mark, rest) => .goOn passed mark.2.enter (rest.drop mark.1.length)
        | none => .stop t state

/-- The scanner takes turns until one stops. A line that starts in a state is scanned to its code
and the state at its end. -/
inductive Scans (set : RuleSet) (starts : List Text) : LineState → Text → Text → LineState → Prop
  | stop {state last : LineState} {t code : Text}
      (h : turn set starts state t = .stop code last) : Scans set starts state t code last
  | goOn {state next last : LineState} {t rest code others : Text}
      (h : turn set starts state t = .goOn code next rest)
      (hrest : Scans set starts next rest others last) :
      Scans set starts state t (code ++ others) last

theorem Scans.passOn {set : RuleSet} {starts : List Text} {state next last : LineState}
    {t rest code : Text} (h : turn set starts state t = .goOn [] next rest)
    (hrest : Scans set starts next rest code last) : Scans set starts state t code last :=
  List.nil_append code ▸ Scans.goOn h hrest

/-- A scanner comes to one result at most. -/
theorem Scans.unique {set : RuleSet} {starts : List Text} {state last last' : LineState}
    {t code code' : Text} (h : Scans set starts state t code last)
    (h' : Scans set starts state t code' last') : code = code' ∧ last = last' := by
  induction h generalizing code' with
  | stop h =>
    cases h' with
    | stop h' =>
      cases h.symm.trans h'
      exact ⟨rfl, rfl⟩
    | goOn h' => cases h.symm.trans h'
  | goOn h hrest ih =>
    cases h' with
    | stop h' => cases h.symm.trans h'
    | goOn h' hrest' =>
      cases h.symm.trans h'
      obtain ⟨rfl, rfl⟩ := ih hrest'
      exact ⟨rfl, rfl⟩

/-! ## Agreement -/

theorem commentEnd?_eq (set : RuleSet) (t : Text) :
    commentEnd? set t = (firstWhere (longest? (commentEnds set)) t).map fun (passed, mark, _) =>
      passed.length + mark.1.length := by
  have hmarks : (set.blockComments.filterMap fun c => findMark? c.stop t ()) =
      (commentEnds set).filterMap (search t) := by
    rw [commentEnds, List.filterMap_map]
    rfl
  rw [commentEnd?, hmarks, foremost?_eq_firstWhere, Option.map_map]
  rfl

theorem opening?_eq (set : RuleSet) (t : Text) :
    opening? set t = (firstWhere (longest? (openings set)) t).map fun (passed, mark, _) =>
      ⟨passed.length, mark.1.length, mark.2⟩ := by
  rw [← foremost?_eq_firstWhere, opening?, openings, List.filterMap_append, List.filterMap_map,
    List.filterMap_map]
  rfl

/-- A start of a line comment stands where one of the marks that are not empty does. -/
theorem startsWithAny_eq (starts : List Text) (t : Text) :
    startsWithAny (starts.filter (!·.isEmpty)) t =
      (longest? (starts.map (·, ())) t).map fun _ => () := by
  rw [startsWithAny]
  split
  · rename_i hany
    obtain ⟨start, hmem, hstart⟩ := List.any_eq_true.1 hany
    obtain ⟨hmem, hne⟩ := List.mem_filter.1 hmem
    cases hlongest : longest? (starts.map (·, ())) t with
    | some mark => rfl
    | none =>
      have hnot := (longest?_eq_none _ t).1 hlongest (start, ()) (List.mem_map_of_mem hmem)
      exact absurd (Bool.and_eq_true_iff.2 ⟨hne, hstart⟩) hnot
  · rename_i hany
    have hnone : longest? (starts.map (·, ())) t = none := by
      rw [longest?_eq_none]
      rintro mark hmark hstands
      obtain ⟨start, hmem, rfl⟩ := List.mem_map.1 hmark
      obtain ⟨hne, hstart⟩ := Bool.and_eq_true_iff.1 hstands
      exact hany (List.any_eq_true.2 ⟨start, List.mem_filter.2 ⟨hmem, hne⟩, hstart⟩)
    rw [hnone]
    rfl

theorem lineComment?_eq (set : RuleSet) (t : Text) :
    lineComment? set t =
      (firstWhere (startsWithAny (set.lineComments.filter (!·.isEmpty))) t).map
        fun (passed, _, _) => passed.length := by
  have hmarks : (set.lineComments.filterMap fun start => findMark? start t ()) =
      (set.lineComments.map (·, ())).filterMap (search t) := by
    rw [List.filterMap_map]
    rfl
  rw [lineComment?, hmarks, foremost?_eq_firstWhere, funext (startsWithAny_eq set.lineComments),
    firstWhere_map, Option.map_map, Option.map_map]
  rfl

theorem scans_strip (set : RuleSet) (state : LineState) (t : Text) :
    Scans set (set.lineComments.filter (!·.isEmpty)) state t (set.strip state t).1
      (set.strip state t).2 := by
  -- Each way through stripping is one turn of the scanner.
  fun_induction RuleSet.strip set state t with
  | case1 state t hcomment n hend ih =>
    rw [commentEnd?_eq] at hend
    obtain ⟨⟨passed, mark, rest⟩, hfirst, rfl⟩ := Option.map_eq_some_iff.1 hend
    rw [drop_of_firstWhere hfirst] at ih ⊢
    refine Scans.passOn ?_ ih
    rw [turn, if_pos hcomment, hfirst]
  | case2 state t hcomment hend =>
    rw [commentEnd?_eq, Option.map_eq_none_iff] at hend
    refine Scans.stop ?_
    rw [turn, if_pos hcomment, hend]
  | case3 state t hcomment index hliteral hmark ih =>
    refine Scans.passOn ?_ ih
    rw [turn, if_neg hcomment, hliteral]
    simp only [hmark]
  | case4 state t hcomment index hliteral mark hmark n hend ih =>
    refine Scans.passOn ?_ ih
    rw [turn, if_neg hcomment, hliteral]
    simp only [hmark, hend]
  | case5 state t hcomment index hliteral mark hmark hend =>
    refine Scans.stop ?_
    rw [turn, if_neg hcomment, hliteral]
    simp only [hmark, hend]
  | case6 state t hcomment hliteral n hline =>
    rw [lineComment?_eq] at hline
    obtain ⟨⟨passed, _, rest⟩, hfirst, rfl⟩ := Option.map_eq_some_iff.1 hline
    refine Scans.stop ?_
    rw [turn, if_neg hcomment, hliteral]
    simp only [hfirst, take_of_firstWhere hfirst]
  | case7 state t hcomment hliteral hline hopening =>
    rw [lineComment?_eq, Option.map_eq_none_iff] at hline
    rw [opening?_eq, Option.map_eq_none_iff] at hopening
    refine Scans.stop ?_
    rw [turn, if_neg hcomment, hliteral]
    simp only [hline, hopening]
  | case8 state t hcomment hliteral hline found hopening _ code last hstrip ih =>
    rw [lineComment?_eq, Option.map_eq_none_iff] at hline
    rw [opening?_eq] at hopening
    obtain ⟨⟨passed, mark, rest⟩, hfirst, rfl⟩ := Option.map_eq_some_iff.1 hopening
    rw [hstrip] at ih
    refine Scans.goOn ?_ ih
    rw [turn, if_neg hcomment, hliteral]
    simp only [hline, hfirst, take_of_firstWhere hfirst, drop_of_firstWhere hfirst]

end SourceAtlas.Stripping

namespace SourceAtlas.RuleSet

open Stripping

/-- Stripping gives what the scanner comes to, which stops on every line and from every state. Line
comments are started by the marks that are not empty. -/
theorem scans_iff_strip (set : RuleSet) (state last : LineState) (t code : Text) :
    Scans set (set.lineComments.filter (!·.isEmpty)) state t code last ↔
      set.strip state t = (code, last) := by
  have hstrip := scans_strip set state t
  constructor
  · intro h
    obtain ⟨hcode, hlast⟩ := hstrip.unique h
    exact Prod.ext hcode hlast
  · intro h
    rw [h] at hstrip
    exact hstrip

/-- An empty mark that starts line comments would end every line where it begins, if it stood
anywhere. Stripping passes it over. -/
theorem not_scans_of_empty_lineComment :
    ¬ ∀ (set : RuleSet) (state last : LineState) (t code : Text),
      Scans set set.lineComments state t code last ↔ set.strip state t = (code, last) := by
  intro h
  have hscan : Scans ⟨[⟨[], []⟩], [], []⟩ [[]] .clear ['a'] [] .clear := .stop (by rfl)
  have hstrip := (h ⟨[⟨[], []⟩], [], []⟩ .clear .clear ['a'] []).1 hscan
  have hkept : RuleSet.strip ⟨[⟨[], []⟩], [], []⟩ .clear ['a'] = (['a'], .clear) := by cbv
  cases hstrip.symm.trans hkept

end SourceAtlas.RuleSet
