import SourceAtlas.Proofs.Text.Searching
import SourceAtlas.Source.Stripping

/-!
# Where literals end

A literal ends behind the first of its end marks that no exception disqualifies. The search for it
goes on behind each end mark that it has met, so it does not see an end mark that overlaps a
disqualified one. The marks that it meets are the first in the text, the first behind that one, and
so on.

For an end mark that cannot overlap itself these are all the places where the mark stands. For any
other one there are an exception and a text with a genuine end that the search misses.
-/

namespace SourceAtlas.Stripping

open Text (StandsAt IsUnbordered)

variable {mark : LiteralMark} {stop t : Text} {start p q : Nat}

/-! ## Disqualified end marks -/

/-- An exception that is longer than the end mark and ends with it covers the mark. -/
def Covers (e stop : Text) : Prop := stop <:+ e ∧ stop.length < e.length

instance {e : Text} : Decidable (Covers e stop) := inferInstanceAs (Decidable (_ ∧ _))

/-- The end mark at a position does not end its literal: what is passed up to the end of the mark
ends with an exception that covers it, or what is passed up to its start with another exception. -/
def IsDisqualified (mark : LiteralMark) (t : Text) (position : Nat) : Prop :=
  ∃ e ∈ mark.exceptions, e ≠ [] ∧
    e <:+ t.take (if Covers e mark.stop then position + mark.stop.length else position)

instance : Decidable (IsDisqualified mark t p) :=
  inferInstanceAs (Decidable (∃ e ∈ mark.exceptions, _))

theorem isExcepted_take (h : StandsAt mark.stop t p) :
    isExcepted mark (t.take p) ↔ IsDisqualified mark t p := by
  rw [isExcepted, List.any_filter, List.any_eq_true]
  refine exists_congr fun e => and_congr_right fun _ => ?_
  have hcovers : mark.stop.isSuffixOf e && decide (mark.stop.length < e.length) ↔
      Covers e mark.stop := by
    rw [Bool.and_eq_true, List.isSuffixOf_iff_suffix, decide_eq_true_iff, Covers]
  simp only [Bool.and_eq_true, hcovers, ← h.take_add_length]
  split <;> simp

/-! ## The end marks that are met -/

/-- The positions from `start` on that a search meets which goes on behind each place that it has
found. -/
inductive Met (stop t : Text) : Nat → Nat → Prop
  | next {start p : Nat} (h : IsLeast {q | start ≤ q ∧ StandsAt stop t q} p) : Met stop t start p
  | behind {start p q : Nat} (h : IsLeast {q | start ≤ q ∧ StandsAt stop t q} p)
      (hrest : Met stop t (p + stop.length) q) : Met stop t start q

theorem met_iff (h : IsLeast {q | start ≤ q ∧ StandsAt stop t q} p) :
    Met stop t start q ↔ q = p ∨ Met stop t (p + stop.length) q := by
  constructor
  · intro hmet
    cases hmet with
    | next h' => exact .inl (h'.unique h)
    | behind h' hrest =>
      obtain rfl := h'.unique h
      exact .inr hrest
  · rintro (rfl | hrest)
    · exact .next h
    · exact .behind h hrest

theorem Met.standsAt (h : Met stop t start p) : StandsAt stop t p := by
  induction h with
  | next h => exact h.1.2
  | behind h hrest ih => exact ih

theorem Met.le (h : Met stop t start p) : start ≤ p := by
  induction h with
  | next h => exact h.1.1
  | behind h hrest ih =>
    have := h.1.1
    omega

/-- If no two places overlap, all of them are met. -/
theorem met_iff_standsAt (hstop : stop ≠ [])
    (hapart : ∀ p q, StandsAt stop t p → StandsAt stop t q → p < q → p + stop.length ≤ q) :
    Met stop t 0 q ↔ StandsAt stop t q := by
  refine ⟨Met.standsAt, fun h => ?_⟩
  have hpos := List.length_pos_iff.2 hstop
  suffices ∀ start ≤ q, Met stop t start q from this 0 (Nat.zero_le q)
  intro start hle
  -- The search comes closer to the position with each place that it meets.
  induction hn : q - start using Nat.strong_induction_on generalizing start with
  | h n ih =>
    have hrest : StandsAt stop (t.drop start) (q - start) :=
      Text.standsAt_drop.2 (by rwa [Nat.add_sub_cancel' hle])
    cases hfind : Text.find? stop (t.drop start) with
    | none => exact absurd hrest (Text.not_standsAt_of_find? hfind _)
    | some i =>
      have hnext := Text.isLeast_of_find?_drop hfind
      rcases (hnext.2 ⟨hle, h⟩).eq_or_lt with rfl | hlt
      · exact .next hnext
      · have hbehind := hapart _ q hnext.1.2 h hlt
        exact .behind hnext (ih _ (by omega) _ hbehind rfl)

/-! ## The first genuine end -/

/-- A literal closes behind the first candidate that is not disqualified, and stays open exactly if
all candidates are. -/
structure ClosesAtFirst (mark : LiteralMark) (t : Text) (candidate : Nat → Prop) : Prop where
  closes : ∀ n, literalEnd? mark t = some n ↔
    ∃ p, IsLeast {p | candidate p ∧ ¬ IsDisqualified mark t p} p ∧ n = p + mark.stop.length
  staysOpen : literalEnd? mark t = none ↔ ∀ p, candidate p → IsDisqualified mark t p

/-- What a search comes to that looks at some candidates. -/
def Settles (mark : LiteralMark) (t : Text) (candidate : Nat → Prop) : Option Nat → Prop
  | some n =>
    ∃ p, IsLeast {p | candidate p ∧ ¬ IsDisqualified mark t p} p ∧ n = p + mark.stop.length
  | none => ∀ p, candidate p → IsDisqualified mark t p

theorem Settles.closesAtFirst {candidate : Nat → Prop}
    (h : Settles mark t candidate (literalEnd? mark t)) : ClosesAtFirst mark t candidate := by
  cases hend : literalEnd? mark t with
  | none =>
    rw [hend] at h
    refine ⟨fun n => ⟨fun hn => ?_, ?_⟩, fun _ => h, fun _ => hend⟩
    · cases hend.symm.trans hn
    · rintro ⟨p, ⟨⟨hp, hgenuine⟩, -⟩, -⟩
      exact absurd (h p hp) hgenuine
  | some m =>
    rw [hend] at h
    obtain ⟨p, hfirst, rfl⟩ := h
    refine ⟨fun n => ⟨fun hn => ?_, ?_⟩, fun hn => ?_, fun hall => ?_⟩
    · cases hend.symm.trans hn
      exact ⟨p, hfirst, rfl⟩
    · rintro ⟨q, hq, rfl⟩
      rw [hend, hq.unique hfirst]
    · cases hend.symm.trans hn
    · exact absurd (hall p hfirst.1.1) hfirst.1.2

/-- A search may go on behind a mark that is disqualified. -/
theorem Settles.of_behind (hnext : IsLeast {q | start ≤ q ∧ StandsAt mark.stop t q} p)
    (hdisqualified : IsDisqualified mark t p) {found : Option Nat}
    (h : Settles mark t (Met mark.stop t (p + mark.stop.length)) found) :
    Settles mark t (Met mark.stop t start) found := by
  have hsame : {q | Met mark.stop t start q ∧ ¬ IsDisqualified mark t q} =
      {q | Met mark.stop t (p + mark.stop.length) q ∧ ¬ IsDisqualified mark t q} := by
    ext q
    refine and_congr_left fun hgenuine => ?_
    rw [met_iff hnext, or_iff_right]
    rintro rfl
    exact hgenuine hdisqualified
  cases found with
  | none =>
    intro q hq
    rcases (met_iff hnext).1 hq with rfl | hq
    · exact hdisqualified
    · exact h q hq
  | some n =>
    rw [Settles, hsame]
    exact h

theorem settles_literalEndFrom? (hstop : mark.stop ≠ []) (before rest : Text) :
    Settles mark (before ++ rest) (Met mark.stop (before ++ rest) before.length)
      (literalEndFrom? mark before rest) := by
  have hpos := List.length_pos_iff.2 hstop
  have next {before rest : Text} {i : Nat} (hfind : Text.find? mark.stop rest = some i) :
      IsLeast {q | before.length ≤ q ∧ StandsAt mark.stop (before ++ rest) q}
        (before.length + i) :=
    Text.isLeast_of_find?_drop (by rwa [List.drop_left])
  have excepted {before rest : Text} {i : Nat} (hfind : Text.find? mark.stop rest = some i) :
      isExcepted mark (before ++ rest.take i) ↔
        IsDisqualified mark (before ++ rest) (before.length + i) := by
    rw [← isExcepted_take (next hfind).1.2, List.take_length_add_append]
  fun_induction literalEndFrom? mark before rest with
  | case1 before rest hfind =>
    intro p hp
    obtain ⟨j, rfl⟩ := Nat.exists_eq_add_of_le hp.le
    have hstands := Text.standsAt_drop.2 hp.standsAt
    rw [List.drop_left] at hstands
    exact absurd hstands (Text.not_standsAt_of_find? hfind j)
  | case2 before rest i hfind passed hends =>
    have hgenuine : ¬ IsDisqualified mark (before ++ rest) (before.length + i) := by
      rw [← excepted hfind]
      simpa using hends
    refine ⟨before.length + i, ⟨⟨.next (next hfind), hgenuine⟩, ?_⟩, (Nat.add_assoc ..).symm⟩
    rintro q ⟨hq, -⟩
    exact (next hfind).2 ⟨hq.le, hq.standsAt⟩
  | case3 before rest i hfind passed hexcepted hgoesOn ih =>
    have hlength : passed ≤ rest.length := Text.find?_le hfind
    have hdisqualified : IsDisqualified mark (before ++ rest) (before.length + i) := by
      rw [← excepted hfind]
      simpa using hexcepted
    rw [List.append_assoc, List.take_append_drop, List.length_append,
      List.length_take_of_le hlength] at ih
    exact .of_behind (next hfind) hdisqualified (Nat.add_assoc .. ▸ ih)
  | case4 before rest i hfind passed hexcepted hstops =>
    have hlength := Text.find?_le hfind
    omega

/-- A literal closes behind the first end mark that is met and not disqualified. -/
theorem closesAtFirst_met (hstop : mark.stop ≠ []) (t : Text) :
    ClosesAtFirst mark t (Met mark.stop t 0) := by
  refine Settles.closesAtFirst ?_
  rw [literalEnd?, if_neg (by simpa using hstop)]
  exact settles_literalEndFrom? hstop [] t

/-- If end marks do not overlap in the text, a literal closes at the first one of all that is not
disqualified. -/
theorem closesAtFirst_standsAt (hstop : mark.stop ≠ [])
    (hapart : ∀ p q, StandsAt mark.stop t p → StandsAt mark.stop t q → p < q →
      p + mark.stop.length ≤ q) :
    ClosesAtFirst mark t (StandsAt mark.stop t) := by
  have hcandidates : Met mark.stop t 0 = StandsAt mark.stop t :=
    funext fun p => propext (met_iff_standsAt hstop hapart)
  exact hcandidates ▸ closesAtFirst_met hstop t

/-! ## Ends that are missed -/

theorem exists_char_ne (a b : Option Char) : ∃ c, a ≠ some c ∧ b ≠ some c := by
  by_contra h
  push Not at h
  by_cases hx : a = some 'x'
  · have hy := h 'y' (by simp [hx])
    have hz := h 'z' (by simp [hx])
    simp [hy] at hz
  · by_cases hy : a = some 'y'
    · have hz := h 'z' (by simp [hy])
      simp [h 'x' hx] at hz
    · have hy := h 'y' hy
      simp [h 'x' hx] at hy

/-- For an end mark that can overlap itself there is a literal whose end is missed. The first end
mark is disqualified by the character before it, and the second one starts inside the first. -/
theorem exists_missed_end (opening : Text) (hborder : ¬ IsUnbordered stop) :
    ∃ exceptions t p, StandsAt stop t p ∧ ¬ IsDisqualified ⟨opening, stop, exceptions⟩ t p ∧
      literalEnd? ⟨opening, stop, exceptions⟩ t = none := by
  unfold IsUnbordered at hborder
  push Not at hborder
  obtain ⟨n, hn, hpos, hborder⟩ := hborder
  obtain ⟨c, hhead, hlast⟩ := exists_char_ne stop.head? (stop.take n).getLast?
  have hstop : stop ≠ [] := List.ne_nil_of_length_pos (by omega)
  have htake : (stop.take n).length = n := List.length_take_of_le hn.le
  have hcovers : ¬ Covers [c] stop := by
    rintro ⟨-, hlength⟩
    rw [List.length_singleton] at hlength
    omega
  refine ⟨[[c]], c :: (stop.take n ++ stop), n + 1, ?_, ?_, ?_⟩
  · rw [StandsAt, List.drop_succ_cons, List.drop_left' htake]
  · rintro ⟨e, he, -, hsuffix⟩
    obtain rfl := List.mem_singleton.1 he
    rw [if_neg hcovers, List.take_succ_cons, List.take_left' htake] at hsuffix
    obtain ⟨init, hinit⟩ := hsuffix
    have hends := congrArg List.getLast? hinit
    rw [List.getLast?_concat, List.getLast?_cons_of_ne_nil] at hends
    · exact hlast hends.symm
    · exact List.ne_nil_of_length_pos (by omega)
  · have hfirst : IsLeast {q | 0 ≤ q ∧ StandsAt stop (c :: (stop.take n ++ stop)) q} 1 := by
      refine ⟨⟨Nat.zero_le 1, ?_⟩, ?_⟩
      · have hwhole := (List.prefix_append_right_inj (stop.take n)).2 hborder
        rwa [List.take_append_drop] at hwhole
      · rintro q ⟨-, hq⟩
        refine Nat.one_le_iff_ne_zero.2 ?_
        rintro rfl
        obtain ⟨rest, hrest⟩ := hq
        have hstarts := congrArg List.head? hrest
        rw [List.head?_append_of_ne_nil _ hstop] at hstarts
        exact hhead hstarts
    rw [(closesAtFirst_met hstop _).staysOpen]
    intro p hp
    rcases (met_iff hfirst).1 hp with rfl | hp
    · exact ⟨[c], List.mem_singleton_self _, List.cons_ne_nil _ _, by
        rw [if_neg hcovers]; exact List.suffix_refl [c]⟩
    · have hle := hp.le
      have hlength := hp.standsAt.add_length_le hstop
      simp only [List.length_cons, List.length_append, htake] at hlength
      omega

/-- A literal closes behind the first of the end marks met that is not disqualified. In a text in
which end marks do not overlap this is the first genuine end of all. The end marks for which it is
the first genuine end whatever the exceptions and the text are those without a border. -/
theorem literal_closes_at_first_met_end (opening : Text) {stop : Text} (hstop : stop ≠ []) :
    (∀ exceptions t, ClosesAtFirst ⟨opening, stop, exceptions⟩ t (Met stop t 0)) ∧
    (∀ exceptions t,
      (∀ p q, StandsAt stop t p → StandsAt stop t q → p < q → p + stop.length ≤ q) →
        ClosesAtFirst ⟨opening, stop, exceptions⟩ t (StandsAt stop t)) ∧
    ((∀ exceptions t, ClosesAtFirst ⟨opening, stop, exceptions⟩ t (StandsAt stop t)) ↔
      IsUnbordered stop) := by
  refine ⟨fun exceptions t => closesAtFirst_met hstop t,
    fun exceptions t hapart => closesAtFirst_standsAt hstop hapart, fun hfirst => ?_,
    fun hborder exceptions t => closesAtFirst_standsAt hstop fun p q => hborder.add_length_le⟩
  by_contra hborder
  obtain ⟨exceptions, t, p, hstands, hgenuine, hopen⟩ := exists_missed_end opening hborder
  exact hgenuine ((hfirst exceptions t).staysOpen.1 hopen p hstands)

/-- A quote cannot overlap itself. The literal closes behind its second quote, since the first one
is covered by an exception. -/
theorem literal_closes_at_first_met_end_quote :
    let mark : LiteralMark := ⟨['"'], ['"'], ["\\\"".toList]⟩
    let t := "a\\\"b\" + t".toList
    mark.stop ≠ [] ∧ IsUnbordered mark.stop ∧ ClosesAtFirst mark t (StandsAt mark.stop t) ∧
      IsDisqualified mark t 2 ∧ literalEnd? mark t = some 5 := by
  intro mark t
  have hunbordered : IsUnbordered mark.stop := by decide
  have hstop : mark.stop ≠ [] := by decide
  obtain ⟨-, -, hfirst⟩ := literal_closes_at_first_met_end mark.start hstop
  exact ⟨hstop, hunbordered, hfirst.2 hunbordered mark.exceptions t, by decide,
    by decide +kernel⟩

/-- A literal between triple quotes that ends in an escaped quote: the three quotes behind the
escape are disqualified, the last three quotes are not, but the search has gone past them. -/
theorem literal_misses_overlapping_end :
    ¬ ∀ (mark : LiteralMark) (t : Text), mark.stop ≠ [] →
      ClosesAtFirst mark t (StandsAt mark.stop t) := by
  intro h
  have hfirst := h ⟨"\"\"\"".toList, "\"\"\"".toList, ["\\".toList]⟩ "a\\\"\"\"\" + t".toList
    (by decide)
  have hopen : literalEnd? ⟨"\"\"\"".toList, "\"\"\"".toList, ["\\".toList]⟩
      "a\\\"\"\"\" + t".toList = none := by decide +kernel
  have hstands : StandsAt "\"\"\"".toList "a\\\"\"\"\" + t".toList 3 := by decide
  have hdisqualified := hfirst.staysOpen.1 hopen 3 hstands
  revert hdisqualified
  decide

end SourceAtlas.Stripping
