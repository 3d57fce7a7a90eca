import Mathlib.Algebra.Order.Field.Basic
import Mathlib.Algebra.Order.Field.Rat
import Mathlib.Data.List.GetD
import Mathlib.Data.Nat.SuccPred
import Mathlib.Tactic.Linarith
import Mathlib.Tactic.NormNum
import Mathlib.Tactic.Ring
import SourceAtlas.ByteCount
import SourceAtlas.Proofs.Text.Integer

/-!
# Sizes and their units

A size is shown in the largest unit that it reaches, so the number in front of a unit other than
the byte is 1 or more. The unit is chosen before the number is rounded to two decimals. A size that
lacks half a hundredth or less to the next unit is therefore shown as 1024 of the unit below, and
there are no other sizes whose number does not fit its unit.
-/

namespace SourceAtlas.ByteCount

/-! ## Nearest quotients -/

/-- `q` is at most one half away from `n / d`, and even if it is one half away. -/
structure IsNearest (n d q : Nat) : Prop where
  le_half_above : 2 * n ≤ 2 * (q * d) + d
  le_half_below : 2 * (q * d) ≤ 2 * n + d
  even_of_half : 2 * n = 2 * (q * d) + d ∨ 2 * (q * d) = 2 * n + d → Even q

section Nearest

variable {n d q k : Nat}

theorem isNearest_nearestQuotient (n : Nat) (hd : 0 < d) :
    IsNearest n d (nearestQuotient n d) := by
  have hn : n / d * d + n % d = n := Nat.div_add_mod' n d
  have hnext : (n / d + 1) * d = n / d * d + d := Nat.add_one_mul _ _
  have hr : n % d < d := Nat.mod_lt n hd
  rw [nearestQuotient]
  split
  · exact ⟨by omega, by omega, by omega⟩
  · split
    · exact ⟨by omega, by omega, by omega⟩
    · -- Halfway, an odd quotient gives way to the even one above it.
      rcases Nat.mod_two_eq_zero_or_one (n / d) with heven | hodd
      · rw [heven, Nat.add_zero]
        exact ⟨by omega, by omega, fun _ => Nat.even_iff.2 heven⟩
      · rw [hodd]
        exact ⟨by omega, by omega, fun _ => Nat.even_add_one.2 (Nat.not_even_iff.2 hodd)⟩

namespace IsNearest

theorem le_of_mul_le (h : IsNearest n d q) (hd : 0 < d) (hk : k * d ≤ n) : k ≤ q := by
  by_contra hlt
  have hstep : (q + 1) * d ≤ k * d := Nat.mul_le_mul_right d (by omega)
  have hnext : (q + 1) * d = q * d + d := Nat.add_one_mul q d
  have := h.le_half_above
  omega

theorem le_of_le_mul (h : IsNearest n d q) (hd : 0 < d) (hk : n ≤ k * d) : q ≤ k := by
  by_contra hlt
  have hstep : (k + 1) * d ≤ q * d := Nat.mul_le_mul_right d (by omega)
  have hnext : (k + 1) * d = k * d + d := Nat.add_one_mul k d
  have := h.le_half_below
  omega

/-- An even number is reached from one half below it on, as a tie goes to it. -/
theorem lt_iff_of_even (h : IsNearest n d q) (hd : 0 < d) (hk : Even k) :
    q < k ↔ 2 * n + d < 2 * (k * d) := by
  constructor
  · intro hlt
    have hstep : (q + 1) * d ≤ k * d := Nat.mul_le_mul_right d hlt
    have hnext : (q + 1) * d = q * d + d := Nat.add_one_mul q d
    have habove := h.le_half_above
    refine lt_of_le_of_ne (by omega) fun htie => ?_
    -- With equality `q` would be the odd number below `k`, and one half below it is a tie.
    obtain rfl := Nat.eq_of_mul_eq_mul_right hd (show (q + 1) * d = k * d by omega)
    exact Nat.even_add_one.1 hk (h.even_of_half (.inl (by omega)))
  · intro hlt
    by_contra hle
    have hstep : k * d ≤ q * d := Nat.mul_le_mul_right d (by omega)
    have := h.le_half_below
    omega

theorem abs_sub_le (h : IsNearest n d q) (hd : 0 < d) : |(q : ℚ) - n / d| ≤ 1 / 2 := by
  have hd' : (0 : ℚ) < d := Nat.cast_pos.2 hd
  have habove : (2 : ℚ) * n ≤ 2 * (q * d) + d := by exact_mod_cast h.le_half_above
  have hbelow : (2 : ℚ) * (q * d) ≤ 2 * n + d := by exact_mod_cast h.le_half_below
  rw [abs_le, neg_le_sub_iff_le_add, sub_le_iff_le_add, div_le_iff₀ hd', ← sub_le_iff_le_add',
    le_div_iff₀ hd']
  constructor <;> linarith

end IsNearest

end Nearest

/-! ## The value of a size -/

theorem significant_of_lt {n : Nat} (h : n < 2 ^ 53) : significant n = n := by
  have hlog : n.log2 + 1 - 53 = 0 := by
    by_cases hn : n = 0
    · subst hn
      rfl
    · have := (Nat.log2_lt hn).2 h
      omega
  simp [significant, hlog, nearestQuotient, Nat.mod_one]

/-- Rounding to 53 bits keeps the highest bit. -/
theorem le_significant {n : Nat} (h : 2 ^ 53 ≤ n) : 2 ^ 53 ≤ significant n := by
  have hn : n ≠ 0 := by
    rintro rfl
    exact absurd h (by decide)
  obtain ⟨shift, hshift⟩ : ∃ shift, n.log2 = 53 + shift :=
    Nat.exists_eq_add_of_le ((Nat.le_log2 hn).2 h)
  have hunit : n.log2 + 1 - 53 = shift + 1 := by omega
  have hhigh : 2 ^ 52 * 2 ^ (shift + 1) ≤ n := by
    calc
      2 ^ 52 * 2 ^ (shift + 1) = 2 ^ n.log2 := by rw [hshift, ← Nat.pow_add]; congr 1; omega
      _ ≤ n := Nat.log2_self_le hn
  have hpos : 0 < 2 ^ (shift + 1) := Nat.two_pow_pos _
  have hquotient := (isNearest_nearestQuotient n hpos).le_of_mul_le hpos hhigh
  calc
    2 ^ 53 ≤ 2 ^ 52 * 2 ^ (shift + 1) := by
      rw [← Nat.pow_add]
      exact Nat.pow_le_pow_right (by decide) (by omega)
    _ ≤ nearestQuotient n (2 ^ (shift + 1)) * 2 ^ (shift + 1) := Nat.mul_le_mul_right _ hquotient
    _ = significant n := by simp [significant, hunit]

/-! ## The unit of a size -/

/-- The powers that a number reaches are the first ones, as many as are counted. -/
theorem lt_countP_range {n u : Nat} (m : Nat) :
    u < (List.range m).countP (fun v => 1024 ^ (v + 1) ≤ n) ↔ u < m ∧ 1024 ^ (u + 1) ≤ n := by
  have hreached {v m : Nat} (hv : v ≤ m) (hm : 1024 ^ (m + 1) ≤ n) : 1024 ^ (v + 1) ≤ n :=
    (Nat.pow_le_pow_right (by decide) (Nat.add_le_add_right hv 1)).trans hm
  induction m with
  | zero => simp
  | succ m ih =>
    rw [List.range_succ, List.countP_append, List.countP_singleton]
    by_cases hm : 1024 ^ (m + 1) ≤ n
    · have hall : (List.range m).countP (fun v => 1024 ^ (v + 1) ≤ n) = m := by
        rw [List.countP_eq_length.2, List.length_range]
        intro v hv
        exact decide_eq_true (hreached (List.mem_range.1 hv).le hm)
      simp only [hall, hm, decide_true, if_true, iff_self_and]
      exact fun hu => hreached (Nat.le_of_lt_succ hu) hm
    · simp only [hm, decide_false, Bool.false_eq_true, if_false, Nat.add_zero, ih,
        Nat.lt_succ_iff_lt_or_eq]
      constructor
      · exact fun hu => ⟨.inl hu.1, hu.2⟩
      · rintro ⟨hu | rfl, hle⟩
        · exact ⟨hu, hle⟩
        · exact absurd hle hm

/-- A unit lies below the chosen one if the one after it is there and is reached. -/
theorem lt_unitIndex {n u : Nat} :
    u < unitIndex n ↔ u + 1 < unitNames.length ∧ 1024 ^ (u + 1) ≤ n := by
  rw [unitIndex]
  simpa [Nat.lt_sub_iff_add_lt] using lt_countP_range (unitNames.length - 1)

theorem name_ne_byte_iff {u : Nat} (h : u < unitNames.length) :
    unitNames.getD u [] ≠ "B".toList ↔ u ≠ 0 := by
  have hall : ∀ u < unitNames.length, unitNames.getD u [] ≠ "B".toList ↔ u ≠ 0 := by decide
  exact hall u h

theorem name_ne_last_iff {u : Nat} (h : u < unitNames.length) :
    unitNames.getD u [] ≠ "TB".toList ↔ u + 1 < unitNames.length := by
  have hall : ∀ u < unitNames.length,
      unitNames.getD u [] ≠ "TB".toList ↔ u + 1 < unitNames.length := by decide
  exact hall u h

theorem unitIndex_lt_length (n : Nat) : unitIndex n < unitNames.length := by
  have hlast : ¬ unitNames.length - 1 < unitIndex n := by
    rw [lt_unitIndex]
    intro h
    exact absurd h.1 (by decide)
  exact Nat.lt_of_le_of_lt (Nat.le_of_not_lt hlast) (by decide)

theorem pow_unitIndex_le {n : Nat} (h : unitIndex n ≠ 0) : 1024 ^ unitIndex n ≤ n := by
  obtain ⟨u, hu⟩ := Nat.exists_eq_succ_of_ne_zero h
  rw [hu]
  exact (lt_unitIndex.1 (hu ▸ Nat.lt_succ_self u)).2

theorem lt_pow_unitIndex {n : Nat} (h : unitIndex n + 1 < unitNames.length) :
    n < 1024 ^ (unitIndex n + 1) := by
  by_contra hle
  exact Nat.lt_irrefl _ (lt_unitIndex.2 ⟨h, Nat.le_of_not_lt hle⟩)

theorem unitIndex_eq {n u : Nat} (hle : 1024 ^ u ≤ n) (hu : u < unitNames.length)
    (hlt : n < 1024 ^ (u + 1)) : unitIndex n = u := by
  apply Nat.le_antisymm
  · by_contra h
    have := (lt_unitIndex.1 (Nat.lt_of_not_le h)).2
    omega
  · cases u with
    | zero => exact Nat.zero_le _
    | succ u => exact lt_unitIndex.2 ⟨hu, hle⟩

/-! ## The number of a size -/

theorem isNearest_hundredths (n u : Nat) :
    IsNearest (100 * n) (1024 ^ u) (hundredths n u) :=
  isNearest_nearestQuotient _ (Nat.pow_pos (by decide))

/-- Bytes that lack half a hundredth of a unit or less to the next unit. -/
def IsJustBelow (n : Nat) : Prop :=
  ∃ u, u + 1 < unitNames.length ∧ (1024 : ℚ) ^ (u + 1) - 1024 ^ u / 200 ≤ n ∧
    (n : ℚ) < 1024 ^ (u + 1)

theorem le_hundredths_iff {n u : Nat} :
    102400 ≤ hundredths n u ↔ (1024 : ℚ) ^ (u + 1) - 1024 ^ u / 200 ≤ n := by
  have hlt := (isNearest_hundredths n u).lt_iff_of_even (Nat.pow_pos (by decide))
    (show Even 102400 by decide)
  rw [← Nat.not_lt, hlt, Nat.not_lt, ← Nat.cast_le (α := ℚ)]
  push_cast
  constructor <;> intro h <;> linarith [pow_succ (1024 : ℚ) u]

/-- Just below a unit, the unit before it is chosen and the number is 1024. -/
theorem isJustBelow_iff {n : Nat} :
    IsJustBelow n ↔ unitIndex n + 1 < unitNames.length ∧ 102400 ≤ hundredths n (unitIndex n) := by
  constructor
  · rintro ⟨u, hu, hlow, hhigh⟩
    have hlt : n < 1024 ^ (u + 1) := by exact_mod_cast hhigh
    have hreached : (1024 : ℚ) ^ u ≤ n := by
      linarith [pow_succ (1024 : ℚ) u, pow_nonneg (by norm_num : (0 : ℚ) ≤ 1024) u]
    have hindex : unitIndex n = u :=
      unitIndex_eq (by exact_mod_cast hreached) (Nat.lt_of_succ_lt hu) hlt
    rw [hindex]
    exact ⟨hu, le_hundredths_iff.2 hlow⟩
  · rintro ⟨hu, hle⟩
    exact ⟨unitIndex n, hu, le_hundredths_iff.1 hle, by exact_mod_cast lt_pow_unitIndex hu⟩

theorem IsJustBelow.lt {n : Nat} (h : IsJustBelow n) : n < 2 ^ 53 := by
  obtain ⟨hindex, -⟩ := isJustBelow_iff.1 h
  calc
    n < 1024 ^ (unitIndex n + 1) := lt_pow_unitIndex hindex
    _ ≤ 1024 ^ 4 := Nat.pow_le_pow_right (by decide) (Nat.le_of_lt_succ hindex)
    _ < 2 ^ 53 := by decide

/-- All units but the largest are reached and left within 53 bits. -/
theorem isJustBelow_significant {n : Nat} : IsJustBelow (significant n) ↔ IsJustBelow n := by
  by_cases hn : n < 2 ^ 53
  · rw [significant_of_lt hn]
  · have hbig : 2 ^ 53 ≤ significant n := le_significant (Nat.le_of_not_lt hn)
    exact ⟨fun h => absurd h.lt (Nat.not_lt.2 hbig), fun h => absurd h.lt hn⟩

theorem hundredths_le {n : Nat} (h : unitIndex n + 1 < unitNames.length) :
    hundredths n (unitIndex n) ≤ 102400 := by
  apply (isNearest_hundredths n _).le_of_le_mul (Nat.pow_pos (by decide))
  have hlt := lt_pow_unitIndex h
  rw [Nat.pow_succ] at hlt
  omega

theorem le_hundredths {n : Nat} (h : unitIndex n ≠ 0) : 100 ≤ hundredths n (unitIndex n) :=
  (isNearest_hundredths n _).le_of_mul_le (Nat.pow_pos (by decide))
    (Nat.mul_le_mul_left 100 (pow_unitIndex_le h))

theorem abs_hundredths_sub_le (n u : Nat) :
    |(hundredths n u : ℚ) / 100 - n / 1024 ^ u| ≤ 1 / 200 := by
  have hnearest := (isNearest_hundredths n u).abs_sub_le (Nat.pow_pos (by decide))
  push_cast at hnearest
  have hscale : (hundredths n u : ℚ) / 100 - n / 1024 ^ u =
      (hundredths n u - 100 * n / 1024 ^ u) / 100 := by ring
  rw [hscale, abs_div, abs_of_pos (by norm_num : (0 : ℚ) < 100), div_le_iff₀ (by norm_num)]
  linarith

/-! ## What is read off a size -/

/-- A number and the unit behind it. -/
structure Quantity where
  number : ℚ
  unit : Text

/-- The number at the beginning of a text, with the decimals behind its point, and what follows the
first blank. -/
def Quantity.read (t : Text) : Quantity :=
  let whole := t.takeWhile Char.isDigit
  let decimals := (t.drop (whole.length + 1)).takeWhile Char.isDigit
  ⟨Nat.ofDigitChars 10 whole 0 + Nat.ofDigitChars 10 decimals 0 / 10 ^ decimals.length,
    (t.dropWhile (· != ' ')).tail⟩

/-- What is read off a number of bytes in a report. -/
def shown (bytes : UInt64) : Quantity := .read (print bytes)

theorem ne_blank_of_isDigit {c : Char} (h : c.isDigit) : (c != ' ') = true := by
  rw [bne_iff_ne]
  rintro rfl
  exact absurd h (by decide)

theorem isDigit_digitChar_of_lt {n : Nat} (h : n < 10) : (Nat.digitChar n).isDigit := by
  rw [Nat.isDigit_digitChar]
  exact decide_eq_true h

/-- A number is read up to what cannot be part of it, and so are its decimals. -/
theorem read_decimal {whole decimals : Text} (hwhole : ∀ c ∈ whole, c.isDigit)
    (hdecimals : ∀ c ∈ decimals, c.isDigit) (unit : Text) :
    Quantity.read (whole ++ '.' :: (decimals ++ ' ' :: unit)) =
      ⟨Nat.ofDigitChars 10 whole 0 + Nat.ofDigitChars 10 decimals 0 / 10 ^ decimals.length,
        unit⟩ := by
  have hfirst : (whole ++ '.' :: (decimals ++ ' ' :: unit)).takeWhile Char.isDigit = whole := by
    rw [List.takeWhile_append_of_pos hwhole, List.takeWhile_cons_of_neg (by decide),
      List.append_nil]
  have hsecond : ((whole ++ '.' :: (decimals ++ ' ' :: unit)).drop (whole.length + 1)).takeWhile
      Char.isDigit = decimals := by
    rw [← List.drop_drop, List.drop_left, List.drop_succ_cons, List.drop_zero,
      List.takeWhile_append_of_pos hdecimals, List.takeWhile_cons_of_neg (by decide),
      List.append_nil]
  have hunit : ((whole ++ '.' :: (decimals ++ ' ' :: unit)).dropWhile (· != ' ')).tail = unit := by
    rw [List.dropWhile_append_of_pos fun c hc => ne_blank_of_isDigit (hwhole c hc),
      List.dropWhile_cons_of_pos (by decide),
      List.dropWhile_append_of_pos fun c hc => ne_blank_of_isDigit (hdecimals c hc),
      List.dropWhile_cons_of_neg (by decide), List.tail_cons]
  rw [Quantity.read, hfirst, hsecond, hunit]

theorem ofDigitChars_pair {a b : Nat} (ha : a < 10) (hb : b < 10) :
    Nat.ofDigitChars 10 [Nat.digitChar a, Nat.digitChar b] 0 = 10 * a + b := by
  simp [Nat.ofDigitChars_cons, Nat.toNat_digitChar_sub_48_of_lt_ten ha,
    Nat.toNat_digitChar_sub_48_of_lt_ten hb]

theorem read_twoDecimals (h : Nat) (unit : Text) :
    Quantity.read (twoDecimals h ++ ' ' :: unit) = ⟨h / 100, unit⟩ := by
  have htens : h % 100 / 10 < 10 := by omega
  have hones : h % 10 < 10 := by omega
  have htext : twoDecimals h ++ ' ' :: unit = Text.ofNat (h / 100) ++
      '.' :: ([Nat.digitChar (h % 100 / 10), Nat.digitChar (h % 10)] ++ ' ' :: unit) := by
    simp [twoDecimals]
  have hdecimals : ∀ c ∈ [Nat.digitChar (h % 100 / 10), Nat.digitChar (h % 10)], c.isDigit := by
    simp [isDigit_digitChar_of_lt htens, isDigit_digitChar_of_lt hones]
  have hpair : 10 * (h % 100 / 10) + h % 10 = h % 100 := by omega
  have hparts : (100 : ℚ) * (h / 100 : Nat) + (h % 100 : Nat) = h := by
    exact_mod_cast Nat.div_add_mod h 100
  rw [htext, read_decimal (fun c => Text.isDigit_of_mem_ofNat) hdecimals,
    ofDigitChars_pair htens hones, hpair, Text.ofNat, Nat.ofDigitChars_ten_toDigits]
  congr 1
  simp only [List.length_cons, List.length_nil]
  linarith

theorem shown_eq (bytes : UInt64) :
    let n := significant bytes.toNat
    shown bytes = ⟨hundredths n (unitIndex n) / 100, unitNames.getD (unitIndex n) []⟩ :=
  read_twoDecimals _ _

/-- The number shown is the count in the unit behind it, up to half a hundredth. In front of a unit
other than the byte it is 1 or more. In front of a unit other than the largest it is at most 1024,
and it is 1024 for those counts only that are just below the next unit. -/
theorem shown_number_fits_unit_iff (bytes : UInt64) :
    (∃ u, unitNames[u]? = some (shown bytes).unit ∧
      |(shown bytes).number - significant bytes.toNat / 1024 ^ u| ≤ 1 / 200) ∧
    ((shown bytes).unit ≠ "B".toList → 1 ≤ (shown bytes).number) ∧
    ((shown bytes).unit ≠ "TB".toList → (shown bytes).number ≤ 1024) ∧
    ((shown bytes).unit ≠ "TB".toList ∧ ¬ (shown bytes).number < 1024 ↔
      IsJustBelow bytes.toNat) := by
  have hshown := shown_eq bytes
  rw [← isJustBelow_significant]
  generalize significant bytes.toNat = n at hshown ⊢
  have hindex := unitIndex_lt_length n
  rw [hshown, isJustBelow_iff]
  have hbyte := name_ne_byte_iff hindex
  have hlast := name_ne_last_iff hindex
  refine ⟨⟨unitIndex n, ?_, abs_hundredths_sub_le n _⟩, ?_, ?_, ?_⟩
  · rw [List.getElem?_eq_getElem hindex, List.getD_eq_getElem _ _ hindex]
  · intro hunit
    have hle : (100 : ℚ) ≤ hundredths n (unitIndex n) := by
      exact_mod_cast le_hundredths (hbyte.1 hunit)
    rw [le_div_iff₀ (by norm_num)]
    linarith
  · intro hunit
    have hle : (hundredths n (unitIndex n) : ℚ) ≤ 102400 := by
      exact_mod_cast hundredths_le (hlast.1 hunit)
    rw [div_le_iff₀ (by norm_num)]
    linarith
  · rw [hlast, not_lt, le_div_iff₀ (by norm_num), ← Nat.cast_le (α := ℚ)]
    norm_num

-- The first of the counts that are just below a megabyte, and the one before it.
example : print 1048570 = "1023.99 KB".toList ∧ print 1048571 = "1024.00 KB".toList := by
  decide +kernel

/-- One byte less than a megabyte: the number in front of `KB` is not below 1024. -/
theorem shown_number_leaves_unit :
    print 1048575 = "1024.00 KB".toList ∧
      ¬ ∀ bytes : UInt64, ((shown bytes).unit ≠ "TB".toList → (shown bytes).number < 1024) ∧
        ((shown bytes).unit ≠ "B".toList → 1 ≤ (shown bytes).number) := by
  have hprint : print 1048575 = "1024.00 KB".toList := by decide +kernel
  have hshown : shown 1048575 = ⟨(102400 : Nat) / 100, "KB".toList⟩ := by
    have htext : "1024.00 KB".toList = twoDecimals 102400 ++ ' ' :: "KB".toList := by decide +kernel
    rw [shown, hprint, htext, read_twoDecimals]
  refine ⟨hprint, fun h => ?_⟩
  have hlt := (h 1048575).1
  rw [hshown] at hlt
  exact absurd (hlt (by decide)) (by norm_num)

end SourceAtlas.ByteCount
