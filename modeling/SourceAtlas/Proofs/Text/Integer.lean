import SourceAtlas.Text.Integer

/-!
# Integers that are written and read back

Every integer of 64 bits is read back from its decimal digits, and only such integers are ever
read.
-/

namespace SourceAtlas.Text

/-- The integers that fit into 64 bits with a sign. -/
def IsInt64 (n : Int) : Prop :=
  -Int.ofNat (Nat.pow 2 63) ≤ n ∧ n < Int.ofNat (Nat.pow 2 63)

theorem le_ofDigitChars (t : Text) (value : Nat) : value ≤ Nat.ofDigitChars 10 t value := by
  rw [Nat.ofDigitChars_eq_ofDigitChars_zero]
  have hpos : 0 < 10 ^ t.length := Nat.pow_pos (by decide)
  have : value ≤ 10 ^ t.length * value := Nat.le_mul_of_pos_left value hpos
  omega

/-- Digits whose value stays within the limit are read. As the value only grows from digit to
digit, the limit has to be checked at the end alone. -/
theorem magnitude_of_digits {limit : Nat} {overflow : IntegerFault} {t : Text} {value : Nat}
    (hd : ∀ c ∈ t, c.isDigit) (hl : Nat.ofDigitChars 10 t value ≤ limit) :
    magnitude limit overflow value t = .ok (Nat.ofDigitChars 10 t value) := by
  induction t generalizing value with
  | nil => simp [magnitude]
  | cons c t ih =>
    rw [Nat.ofDigitChars_cons] at hl ⊢
    have hnext : 10 * value + (c.toNat - '0'.toNat) ≤ limit :=
      Nat.le_trans (le_ofDigitChars t _) hl
    rw [magnitude, if_pos (hd c List.mem_cons_self)]
    simp only [hnext, if_true]
    exact ih (fun d h => hd d (List.mem_cons_of_mem _ h)) hl

theorem magnitude_le {limit : Nat} {overflow : IntegerFault} {t : Text} {value n : Nat}
    (hv : value ≤ limit) (h : magnitude limit overflow value t = .ok n) : n ≤ limit := by
  induction t generalizing value with
  | nil =>
    cases h
    exact hv
  | cons c t ih =>
    rw [magnitude] at h
    split at h
    · simp only at h
      split at h
      · rename_i hle
        exact ih hle h
      · cases h
    · cases h

theorem isDigit_of_mem_ofNat {n : Nat} {c : Char} (h : c ∈ ofNat n) : c.isDigit :=
  Nat.isDigit_of_mem_toDigits (by decide) (by decide) h

theorem ofNat_ne_nil (n : Nat) : ofNat n ≠ [] := Nat.toDigits_ne_nil

theorem magnitude_ofNat {limit n : Nat} {overflow : IntegerFault} (h : n ≤ limit) :
    magnitude limit overflow 0 (ofNat n) = .ok n := by
  have hn : Nat.ofDigitChars 10 (ofNat n) 0 = n := Nat.ofDigitChars_ten_toDigits
  rw [magnitude_of_digits (fun c hc => isDigit_of_mem_ofNat hc) (by rw [hn]; exact h), hn]

/-- Every character of a written integer is a digit or a minus sign. -/
theorem mem_ofInt {n : Int} {c : Char} (h : c ∈ ofInt n) : c = '-' ∨ c.isDigit := by
  cases n with
  | ofNat n => exact .inr (isDigit_of_mem_ofNat h)
  | negSucc n =>
    rcases List.mem_cons.1 h with h | h
    · exact .inl h
    · exact .inr (isDigit_of_mem_ofNat h)

theorem parseInt64_of_head {t : Text} (hne : t ≠ []) (hp : t.head? ≠ some '+')
    (hm : t.head? ≠ some '-') :
    parseInt64 t = (magnitude (Nat.pow 2 63 - 1) .tooLarge 0 t).map Int.ofNat := by
  rw [parseInt64]
  · exact hne
  · rintro rfl
    exact hp rfl
  · rintro rfl
    exact hm rfl
  · rintro u rfl
    exact hp rfl
  · rintro u rfl
    exact hm rfl

theorem parseInt64_minus {t : Text} (hne : t ≠ []) :
    parseInt64 ('-' :: t) =
      (magnitude (Nat.pow 2 63) .tooSmall 0 t).map fun n => -Int.ofNat n := by
  rw [parseInt64]
  exact hne

theorem parseInt64_ofInt {n : Int} (h : IsInt64 n) : parseInt64 (ofInt n) = .ok n := by
  obtain ⟨hlow, hhigh⟩ := h
  cases n with
  | ofNat n =>
    have hn : n ≤ Nat.pow 2 63 - 1 := Nat.le_sub_one_of_lt (Int.ofNat_lt.1 hhigh)
    have hdigit : ∀ c ∈ (ofNat n).head?, c.isDigit := by
      intro c hc
      exact isDigit_of_mem_ofNat (List.mem_of_mem_head? hc)
    rw [ofInt, parseInt64_of_head (ofNat_ne_nil n), magnitude_ofNat hn]
    · rfl
    · intro h
      exact absurd (hdigit _ h) (by decide)
    · intro h
      exact absurd (hdigit _ h) (by decide)
  | negSucc n =>
    have hn : n + 1 ≤ Nat.pow 2 63 := by
      rw [Int.negSucc_eq, Int.neg_le_neg_iff] at hlow
      exact Int.ofNat_le.1 hlow
    rw [ofInt, parseInt64_minus (ofNat_ne_nil _), magnitude_ofNat hn]
    rfl

theorem isInt64_of_parseInt64 {t : Text} {n : Int} (h : parseInt64 t = .ok n) : IsInt64 n := by
  have hpow : Nat.pow 2 63 = 9223372036854775808 := rfl
  have nonneg {u : Text} {n : Int}
      (hu : (magnitude (Nat.pow 2 63 - 1) .tooLarge 0 u).map Int.ofNat = .ok n) : IsInt64 n := by
    cases hm : magnitude (Nat.pow 2 63 - 1) .tooLarge 0 u with
    | error fault =>
      rw [hm] at hu
      cases hu
    | ok m =>
      rw [hm] at hu
      cases hu
      have := magnitude_le (Nat.zero_le _) hm
      constructor <;> simp only [Int.ofNat_eq_natCast, hpow] <;> omega
  unfold parseInt64 at h
  split at h
  · cases h
  · cases h
  · cases h
  · exact nonneg h
  · rename_i u _
    cases hm : magnitude (Nat.pow 2 63) .tooSmall 0 u with
    | error fault =>
      rw [hm] at h
      cases h
    | ok m =>
      rw [hm] at h
      cases h
      have := magnitude_le (Nat.zero_le _) hm
      constructor <;> simp only [Int.ofNat_eq_natCast, hpow] <;> omega
  · exact nonneg h

end SourceAtlas.Text
