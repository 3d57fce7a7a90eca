import Mathlib.Data.List.Lex
import Mathlib.Tactic.SplitIfs
import SourceAtlas.Text.Utf8

/-!
# The order of bytes

Texts in the order of their characters are in the order of their bytes too: of two characters the
smaller one has the smaller bytes, and the bytes of neither begin with those of the other.
-/

namespace SourceAtlas.Text

theorem toUInt8_lt {m n : Nat} (hm : m < 256) (hn : n < 256) : m.toUInt8 < n.toUInt8 ↔ m < n :=
  UInt8.ofNat_lt_iff_lt hm hn

theorem toUInt8_inj {m n : Nat} (hm : m < 256) (hn : n < 256) : m.toUInt8 = n.toUInt8 ↔ m = n := by
  rw [← UInt8.toNat_inj]
  simp [Nat.mod_eq_of_lt hm, Nat.mod_eq_of_lt hn]

theorem toNat_char_lt (c : Char) : c.toNat < 0x110000 := by
  rcases c.valid with h | h
  · exact Nat.lt_trans h (by decide)
  · exact h.2

theorem encodeChar_append_lt {c d : Char} (h : c < d) (s t : Bytes) :
    encodeChar c ++ s < encodeChar d ++ t := by
  have hlt : c.toNat < d.toNat := h
  have hd := toNat_char_lt d
  rw [encodeChar, encodeChar]
  generalize c.toNat = m at *
  generalize d.toNat = n at *
  -- By the numbers of bytes. If the first is the greater one, then so is the code point.
  split_ifs
  all_goals first
    | omega
    | simp (disch := omega) only [List.cons_append, List.nil_append, List.cons_lt_cons_iff,
        toUInt8_lt, toUInt8_inj]
      omega

theorem encodeChar_ne_nil (c : Char) : encodeChar c ≠ [] := by
  rw [encodeChar]
  split_ifs <;> simp

theorem encode_lt_encode {a b : Text} (h : a < b) : encode a < encode b := by
  induction h with
  | @nil c t =>
    show [] < encodeChar c ++ encode t
    cases hc : encodeChar c with
    | nil => exact absurd hc (encodeChar_ne_nil c)
    | cons byte bytes => exact List.nil_lt_cons _ _
  | rel h => exact encodeChar_append_lt h _ _
  | @cons c a b _ ih =>
    exact List.Lex.append_left _ ih (encodeChar c)

end SourceAtlas.Text
