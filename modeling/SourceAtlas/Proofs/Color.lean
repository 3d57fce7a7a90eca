import Mathlib.Algebra.GroupWithZero.Nat
import Mathlib.Algebra.Order.BigOperators.Group.List
import Mathlib.Algebra.Order.Group.Nat
import SourceAtlas.Color

/-!
# Average colors

What is written of a color is read back. The average of colors is therefore a color again, and the
averages of a level may be averaged on the next one. Each channel of it is the sum of the channels
divided by their number, rounded down, in whatever order they come.
-/

namespace SourceAtlas

/-- If a function has a value everywhere, these are the values that are found. -/
theorem filterMap_eq_of_map_eq {α β : Type} {f : α → Option β} {l : List α} {values : List β}
    (h : l.map f = values.map some) : l.filterMap f = values := by
  calc
    l.filterMap f = (l.map f).filterMap id := by simp [List.filterMap_map]
    _ = (values.map some).filterMap id := by rw [h]
    _ = values := by simp

namespace Color

/-! ## Reading what was written -/

theorem hexDigit?_digit {n : Nat} (h : n < 16) : Unicode.hexDigit? (digit n) = some n := by
  have hall : ∀ n < 16, Unicode.hexDigit? (digit n) = some n := by decide
  exact hall n h

theorem channel?_digits (c : UInt8) :
    channel? (digit (c.toNat / 16)) (digit (c.toNat % 16)) = some c := by
  have hhigh : c.toNat / 16 < 16 := Nat.div_lt_of_lt_mul c.toNat_lt
  have hlow : c.toNat % 16 < 16 := Nat.mod_lt _ (by decide)
  have hboth : 16 * (c.toNat / 16) + c.toNat % 16 = c.toNat := Nat.div_add_mod _ _
  rw [channel?, hexDigit?_digit hhigh, hexDigit?_digit hlow]
  change some (16 * (c.toNat / 16) + c.toNat % 16).toUInt8 = some c
  rw [hboth]
  exact congrArg some UInt8.ofNat_toNat

@[simp] theorem parse?_print (c : Color) : parse? (print c) = some c := by
  simp [parse?, print, printChannel, channel?_digits]

/-! ## Averages -/

theorem sum_channels_le (channels : List UInt8) :
    (channels.map UInt8.toNat).sum ≤ channels.length * 255 := by
  have hle : ∀ n ∈ channels.map UInt8.toNat, n ≤ 255 := by
    rintro n hn
    obtain ⟨c, -, rfl⟩ := List.mem_map.1 hn
    exact Nat.le_of_lt_succ c.toNat_lt
  simpa using List.sum_le_card_nsmul _ 255 hle

/-- An average is no larger than the largest channel, so that it is a channel itself. -/
theorem toNat_average (channels : List UInt8) :
    (average channels).toNat = (channels.map UInt8.toNat).sum / channels.length := by
  have hle : (channels.map UInt8.toNat).sum / channels.length ≤ 255 :=
    Nat.div_le_of_le_mul (sum_channels_le channels)
  exact UInt8.toNat_ofNat_of_lt (Nat.lt_succ_of_le hle)

theorem average_perm {channels others : List UInt8} (h : channels.Perm others) :
    average channels = average others := by
  apply UInt8.toNat_inj.1
  rw [toNat_average, toNat_average, (h.map UInt8.toNat).sum_eq, h.length_eq]

/-- The average of some colors. -/
def mean (colors : List Color) : Color :=
  ⟨average (colors.map red), average (colors.map green), average (colors.map blue)⟩

theorem mean_perm {colors others : List Color} (h : colors.Perm others) :
    mean colors = mean others := by
  rw [mean, mean, average_perm (h.map red), average_perm (h.map green), average_perm (h.map blue)]

theorem toNat_channel_mean (colors : List Color) :
    ∀ channel ∈ [red, green, blue],
      (channel (mean colors)).toNat =
        (colors.map fun c => (channel c).toNat).sum / colors.length := by
  have hchannel (channel : Color → UInt8) :
      (average (colors.map channel)).toNat =
        (colors.map fun c => (channel c).toNat).sum / colors.length := by
    rw [toNat_average, List.map_map, List.length_map]
    rfl
  simpa using ⟨hchannel red, hchannel green, hchannel blue⟩

/-! ## Average texts -/

theorem blend_eq (texts : List Text) :
    blend texts = if texts.filterMap parse? = [] then none
      else some (print (mean (texts.filterMap parse?))) := by
  rw [blend]
  split
  · rename_i h
    rw [if_pos h]
  · rename_i h
    rw [if_neg h]
    rfl

theorem blend_perm {texts others : List Text} (h : texts.Perm others) :
    blend texts = blend others := by
  have hknown := h.filterMap parse?
  rw [blend_eq, blend_eq, mean_perm hknown]
  simp only [← List.length_eq_zero_iff, hknown.length_eq]

theorem exists_map_parse?_eq {texts : List Text} (h : ∀ t ∈ texts, ∃ c, parse? t = some c) :
    ∃ known : List Color, texts.map parse? = known.map some := by
  induction texts with
  | nil => exact ⟨[], rfl⟩
  | cons t texts ih =>
    obtain ⟨⟨c, hc⟩, htexts⟩ := List.forall_mem_cons.1 h
    obtain ⟨known, hknown⟩ := ih htexts
    exact ⟨c :: known, by rw [List.map_cons, List.map_cons, hc, hknown]⟩

/-- If all texts are colors, all of them count. -/
theorem exists_blend_eq {texts : List Text} (h : ∀ t ∈ texts, ∃ c, parse? t = some c)
    (hne : texts ≠ []) :
    ∃ known : List Color, texts.map parse? = known.map some ∧
      blend texts = some (print (mean known)) := by
  obtain ⟨known, hknown⟩ := exists_map_parse?_eq h
  have hknown_ne : known ≠ [] := by
    rintro rfl
    exact hne (List.map_eq_nil_iff.1 hknown)
  exact ⟨known, hknown, by rw [blend_eq, filterMap_eq_of_map_eq hknown, if_neg hknown_ne]⟩

/-- A blend is a color, and so is what stands for it if there is none. -/
theorem exists_parse?_blend {standard : Text} (h : ∃ c, parse? standard = some c)
    (texts : List Text) : ∃ c, parse? ((blend texts).getD standard) = some c := by
  rw [blend_eq]
  split
  · exact h
  · exact ⟨_, parse?_print _⟩

end Color

end SourceAtlas
