import Mathlib.Algebra.Order.Field.Rat
import Mathlib.Tactic.Linarith
import Storefront.Proofs.Image.Canvas

/-! Pictures laid over a background, pixel by pixel. A color without an alpha stays what it is; with one,
each channel is the level nearest to the exact mixture of sample and background. -/

namespace Storefront

variable {sample background alpha : UInt8}

/-- The words that a blend goes through hold the numbers that they stand for, and the last of them is
a byte. -/
structure BlendsInWords (sample background alpha : UInt8) : Prop where
  rest : (255 - alpha.toUInt32).toNat + alpha.toNat = 255
  front : (sample.toUInt32 * alpha.toUInt32).toNat = sample.toNat * alpha.toNat
  back : (background.toUInt32 * (255 - alpha.toUInt32)).toNat =
    background.toNat * (255 - alpha.toNat)
  sum : (sample.toUInt32 * alpha.toUInt32 + background.toUInt32 * (255 - alpha.toUInt32)).toNat =
    sample.toNat * alpha.toNat + background.toNat * (255 - alpha.toNat)
  rounded : (sample.toUInt32 * alpha.toUInt32 + background.toUInt32 * (255 - alpha.toUInt32) +
    127).toNat = sample.toNat * alpha.toNat + background.toNat * (255 - alpha.toNat) + 127
  byte : ((sample.toUInt32 * alpha.toUInt32 + background.toUInt32 * (255 - alpha.toUInt32) + 127) /
    255).toNat < 256

theorem toNat_le_full (v : UInt8) : v.toNat ≤ 255 :=
  Nat.le_of_lt_succ v.toNat_lt

theorem blendsInWords (sample background alpha : UInt8) : BlendsInWords sample background alpha := by
  have ha := toNat_le_full alpha
  have hfront : sample.toNat * alpha.toNat ≤ 255 * alpha.toNat :=
    Nat.mul_le_mul_right _ (toNat_le_full sample)
  have hback : background.toNat * (255 - alpha.toNat) ≤ 255 * (255 - alpha.toNat) :=
    Nat.mul_le_mul_right _ (toNat_le_full background)
  have h255 : (255 : UInt32).toNat = 255 := rfl
  have h127 : (127 : UInt32).toNat = 127 := rfl
  have hle : alpha.toUInt32 ≤ 255 := by
    rw [UInt32.le_iff_toNat_le, UInt8.toNat_toUInt32, h255]
    exact ha
  have hrest : (255 - alpha.toUInt32).toNat = 255 - alpha.toNat := by
    rw [UInt32.toNat_sub_of_le _ _ hle, UInt8.toNat_toUInt32, h255]
  have hf : (sample.toUInt32 * alpha.toUInt32).toNat = sample.toNat * alpha.toNat := by
    rw [UInt32.toNat_mul, UInt8.toNat_toUInt32, UInt8.toNat_toUInt32]
    omega
  have hb : (background.toUInt32 * (255 - alpha.toUInt32)).toNat =
      background.toNat * (255 - alpha.toNat) := by
    rw [UInt32.toNat_mul, hrest, UInt8.toNat_toUInt32]
    omega
  -- The sum has at most 16 bits, and with the half that rounds it at most 17.
  have hsum : (sample.toUInt32 * alpha.toUInt32 +
      background.toUInt32 * (255 - alpha.toUInt32)).toNat =
      sample.toNat * alpha.toNat + background.toNat * (255 - alpha.toNat) := by
    rw [UInt32.toNat_add, hf, hb]
    omega
  have hrounded : (sample.toUInt32 * alpha.toUInt32 + background.toUInt32 * (255 - alpha.toUInt32) +
      127).toNat = sample.toNat * alpha.toNat + background.toNat * (255 - alpha.toNat) + 127 := by
    rw [UInt32.toNat_add, hsum, h127]
    omega
  refine ⟨?_, hf, hb, hsum, hrounded, ?_⟩
  · rw [hrest]
    exact Nat.sub_add_cancel ha
  · rw [UInt32.toNat_div, hrounded, h255]
    omega

theorem toNat_blend (sample background alpha : UInt8) :
    (blend sample background alpha).toNat =
      (sample.toNat * alpha.toNat + background.toNat * (255 - alpha.toNat) + 127) / 255 := by
  have hwords := blendsInWords sample background alpha
  have h255 : (255 : UInt32).toNat = 255 := rfl
  rw [blend, UInt32.toNat_toUInt8, Nat.mod_eq_of_lt hwords.byte, UInt32.toNat_div, hwords.rounded,
    h255]

def mixture (sample background alpha : UInt8) : ℚ :=
  (sample.toNat * alpha.toNat + background.toNat * (255 - alpha.toNat)) / 255

def IsNearest (q : ℚ) (n : ℤ) : Prop :=
  ∀ m : ℤ, m ≠ n → |q - n| < |q - m|

theorem isNearest_of_abs_sub_lt {q : ℚ} {n : ℤ} (h : |q - n| < 1 / 2) : IsNearest q n := by
  intro m hm
  have hapart : (1 : ℚ) ≤ |(m : ℚ) - n| := by
    have hint : (1 : ℤ) ≤ |m - n| := Int.one_le_abs (sub_ne_zero.2 hm)
    exact_mod_cast hint
  have htriangle : |(m : ℚ) - n| ≤ |q - m| + |q - n| := by
    rw [abs_sub_comm q m]
    exact abs_sub_le (m : ℚ) q n
  linarith

/-- Rounding is off by less than half a level, since 255 is odd. -/
theorem abs_mixture_sub_blend_le (sample background alpha : UInt8) :
    |mixture sample background alpha - (blend sample background alpha).toNat| ≤ 127 / 255 := by
  have ha := toNat_le_full alpha
  have hblend := toNat_blend sample background alpha
  have hexact : mixture sample background alpha =
      ((sample.toNat * alpha.toNat + background.toNat * (255 - alpha.toNat) : ℕ) : ℚ) / 255 := by
    rw [mixture, Nat.cast_add, Nat.cast_mul, Nat.cast_mul, Nat.cast_sub ha]
    rfl
  generalize (blend sample background alpha).toNat = level at hblend ⊢
  generalize sample.toNat * alpha.toNat + background.toNat * (255 - alpha.toNat) = total
    at hblend hexact
  have hlow : 255 * level ≤ total + 127 := by omega
  have hhigh : total ≤ 255 * level + 127 := by omega
  have hlow' : 255 * (level : ℚ) ≤ total + 127 := by exact_mod_cast hlow
  have hhigh' : (total : ℚ) ≤ 255 * level + 127 := by exact_mod_cast hhigh
  rw [hexact, abs_le]
  constructor <;> linarith

/-- One channel over a background: the level nearest to the exact mixture, between the two levels. -/
structure Mixes (sample background alpha level : UInt8) : Prop where
  nearest : IsNearest (mixture sample background alpha) level.toNat
  atLeast : min sample.toNat background.toNat ≤ level.toNat
  atMost : level.toNat ≤ max sample.toNat background.toNat

theorem mixes_blend (sample background alpha : UInt8) :
    Mixes sample background alpha (blend sample background alpha) := by
  have ha := toNat_le_full alpha
  have hparts (n : Nat) : n * alpha.toNat + n * (255 - alpha.toNat) = 255 * n := by
    rw [← Nat.mul_add, Nat.add_sub_cancel' ha, Nat.mul_comm]
  refine ⟨?_, ?_, ?_⟩
  · have hoff := abs_mixture_sub_blend_le sample background alpha
    exact isNearest_of_abs_sub_lt (lt_of_le_of_lt hoff (by norm_num))
  · rw [toNat_blend, Nat.le_div_iff_mul_le (by decide)]
    have hleast : 255 * min sample.toNat background.toNat ≤
        sample.toNat * alpha.toNat + background.toNat * (255 - alpha.toNat) := by
      rw [← hparts]
      exact Nat.add_le_add (Nat.mul_le_mul_right _ (Nat.min_le_left _ _))
        (Nat.mul_le_mul_right _ (Nat.min_le_right _ _))
    omega
  · have hmost : sample.toNat * alpha.toNat + background.toNat * (255 - alpha.toNat) ≤
        255 * max sample.toNat background.toNat := by
      rw [← hparts]
      exact Nat.add_le_add (Nat.mul_le_mul_right _ (Nat.le_max_left _ _))
        (Nat.mul_le_mul_right _ (Nat.le_max_right _ _))
    rw [toNat_blend]
    omega

namespace Picture

open Sample

/-- In eight bits a channel, the pixel in column `x` of row `y` has the color and, in a mode with an
alpha channel, the alpha. Gray is the same in all three channels. -/
inductive HasPixel (x y : Nat) : Picture → Color → Option UInt8 → Prop
  | l8 {r v} (h : r.get? x y = some v) : HasPixel x y (.l8 r) ⟨toByte v, toByte v, toByte v⟩ none
  | la8 {r v a} (h : r.get? x y = some ⟨v, a⟩) :
    HasPixel x y (.la8 r) ⟨toByte v, toByte v, toByte v⟩ (some (toByte a))
  | rgb8 {r u v w} (h : r.get? x y = some ⟨u, v, w⟩) :
    HasPixel x y (.rgb8 r) ⟨toByte u, toByte v, toByte w⟩ none
  | rgba8 {r u v w a} (h : r.get? x y = some ⟨u, v, w, a⟩) :
    HasPixel x y (.rgba8 r) ⟨toByte u, toByte v, toByte w⟩ (some (toByte a))
  | l16 {r v} (h : r.get? x y = some v) : HasPixel x y (.l16 r) ⟨toByte v, toByte v, toByte v⟩ none
  | la16 {r v a} (h : r.get? x y = some ⟨v, a⟩) :
    HasPixel x y (.la16 r) ⟨toByte v, toByte v, toByte v⟩ (some (toByte a))
  | rgb16 {r u v w} (h : r.get? x y = some ⟨u, v, w⟩) :
    HasPixel x y (.rgb16 r) ⟨toByte u, toByte v, toByte w⟩ none
  | rgba16 {r u v w a} (h : r.get? x y = some ⟨u, v, w, a⟩) :
    HasPixel x y (.rgba16 r) ⟨toByte u, toByte v, toByte w⟩ (some (toByte a))
  | rgb32f {r u v w} (h : r.get? x y = some ⟨u, v, w⟩) :
    HasPixel x y (.rgb32f r) ⟨toByte u, toByte v, toByte w⟩ none
  | rgba32f {r u v w a} (h : r.get? x y = some ⟨u, v, w, a⟩) :
    HasPixel x y (.rgba32f r) ⟨toByte u, toByte v, toByte w⟩ (some (toByte a))

variable {p : Picture} {x y : Nat} {color : Color} {veil : Option UInt8}

theorem HasPixel.isSome_eq (h : p.HasPixel x y color veil) : veil.isSome = p.hasAlpha := by
  cases h <;> rfl

theorem exists_hasPixel_iff : (∃ color veil, p.HasPixel x y color veil) ↔
    x < p.size.width.toNat ∧ y < p.size.height.toNat := by
  constructor
  · rintro ⟨color, veil, h⟩
    cases h with
    | l8 h | la8 h | rgb8 h | rgba8 h | l16 h | la16 h | rgb16 h | rgba16 h | rgb32f h
    | rgba32f h => exact Raster.lt_of_get? h
  · rintro ⟨hx, hy⟩
    cases p with
    | l8 r => exact ⟨_, _, .l8 (Raster.get?_eq_get hx hy)⟩
    | la8 r => exact ⟨_, _, .la8 (Raster.get?_eq_get hx hy)⟩
    | rgb8 r => exact ⟨_, _, .rgb8 (Raster.get?_eq_get hx hy)⟩
    | rgba8 r => exact ⟨_, _, .rgba8 (Raster.get?_eq_get hx hy)⟩
    | l16 r => exact ⟨_, _, .l16 (Raster.get?_eq_get hx hy)⟩
    | la16 r => exact ⟨_, _, .la16 (Raster.get?_eq_get hx hy)⟩
    | rgb16 r => exact ⟨_, _, .rgb16 (Raster.get?_eq_get hx hy)⟩
    | rgba16 r => exact ⟨_, _, .rgba16 (Raster.get?_eq_get hx hy)⟩
    | rgb32f r => exact ⟨_, _, .rgb32f (Raster.get?_eq_get hx hy)⟩
    | rgba32f r => exact ⟨_, _, .rgba32f (Raster.get?_eq_get hx hy)⟩

def shown (color : Color) (background : Color) : Option UInt8 → Color
  | none => color
  | some alpha => Rgba.over ⟨color.red, color.green, color.blue, alpha⟩ background

theorem HasPixel.get?_flatten (h : p.HasPixel x y color veil) (background : Color) :
    (p.flatten background).get? x y = some (shown color background veil) := by
  cases h with
  | l8 h | rgb8 h | l16 h | rgb16 h | rgb32f h =>
    simp only [flatten, bitmap, Bitmap.over, Raster.get?_map, h]
    rfl
  | la8 h | rgba8 h | la16 h | rgba16 h | rgba32f h =>
    simp only [flatten, bitmap, Bitmap.over, Raster.get?_map, h]
    rfl

/-- The raster has the pixels of the picture, laid over the background where they have an alpha. -/
structure Composes (p : Picture) (background : Color) (flat : Raster Color) : Prop where
  size : flat.size = p.size
  pixels : ∀ x y, x < p.size.width.toNat → y < p.size.height.toNat →
    ∃ color veil, p.HasPixel x y color veil ∧ veil.isSome = p.hasAlpha
  solid : ∀ x y color, p.HasPixel x y color none → flat.get? x y = some color
  veiled : ∀ x y color alpha, p.HasPixel x y color (some alpha) →
    ∃ level : Color, flat.get? x y = some level ∧ Mixes color.red background.red alpha level.red ∧
      Mixes color.green background.green alpha level.green ∧
      Mixes color.blue background.blue alpha level.blue
  independent : p.hasAlpha = false → ∀ other, p.flatten other = flat

/-- Pictures of all modes can be flattened. Those with an alpha channel are told apart, and mixed with
the background as exactly as bytes can be; the others do not depend on it. -/
theorem composes_flatten (p : Picture) (background : Color) :
    p.Composes background (p.flatten background) ∧
    (p.hasAlpha = true ↔ p.modeName ∈ ["La8", "La16", "Rgba8", "Rgba16", "Rgba32F"]) ∧
    ∀ sample level alpha, BlendsInWords sample level alpha := by
  refine ⟨⟨p.size_flatten background, ?_, ?_, ?_, ?_⟩, ?_, blendsInWords⟩
  · intro x y hx hy
    obtain ⟨color, veil, h⟩ := exists_hasPixel_iff.2 ⟨hx, hy⟩
    exact ⟨color, veil, h, h.isSome_eq⟩
  · intro x y color h
    exact h.get?_flatten background
  · intro x y color alpha h
    exact ⟨_, h.get?_flatten background, mixes_blend _ _ _, mixes_blend _ _ _, mixes_blend _ _ _⟩
  · intro hp other
    exact flatten_of_solid hp other background
  · cases p <;> simp [hasAlpha, modeName]

end Picture
end Storefront
