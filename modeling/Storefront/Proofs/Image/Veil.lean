import Storefront.Proofs.Image.Canvas
import Storefront.Proofs.Image.Compositing

/-! Alpha on the way to the canvas: colors under alpha zero leave no trace, and a picture that is
nowhere transparent comes out as its colors alone would. -/

namespace Storefront

variable {p q : Picture} {c : Canvas} {n : Normalized}

theorem blend_zero (sample background : UInt8) : blend sample background 0 = background := by
  apply UInt8.toNat_inj.1
  have hzero : (0 : UInt8).toNat = 0 := rfl
  rw [toNat_blend, hzero]
  omega

theorem blend_full (sample background : UInt8) : blend sample background 255 = sample := by
  apply UInt8.toNat_inj.1
  have hfull : (255 : UInt8).toNat = 255 := rfl
  rw [toNat_blend, hfull]
  omega

namespace Rgba

theorem over_of_hidden {a : Rgba UInt8} (h : a.alpha = 0) (background : Color) :
    a.over background = background := by
  simp only [Rgba.over, h, blend_zero]

theorem over_of_opaque {a : Rgba UInt8} (h : a.alpha = 255) (background : Color) :
    a.over background = a.color := by
  simp only [Rgba.over, h, blend_full, color]

/-- The pixels have one alpha, and one color unless it is zero. -/
def AlikeShown (a b : Rgba UInt8) : Prop :=
  a.alpha = b.alpha ∧ (a.alpha ≠ 0 → a.color = b.color)

theorem AlikeShown.over_eq {a b : Rgba UInt8} (h : a.AlikeShown b) (background : Color) :
    a.over background = b.over background := by
  obtain ⟨halpha, hcolor⟩ := h
  by_cases hzero : a.alpha = 0
  · rw [over_of_hidden hzero, over_of_hidden (halpha ▸ hzero)]
  · obtain ⟨hred, hgreen, hblue⟩ := Rgb.mk.inj (hcolor hzero)
    simp only [Rgba.over, halpha, hred, hgreen, hblue]

end Rgba

namespace Picture

/-- Both pictures have an alpha channel, and in eight bits a channel they differ in nothing but the
colors of pixels with alpha zero. -/
def AlikeShown (p q : Picture) : Prop :=
  ∃ r s, p.bitmap = .veiled r ∧ q.bitmap = .veiled s ∧ r.size = s.size ∧
    ∀ x y a b, r.get? x y = some a → s.get? x y = some b → a.AlikeShown b

def Opaque (p : Picture) : Prop :=
  ∃ r, p.bitmap = .veiled r ∧ ∀ x y a, r.get? x y = some a → a.alpha = 255

def withoutAlpha : Picture → Picture
  | .la8 r => .l8 (r.map (·.gray))
  | .rgba8 r => .rgb8 (r.map (·.color))
  | .la16 r => .l16 (r.map (·.gray))
  | .rgba16 r => .rgb16 (r.map (·.color))
  | .rgba32f r => .rgb32f (r.map (·.color))
  | p => p

theorem size_of_bitmap {r : Raster (Rgba UInt8)} (h : p.bitmap = .veiled r) :
    r.size = p.size ∧ p.hasAlpha = true := by
  cases p with
  | l8 | rgb8 | l16 | rgb16 | rgb32f => contradiction
  | la8 | rgba8 | la16 | rgba16 | rgba32f =>
    obtain rfl := Bitmap.veiled.inj h
    exact ⟨rfl, rfl⟩

theorem flatten_of_bitmap {r : Raster (Rgba UInt8)} (h : p.bitmap = .veiled r) (background : Color) :
    p.flatten background = r.map (·.over background) := by
  rw [flatten, h]
  rfl

theorem flatten_withoutAlpha {r : Raster (Rgba UInt8)} (h : p.bitmap = .veiled r)
    (background : Color) : p.withoutAlpha.flatten background = r.map Rgba.color := by
  cases p with
  | l8 | rgb8 | l16 | rgb16 | rgb32f => contradiction
  | la8 | rgba8 | la16 | rgba16 | rgba32f =>
    obtain rfl := Bitmap.veiled.inj h
    simp only [withoutAlpha, flatten, bitmap, Bitmap.over, Raster.map_map]
    rfl

theorem size_withoutAlpha (p : Picture) : p.withoutAlpha.size = p.size := by
  cases p <;> rfl

theorem hasAlpha_withoutAlpha (p : Picture) : p.withoutAlpha.hasAlpha = false := by
  cases p <;> rfl

theorem AlikeShown.size_eq (h : p.AlikeShown q) : p.size = q.size := by
  obtain ⟨r, s, hp, hq, hsize, -⟩ := h
  rw [← (size_of_bitmap hp).1, ← (size_of_bitmap hq).1, hsize]

theorem AlikeShown.hasAlpha_eq (h : p.AlikeShown q) : q.hasAlpha = p.hasAlpha := by
  obtain ⟨r, s, hp, hq, -⟩ := h
  rw [(size_of_bitmap hp).2, (size_of_bitmap hq).2]

theorem Opaque.hasAlpha (h : p.Opaque) : p.hasAlpha = true := by
  obtain ⟨r, hp, -⟩ := h
  exact (size_of_bitmap hp).2

theorem AlikeShown.flatten_eq (h : p.AlikeShown q) (background : Color) :
    p.flatten background = q.flatten background := by
  obtain ⟨r, s, hp, hq, hsize, hpixel⟩ := h
  rw [flatten_of_bitmap hp, flatten_of_bitmap hq]
  apply Raster.map_eq_map hsize
  intro x y
  by_cases hxy : x < r.size.width.toNat ∧ y < r.size.height.toNat
  · have hr := Raster.get?_eq_get hxy.1 hxy.2
    have hs := Raster.get?_eq_get (hsize ▸ hxy.1) (hsize ▸ hxy.2)
    rw [hr, hs, Option.map_some, Option.map_some, (hpixel x y _ _ hr hs).over_eq]
  · have hr : r.get? x y = none := dif_neg hxy
    have hs : s.get? x y = none := dif_neg (hsize ▸ hxy)
    rw [hr, hs]

theorem Opaque.flatten_eq (h : p.Opaque) (background : Color) :
    p.flatten background = p.withoutAlpha.flatten background := by
  obtain ⟨r, hp, hpixel⟩ := h
  rw [flatten_of_bitmap hp, flatten_withoutAlpha hp]
  apply Raster.map_eq_map rfl
  intro x y
  cases hr : r.get? x y with
  | none => rfl
  | some a => rw [Option.map_some, Option.map_some, Rgba.over_of_opaque (hpixel x y a hr)]

theorem normalize_congr (hsize : p.size = q.size)
    (hflatten : p.flatten c.background = q.flatten c.background) :
    p.normalize c = (q.normalize c).map fun n => { n with flattenedAlpha := p.hasAlpha } := by
  unfold normalize
  rw [hsize, hflatten]
  split
  · rfl
  · split
    · rfl
    · split <;> rfl

theorem flattenedAlpha_normalize (h : p.normalize c = .ok n) : n.flattenedAlpha = p.hasAlpha :=
  (liesOn_of_normalize h).flattenedAlpha

/-- What lies under alpha zero does not show, in the picture or in the way that it is placed. With
full alpha everywhere a picture is normalized as without its alpha channel; only the flag tells. -/
theorem normalize_alpha (c : Canvas) :
    (∀ p q : Picture, p.AlikeShown q → p.normalize c = q.normalize c) ∧
    ∀ p : Picture, p.Opaque →
      p.normalize c =
        (p.withoutAlpha.normalize c).map (fun n => { n with flattenedAlpha := true }) ∧
      ∀ n, p.withoutAlpha.normalize c = .ok n → n.flattenedAlpha = false := by
  refine ⟨?_, ?_⟩
  · intro p q h
    have hsame := normalize_congr (c := c) h.size_eq (h.flatten_eq c.background)
    rw [hsame]
    rcases hq : q.normalize c with e | n
    · rfl
    · have hflag : n.flattenedAlpha = p.hasAlpha := by
        rw [flattenedAlpha_normalize hq, h.hasAlpha_eq]
      rw [Except.map, ← hflag]
  · intro p h
    have hsame := normalize_congr (c := c) p.size_withoutAlpha.symm (h.flatten_eq c.background)
    rw [h.hasAlpha] at hsame
    refine ⟨hsame, ?_⟩
    intro n hn
    rw [flattenedAlpha_normalize hn, hasAlpha_withoutAlpha]

def halfVeiled (hidden : UInt8) : Picture :=
  .rgba8 ⟨⟨2, 1⟩, #[⟨200, 10, 10, 128⟩, ⟨hidden, hidden, hidden, 0⟩], rfl⟩

def opaqueGray : Picture :=
  .la16 ⟨⟨1, 2⟩, #[⟨40000, 65535⟩, ⟨7, 65500⟩], rfl⟩

theorem alikeShown_halfVeiled (hidden other : UInt8) :
    (halfVeiled hidden).AlikeShown (halfVeiled other) := by
  refine ⟨_, _, rfl, rfl, rfl, ?_⟩
  intro x y a b ha hb
  have hxy : x < 2 ∧ y < 1 := Raster.lt_of_get? ha
  rw [Raster.get?_map] at ha hb
  obtain ⟨rfl | rfl, rfl⟩ : (x = 0 ∨ x = 1) ∧ y = 0 := by omega
  · obtain rfl := Option.some.inj ha
    obtain rfl := Option.some.inj hb
    exact ⟨rfl, fun _ => rfl⟩
  · obtain rfl := Option.some.inj ha
    obtain rfl := Option.some.inj hb
    exact ⟨rfl, fun h => (h rfl).elim⟩

theorem opaque_opaqueGray : opaqueGray.Opaque := by
  refine ⟨_, rfl, ?_⟩
  intro x y a ha
  have hxy : x < 1 ∧ y < 2 := Raster.lt_of_get? ha
  rw [Raster.get?_map] at ha
  obtain ⟨rfl, rfl | rfl⟩ : x = 0 ∧ (y = 0 ∨ y = 1) := by omega
  · obtain rfl := Option.some.inj ha
    decide
  · obtain rfl := Option.some.inj ha
    decide

theorem normalize_alpha_halfVeiled :
    (halfVeiled 9).normalize ⟨⟨4, 4⟩, Color.white⟩ = (halfVeiled 77).normalize ⟨⟨4, 4⟩, Color.white⟩ ∧
    opaqueGray.normalize ⟨⟨4, 4⟩, Color.white⟩ =
      (opaqueGray.withoutAlpha.normalize ⟨⟨4, 4⟩, Color.white⟩).map
        fun n => { n with flattenedAlpha := true } := by
  obtain ⟨hhidden, hsolid⟩ := normalize_alpha ⟨⟨4, 4⟩, Color.white⟩
  exact ⟨hhidden _ _ (alikeShown_halfVeiled 9 77), (hsolid opaqueGray opaque_opaqueGray).1⟩

end Picture
end Storefront
