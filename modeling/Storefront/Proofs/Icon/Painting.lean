import Storefront.Icon.Set
import Storefront.Proofs.Image.Raster

/-! What the icon shows: white where one of its shapes is, and the gradient of its row elsewhere. The
order in which the shapes are drawn does not show. -/

namespace Storefront

namespace Raster

variable {α : Type}

def set? (r : Raster α) (x y : Nat) (p : α) : Option (Raster α) :=
  if x < r.size.width.toNat ∧ y < r.size.height.toNat then some (r.set x y p) else none

def ink (color : α) (positions : List (Nat × Nat)) (r : Raster α) : Raster α :=
  positions.foldl (fun r p => r.set p.1 p.2 color) r

theorem size_ink (color : α) (positions : List (Nat × Nat)) (r : Raster α) :
    (r.ink color positions).size = r.size := by
  induction positions generalizing r with
  | nil => rfl
  | cons p positions ih => exact ih (r.set p.1 p.2 color)

theorem get?_ink (color : α) (positions : List (Nat × Nat)) (r : Raster α) (x y : Nat) :
    (r.ink color positions).get? x y =
      if (x, y) ∈ positions then (r.get? x y).map fun _ => color else r.get? x y := by
  induction positions generalizing r with
  | nil => rfl
  | cons p positions ih =>
    have hstep : (r.ink color (p :: positions)) = (r.set p.1 p.2 color).ink color positions := rfl
    rw [hstep, ih, get?_set]
    by_cases hp : x = p.1 ∧ y = p.2
    · have hmem : (x, y) ∈ p :: positions := by simp [hp]
      rw [if_pos hp, if_pos hmem, Option.map_map]
      exact ite_self _
    · have hmem : (x, y) ∈ p :: positions ↔ (x, y) ∈ positions := by
        simp [Prod.ext_iff, hp]
      simp only [if_neg hp, hmem]

theorem foldlM_set? (color : α) {positions : List (Nat × Nat)} {r : Raster α}
    (h : ∀ p ∈ positions, p.1 < r.size.width.toNat ∧ p.2 < r.size.height.toNat) :
    positions.foldlM (fun r p => r.set? p.1 p.2 color) r = some (r.ink color positions) := by
  induction positions generalizing r with
  | nil => rfl
  | cons p positions ih =>
    obtain ⟨hp, hrest⟩ := List.forall_mem_cons.1 h
    rw [List.foldlM_cons, set?, if_pos hp]
    exact ih (r := r.set p.1 p.2 color) hrest

end Raster

namespace Box

def Contains (b : Box) (x y : Int) : Prop :=
  b.left ≤ x ∧ x ≤ b.right ∧ b.top ≤ y ∧ y ≤ b.bottom

instance (b : Box) (x y : Int) : Decidable (b.Contains x y) :=
  inferInstanceAs (Decidable (_ ∧ _ ∧ _ ∧ _))

def Within (b : Box) (d : Dimensions) : Prop :=
  ∀ x y, b.Contains x y → 0 ≤ x ∧ x < d.width.toNat ∧ 0 ≤ y ∧ y < d.height.toNat

/-- The middle of column `x`, from the middle of the box to the right. -/
def across (b : Box) (x : Nat) : Float32 :=
  Float32.ofNat x + 0.5 - Float32.ofInt (b.left + b.right + 1) / 2

/-- The middle of row `y`, from the middle of the box downwards. -/
def down (b : Box) (y : Nat) : Float32 :=
  Float32.ofNat y + 0.5 - Float32.ofInt (b.top + b.bottom + 1) / 2

def halfWidth (b : Box) : Float32 := Float32.ofInt (b.right + 1 - b.left) / 2

def halfHeight (b : Box) : Float32 := Float32.ofInt (b.bottom + 1 - b.top) / 2

theorem offset_eq (b : Box) (x y : Nat) : b.offset x y = (b.across x, b.down y) := rfl

theorem radii_eq (b : Box) : b.radii = (b.halfWidth, b.halfHeight) := rfl

theorem mem_positions {b : Box} {d : Dimensions} {x y : Nat} : (x, y) ∈ b.positions d ↔
    b.Contains x y ∧ x < d.width.toNat ∧ y < d.height.toNat := by
  simp only [positions, List.mem_flatMap, List.mem_map, mem_span, Prod.mk.injEq, Contains]
  constructor
  · rintro ⟨y', hy, x', hx, rfl, rfl⟩
    exact ⟨⟨hx.1, hx.2.1, hy.1, hy.2.1⟩, hx.2.2, hy.2.2⟩
  · rintro ⟨⟨hleft, hright, htop, hbottom⟩, hx, hy⟩
    exact ⟨y, ⟨htop, hbottom, hy⟩, x, ⟨hleft, hright, hx⟩, rfl, rfl⟩

end Box

/-- The point lies in the ellipse with these radii about the origin, or on its edge. Radii that are
not positive leave no point in it. -/
def InEllipse (x y rx ry : Float32) : Prop :=
  ¬rx ≤ 0 ∧ ¬ry ≤ 0 ∧ x / rx * (x / rx) + y / ry * (y / ry) ≤ 1

instance (x y rx ry : Float32) : Decidable (InEllipse x y rx ry) :=
  inferInstanceAs (Decidable (_ ∧ _ ∧ _))

/-- The direction of the point in degrees, clockwise from the right, lies in the sweep, which goes
through zero when it starts past its end. -/
def InSector (x y start stop : Float32) : Prop :=
  let degrees := Float32.atan2 y x * 57.29578
  let angle := if degrees < 0 then degrees + 360 else degrees
  (start ≤ stop ∧ start ≤ angle ∧ angle ≤ stop) ∨
    (¬start ≤ stop ∧ (start ≤ angle ∨ angle ≤ stop))

namespace Shape

/-- The pixel belongs to the shape: it lies in the box, its middle in the ellipse, and for an arc not
in the ellipse that is smaller by the width, and in the sweep. -/
inductive Paints : Shape → Nat → Nat → Prop
  | disc {b : Box} {x y : Nat} (hbox : b.Contains x y)
    (hinside : InEllipse (b.across x) (b.down y) b.halfWidth b.halfHeight) : Paints (.disc b) x y
  | arc {b : Box} {start stop width : Float32} {x y : Nat} (hbox : b.Contains x y)
    (hinside : InEllipse (b.across x) (b.down y) b.halfWidth b.halfHeight)
    (houtside : ¬InEllipse (b.across x) (b.down y) (b.halfWidth - width) (b.halfHeight - width))
    (hsweep : InSector (b.across x) (b.down y) start stop) : Paints (.arc b start stop width) x y

theorem insideEllipse_iff {x y rx ry : Float32} :
    insideEllipse x y rx ry = true ↔ InEllipse x y rx ry := by
  unfold insideEllipse InEllipse
  by_cases hradii : rx ≤ 0 ∨ ry ≤ 0
  · rw [if_pos hradii]
    refine iff_of_false (by simp) ?_
    rintro ⟨hrx, hry, -⟩
    exact hradii.elim hrx hry
  · rw [if_neg hradii, decide_eq_true_iff]
    rw [not_or] at hradii
    exact ⟨fun hsum => ⟨hradii.1, hradii.2, hsum⟩, fun h => h.2.2⟩

theorem degreesPerRadian_eq : degreesPerRadian = 57.29578 := by decide +kernel

theorem inSweep_angle_iff {x y start stop : Float32} :
    inSweep (angle x y) start stop = true ↔ InSector x y start stop := by
  unfold inSweep angle InSector
  rw [degreesPerRadian_eq]
  by_cases hsweep : start ≤ stop <;> simp [hsweep]

theorem paints_iff {s : Shape} {x y : Nat} :
    s.Paints x y ↔ s.box.Contains x y ∧ s.coversPixel x y = true := by
  cases s with
  | disc b =>
    rw [coversPixel, covers, box, Box.offset_eq, Box.radii_eq, insideEllipse_iff]
    constructor
    · rintro (⟨hbox, hinside⟩ | -)
      exact ⟨hbox, hinside⟩
    · rintro ⟨hbox, hinside⟩
      exact .disc hbox hinside
  | arc b start stop width =>
    simp only [coversPixel, covers, box, Box.offset_eq, Box.radii_eq, Bool.and_eq_true,
      Bool.not_eq_true', ← Bool.not_eq_true, insideEllipse_iff, inSweep_angle_iff]
    constructor
    · rintro (- | ⟨hbox, hinside, houtside, hsweep⟩)
      exact ⟨hbox, ⟨hinside, houtside⟩, hsweep⟩
    · rintro ⟨hbox, ⟨hinside, houtside⟩, hsweep⟩
      exact .arc hbox hinside houtside hsweep

/-- The pixels of the shape on a raster of the given size, found before any of them is written. -/
def hits (s : Shape) (d : Dimensions) : List (Nat × Nat) :=
  (s.box.positions d).filter fun p => s.coversPixel p.1 p.2

theorem mem_hits {s : Shape} {d : Dimensions} {x y : Nat} :
    (x, y) ∈ s.hits d ↔ s.Paints x y ∧ x < d.width.toNat ∧ y < d.height.toNat := by
  rw [hits, List.mem_filter, Box.mem_positions, paints_iff, and_right_comm]

variable {α : Type}

theorem draw_eq_ink (s : Shape) (color : α) (r : Raster α) :
    s.draw color r = r.ink color (s.hits r.size) := by
  rw [Raster.ink, hits, List.foldl_filter, draw]

theorem size_draw (s : Shape) (color : α) (r : Raster α) : (s.draw color r).size = r.size := by
  rw [draw_eq_ink, Raster.size_ink]

/-- `draw` in two passes: the pixels are found, then written, which fails outside of the raster. -/
def draw? (s : Shape) (color : α) (r : Raster α) : Option (Raster α) :=
  (s.hits r.size).foldlM (fun r p => r.set? p.1 p.2 color) r

theorem draw?_eq (s : Shape) (color : α) (r : Raster α) :
    s.draw? color r = some (s.draw color r) := by
  have hinside : ∀ p ∈ s.hits r.size, p.1 < r.size.width.toNat ∧ p.2 < r.size.height.toNat :=
    fun p hp => (mem_hits.1 hp).2
  rw [draw?, Raster.foldlM_set? color hinside, draw_eq_ink]

theorem get?_draw_of_paints {s : Shape} {x y : Nat} (h : s.Paints x y) (color : α)
    (r : Raster α) : (s.draw color r).get? x y = (r.get? x y).map fun _ => color := by
  rw [draw_eq_ink, Raster.get?_ink]
  by_cases hxy : x < r.size.width.toNat ∧ y < r.size.height.toNat
  · rw [if_pos (mem_hits.2 ⟨h, hxy⟩)]
  · have hnone : r.get? x y = none := dif_neg hxy
    rw [hnone, Option.map_none, ite_self]

theorem get?_draw_of_not_paints {s : Shape} {x y : Nat} (h : ¬s.Paints x y) (color : α)
    (r : Raster α) : (s.draw color r).get? x y = r.get? x y := by
  rw [draw_eq_ink, Raster.get?_ink, if_neg fun hmem => h (mem_hits.1 hmem).1]

def drawAll (ss : List Shape) (color : α) (r : Raster α) : Raster α :=
  ss.foldl (fun r s => s.draw color r) r

variable {ss : List Shape}

theorem size_drawAll (ss : List Shape) (color : α) (r : Raster α) :
    (drawAll ss color r).size = r.size := by
  induction ss generalizing r with
  | nil => rfl
  | cons s ss ih => exact (ih (s.draw color r)).trans (size_draw s color r)

theorem foldlM_draw? (ss : List Shape) (color : α) (r : Raster α) :
    ss.foldlM (fun r s => s.draw? color r) r = some (drawAll ss color r) := by
  induction ss generalizing r with
  | nil => rfl
  | cons s ss ih =>
    rw [List.foldlM_cons, draw?_eq]
    exact ih (s.draw color r)

theorem get?_drawAll_of_not_paints {x y : Nat} (h : ∀ s ∈ ss, ¬s.Paints x y) (color : α)
    (r : Raster α) : (drawAll ss color r).get? x y = r.get? x y := by
  induction ss generalizing r with
  | nil => rfl
  | cons s ss ih =>
    obtain ⟨hs, hss⟩ := List.forall_mem_cons.1 h
    exact (ih hss (s.draw color r)).trans (get?_draw_of_not_paints hs color r)

theorem get?_drawAll_of_paints {x y : Nat} (h : ∃ s ∈ ss, s.Paints x y) (color : α)
    (r : Raster α) : (drawAll ss color r).get? x y = (r.get? x y).map fun _ => color := by
  induction ss generalizing r with
  | nil => simp at h
  | cons s ss ih =>
    have hstep : drawAll (s :: ss) color r = drawAll ss color (s.draw color r) := rfl
    rw [hstep]
    by_cases hlater : ∃ s' ∈ ss, s'.Paints x y
    · -- A later shape writes the same color once more.
      rw [ih hlater]
      by_cases hs : s.Paints x y
      · rw [get?_draw_of_paints hs, Option.map_map]
        rfl
      · rw [get?_draw_of_not_paints hs]
    · have hs : s.Paints x y := by
        obtain ⟨s', hs', hpaints⟩ := h
        rcases List.mem_cons.1 hs' with rfl | hs'
        · exact hpaints
        · exact absurd ⟨s', hs', hpaints⟩ hlater
      have hnot : ∀ s' ∈ ss, ¬s'.Paints x y := fun s' hs' hp => hlater ⟨s', hs', hp⟩
      rw [get?_drawAll_of_not_paints hnot, get?_draw_of_paints hs]

theorem drawAll_perm [Inhabited α] {ss' : List Shape} (h : ss'.Perm ss) (color : α)
    (r : Raster α) : drawAll ss' color r = drawAll ss color r := by
  apply Raster.ext_get? ((size_drawAll ss' color r).trans (size_drawAll ss color r).symm)
  intro x y
  by_cases hpaints : ∃ s ∈ ss, s.Paints x y
  · obtain ⟨s, hs, hp⟩ := hpaints
    rw [get?_drawAll_of_paints ⟨s, hs, hp⟩, get?_drawAll_of_paints ⟨s, h.mem_iff.2 hs, hp⟩]
  · have hnot : ∀ s ∈ ss, ¬s.Paints x y := fun s hs hp => hpaints ⟨s, hs, hp⟩
    have hnot' : ∀ s ∈ ss', ¬s.Paints x y := fun s hs => hnot s (h.mem_iff.1 hs)
    rw [get?_drawAll_of_not_paints hnot, get?_drawAll_of_not_paints hnot']

end Shape

namespace Icon

theorem within_braceBox {n x : Int} (hn : 0 < n) (hx : x = n / 4 ∨ x = n * 3 / 4) {d : Dimensions}
    (hwidth : (d.width.toNat : Int) = n) (hheight : (d.height.toNat : Int) = n) :
    (braceBox n x).Within d := by
  intro a b h
  simp only [Box.Contains, braceBox] at h
  omega

theorem within_around {x y radius : Int} {d : Dimensions} (hleft : radius ≤ x) (htop : radius ≤ y)
    (hright : x + radius < d.width.toNat) (hbottom : y + radius < d.height.toNat) :
    (Box.around x y radius).Within d := by
  intro a b h
  simp only [Box.Contains, Box.around] at h
  omega

/-- The sparkles of icons with fewer than 13 pixels a side reach past the edge. -/
theorem within_sparkles_iff {n : Int} (hn : 0 < n) {d : Dimensions}
    (hwidth : (d.width.toNat : Int) = n) (hheight : (d.height.toNat : Int) = n) :
    (Box.around (n / 6) (n / 6) (sparkleRadius n)).Within d ∧
      (Box.around (n * 5 / 6) (n / 6) (sparkleRadius n)).Within d ∧
      (Box.around (n / 2) (n * 5 / 6) (sparkleRadius n)).Within d ↔ 13 ≤ n := by
  unfold sparkleRadius
  constructor
  · rintro ⟨-, hsparkle, -⟩
    have hedge := hsparkle (n * 5 / 6 + max (n / 32) 2) (n / 6)
    simp only [Box.Contains, Box.around] at hedge
    omega
  · intro hsize
    refine ⟨within_around ?_ ?_ ?_ ?_, within_around ?_ ?_ ?_ ?_, within_around ?_ ?_ ?_ ?_⟩
    all_goals omega

/-- The icon is square; a pixel is white if it belongs to one of the shapes, and has the color of its
row otherwise. -/
structure Depicts (size : UInt32) (icon : Raster Color) : Prop where
  size_eq : icon.size = ⟨size, size⟩
  white : ∀ x y, x < size.toNat → y < size.toNat → (∃ s ∈ shapes size, s.Paints x y) →
    icon.get? x y = some Color.white
  gradient : ∀ x y, x < size.toNat → y < size.toNat → (∀ s ∈ shapes size, ¬s.Paints x y) →
    icon.get? x y = some (gradientRow y.toUInt32 size)

theorem depicts_drawAll (size : UInt32) :
    Depicts size (Shape.drawAll (shapes size) Color.white (Icon.gradient size)) := by
  have hrow (x y : Nat) (hx : x < size.toNat) (hy : y < size.toNat) :
      (Icon.gradient size).get? x y = some (gradientRow y.toUInt32 size) :=
    Raster.get?_ofFn (d := ⟨size, size⟩) hx hy
  constructor
  case size_eq => exact Shape.size_drawAll _ _ _
  case white =>
    intro x y hx hy hpaints
    rw [Shape.get?_drawAll_of_paints hpaints, hrow x y hx hy, Option.map_some]
  case gradient =>
    intro x y hx hy hnot
    rw [Shape.get?_drawAll_of_not_paints hnot, hrow x y hx hy]

end Icon

theorem renderIcon_of_ne_zero {size : UInt32} (h : size ≠ 0) : renderIcon size =
    .ok (Shape.drawAll (Icon.shapes size) Color.white (Icon.gradient size)) := by
  rw [renderIcon, Icon.render?, if_neg h]
  rfl

/-- Every size but zero has its icon, of which each pixel is known. The shapes may be drawn in any
order, their pixels first found and then written, and none is written outside. Pixels outside of all
boxes show the gradient. The boxes of the braces lie on the icon; those of the sparkles are cut off
where they do not. -/
theorem depicts_renderIcon (size : UInt32) (h : size ≠ 0) :
    ∃ icon, renderIcon size = .ok icon ∧ Icon.Depicts size icon ∧
      (∀ order : List Shape, order.Perm (Icon.shapes size) →
        order.foldlM (fun r s => s.draw? Color.white r) (Icon.gradient size) = some icon) ∧
      (∀ x y, x < size.toNat → y < size.toNat →
        (∀ s ∈ Icon.shapes size, ¬s.box.Contains x y) →
          icon.get? x y = some (Icon.gradientRow y.toUInt32 size)) ∧
      (∀ s ∈ Icon.shapes size, ∀ x y, (x, y) ∈ s.hits icon.size ↔
        s.Paints x y ∧ x < size.toNat ∧ y < size.toNat) ∧
      (∃ left right width a b c, Icon.shapes size =
          [.arc left 90 270 width, .arc right 270 90 width, .disc a, .disc b, .disc c] ∧
        left.Within icon.size ∧ right.Within icon.size ∧
        (a.Within icon.size ∧ b.Within icon.size ∧ c.Within icon.size ↔ 13 ≤ size.toNat)) := by
  have hdepicts := Icon.depicts_drawAll size
  have hpos : 0 < (size.toNat : Int) :=
    Int.natCast_pos.2 (Nat.pos_of_ne_zero fun hzero => h (UInt32.toNat_inj.1 hzero))
  refine ⟨_, renderIcon_of_ne_zero h, hdepicts, ?_, ?_, ?_, ?_⟩
  · intro order horder
    rw [Shape.foldlM_draw?, Shape.drawAll_perm horder]
  · intro x y hx hy hbox
    exact hdepicts.gradient x y hx hy fun s hs hp => hbox s hs (Shape.paints_iff.1 hp).1
  · intro s _ x y
    rw [Shape.mem_hits, hdepicts.size_eq]
  · rw [hdepicts.size_eq]
    refine ⟨_, _, _, _, _, _, rfl, ?_, ?_, ?_⟩
    · exact Icon.within_braceBox hpos (.inl rfl) rfl rfl
    · exact Icon.within_braceBox hpos (.inr rfl) rfl rfl
    · exact (Icon.within_sparkles_iff hpos rfl rfl).trans Int.ofNat_le

namespace Icon

theorem paints_leftBrace (h : Float32.atan2 0 (-2) = Float32.ofBits 0x40490FDB) :
    (Shape.arc ⟨2, 4, 6, 12⟩ 90 270 2).Paints 2 8 := by
  have hx : Box.across ⟨2, 4, 6, 12⟩ 2 = -2 := by decide +kernel
  have hy : Box.down ⟨2, 4, 6, 12⟩ 8 = 0 := by decide +kernel
  refine .arc (by decide) (by decide) (by decide) ?_
  rw [InSector, hx, hy, h]
  exact .inl (by decide +kernel)

theorem paints_rightBrace (h : Float32.atan2 0 2 = 0) :
    (Shape.arc ⟨10, 4, 14, 12⟩ 270 90 2).Paints 14 8 := by
  have hx : Box.across ⟨10, 4, 14, 12⟩ 14 = 2 := by decide +kernel
  have hy : Box.down ⟨10, 4, 14, 12⟩ 8 = 0 := by decide +kernel
  refine .arc (by decide) (by decide) (by decide) ?_
  -- This sweep goes through zero.
  rw [InSector, hx, hy, h]
  exact .inr (by decide +kernel)

end Icon

/-- A sparkle that is cut off at the corner of a small icon, and a pixel outside of all boxes. In a
larger icon, with the angles of left and right as they should be, the outermost pixels of both braces,
and a pixel that one of them goes round. -/
theorem depicts_smallIcons :
    ((6 : UInt32) ≠ 0 ∧ ∃ icon, renderIcon 6 = .ok icon ∧ Icon.Depicts 6 icon ∧
      icon.get? 0 0 = some Color.white ∧ icon.get? 0 5 = some ⟨132, 93, 245⟩) ∧
    (16 : UInt32) ≠ 0 ∧ ∃ icon, renderIcon 16 = .ok icon ∧ Icon.Depicts 16 icon ∧
      (Float32.atan2 0 (-2) = Float32.ofBits 0x40490FDB → icon.get? 2 8 = some Color.white) ∧
      (Float32.atan2 0 2 = 0 → icon.get? 14 8 = some Color.white) ∧
      icon.get? 4 8 = some ⟨119, 97, 243⟩ := by
  constructor
  · obtain ⟨icon, hicon, hdepicts, -, hplain, -⟩ := depicts_renderIcon 6 (by decide)
    have hsparkle : Shape.disc (.around 1 1 2) ∈ Icon.shapes 6 :=
      List.mem_of_getElem? (show (Icon.shapes 6)[2]? = some _ from rfl)
    have hcorner : (Shape.disc (.around 1 1 2)).Paints 0 0 := .disc (by decide) (by decide)
    have hrow : Icon.gradientRow 5 6 = ⟨132, 93, 245⟩ := by decide
    refine ⟨by decide, icon, hicon, hdepicts, ?_, ?_⟩
    · exact hdepicts.white 0 0 (by decide) (by decide) ⟨_, hsparkle, hcorner⟩
    · rw [← hrow]
      exact hplain 0 5 (by decide) (by decide) (by decide)
  · obtain ⟨icon, hicon, hdepicts, -⟩ := depicts_renderIcon 16 (by decide)
    have hleft : Shape.arc ⟨2, 4, 6, 12⟩ 90 270 2 ∈ Icon.shapes 16 :=
      List.mem_of_getElem? (show (Icon.shapes 16)[0]? = some _ from rfl)
    have hright : Shape.arc ⟨10, 4, 14, 12⟩ 270 90 2 ∈ Icon.shapes 16 :=
      List.mem_of_getElem? (show (Icon.shapes 16)[1]? = some _ from rfl)
    have hgap : ∀ s ∈ Icon.shapes 16, ¬s.Paints 4 8 := by
      simp only [Shape.paints_iff]
      decide +kernel
    have hrow : Icon.gradientRow 8 16 = ⟨119, 97, 243⟩ := by decide
    refine ⟨by decide, icon, hicon, hdepicts, fun hangle => ?_, fun hangle => ?_, ?_⟩
    · exact hdepicts.white 2 8 (by decide) (by decide) ⟨_, hleft, Icon.paints_leftBrace hangle⟩
    · exact hdepicts.white 14 8 (by decide) (by decide) ⟨_, hright, Icon.paints_rightBrace hangle⟩
    · rw [← hrow]
      exact hdepicts.gradient 4 8 (by decide) (by decide) hgap

end Storefront
