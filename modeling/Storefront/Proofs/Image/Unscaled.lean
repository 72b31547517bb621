import Storefront.Proofs.Image.Canvas

/-! Pictures that keep their pixels: those that lie inside the canvas and reach from edge to edge of it,
which is also what every fitted size does. -/

namespace Storefront

variable {source target scaled : Dimensions} {p : Picture} {c : Canvas} {n : Normalized}

theorem Dimensions.fitWithin_fitted (ht : target.isEmpty = false)
    (h : source.fitWithin target = .ok scaled) : scaled.fitWithin target = .ok scaled :=
  (fills_of_fitWithin ht h).fitWithin (not_isEmpty_of_fitWithin h)

namespace Picture

/-- A picture is resampled unless it fills its canvas, and then each of its pixels stands on it. -/
structure KeepsPixels (p : Picture) (c : Canvas) (n : Normalized) : Prop where
  scaled : n.placement.scaled = p.size ↔ p.size.Fills c.target
  image : n.image = c.compose n.placement
    (if p.size.Fills c.target then p.flatten c.background
      else (p.flatten c.background).resample n.placement.scaled)
  pixels : p.size.Fills c.target → ∀ x y, x < p.size.width.toNat → y < p.size.height.toNat →
    n.image.get? (n.placement.offsetX.toNat + x) (n.placement.offsetY.toNat + y) =
      (p.flatten c.background).get? x y

theorem LiesOn.get?_of_scaled (h : p.LiesOn c n) (hscaled : n.placement.scaled = p.size) {x y : Nat}
    (hx : x < p.size.width.toNat) (hy : y < p.size.height.toNat) :
    n.image.get? (n.placement.offsetX.toNat + x) (n.placement.offsetY.toNat + y) =
      (p.flatten c.background).get? x y := by
  have hcovers : n.placement.Covers (n.placement.offsetX.toNat + x)
      (n.placement.offsetY.toNat + y) :=
    Placement.covers_add (hscaled ▸ hx) (hscaled ▸ hy)
  obtain ⟨color, hcolor, hcontent⟩ := h.inside _ _ hcovers
  rw [Nat.add_sub_cancel_left, Nat.add_sub_cancel_left, content, if_pos hscaled] at hcontent
  rw [hcolor, hcontent]

theorem keepsPixels_of_normalize (h : p.normalize c = .ok n) : p.KeepsPixels c n := by
  have hlies := liesOn_of_normalize h
  obtain ⟨hp, hc, scaled, hscaled, rfl⟩ := normalize_eq_ok_iff.1 h
  have hsame : scaled = p.size ↔ p.size.Fills c.target := by
    rw [← Dimensions.fitWithin_eq_self_iff hp hc, hscaled, Except.ok.injEq]
  have himage : p.content c.background scaled =
      if p.size.Fills c.target then p.flatten c.background
      else (p.flatten c.background).resample scaled := by
    simp only [content, hsame]
  refine ⟨hsame, congrArg (c.compose _) himage, ?_⟩
  intro hfills x y hx hy
  exact hlies.get?_of_scaled (hsame.2 hfills) hx hy

end Picture

/-- A fitted size is fitted already, the sizes that fitting leaves alone are those that fill the target,
and only pictures of other sizes are resampled. -/
theorem fixed_fitWithin (hs : source.isEmpty = false) (ht : target.isEmpty = false) :
    (∃ scaled, source.fitWithin target = .ok scaled ∧ scaled.fitWithin target = .ok scaled) ∧
    (source.fitWithin target = .ok source ↔ source.Fills target) ∧
    ∀ (p : Picture) (background : Color), p.size = source →
      ∃ n, p.normalize ⟨target, background⟩ = .ok n ∧ p.KeepsPixels ⟨target, background⟩ n := by
  refine ⟨?_, Dimensions.fitWithin_eq_self_iff hs ht, ?_⟩
  · obtain ⟨scaled, hscaled⟩ := Dimensions.exists_fitWithin hs target
    exact ⟨scaled, hscaled, Dimensions.fitWithin_fitted ht hscaled⟩
  · rintro p background rfl
    obtain ⟨n, hn⟩ := (Picture.exists_normalize_iff (c := ⟨target, background⟩)).2 ⟨hs, ht⟩
    exact ⟨n, hn, Picture.keepsPixels_of_normalize hn⟩

/-- Two pixels side by side fill a canvas of their width. -/
theorem fixed_grayPair : Dimensions.fitWithin ⟨2, 1⟩ ⟨2, 4⟩ = .ok ⟨2, 1⟩ ∧
    ∃ n, Picture.grayPair.normalize ⟨⟨2, 4⟩, Color.white⟩ = .ok n ∧ n.placement.scaled = ⟨2, 1⟩ ∧
      Picture.grayPair.KeepsPixels ⟨⟨2, 4⟩, Color.white⟩ n := by
  obtain ⟨-, hfixed, hpictures⟩ := @fixed_fitWithin ⟨2, 1⟩ ⟨2, 4⟩ rfl rfl
  obtain ⟨n, hn, hkeeps⟩ := hpictures Picture.grayPair Color.white rfl
  exact ⟨hfixed.2 (by decide), n, hn, hkeeps.scaled.2 (by decide), hkeeps⟩

end Storefront
