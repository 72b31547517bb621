import Storefront.Proofs.Image.Canvas

/-! Pictures that have the size of the canvas: they fill it, and stay as they are on every pass. -/

namespace Storefront

variable {p : Picture} {c : Canvas} {r : Raster Color} {target : Dimensions}

theorem inside?_zero {length : UInt32} {n : Nat} (h : n < length.toNat) :
    inside? 0 length n = some n := by
  rw [inside?, if_pos ⟨Nat.zero_le n, by simpa using h⟩]
  rfl

theorem Canvas.compose_self (hsize : r.size = c.target) : c.compose ⟨c.target, 0, 0⟩ r = r := by
  rw [compose, ← hsize]
  apply Raster.ofFn_eq
  intro x y hx hy
  rw [inside?_zero hx, inside?_zero hy]
  simp only [Raster.get?, hx, hy, and_self, dite_true, Option.getD_some]

theorem Picture.flatten_rgb8 (r : Raster Color) (background : Color) :
    (Picture.rgb8 r).flatten background = r := by
  obtain ⟨size, pixels, hpixels⟩ := r
  have hid : (Color.ofSamples : Color → Color) = id := rfl
  simp [flatten, bitmap, Bitmap.over, Raster.map, hid]

theorem Picture.normalize_self (hsize : r.size = c.target) (htarget : c.target.isEmpty = false) :
    (Picture.rgb8 r).normalize c = .ok ⟨r, c.target, ⟨c.target, 0, 0⟩, false⟩ := by
  have hpicture : (Picture.rgb8 r).size = c.target := hsize
  have hcontent : (Picture.rgb8 r).content c.background c.target = r := by
    rw [content, if_pos hpicture.symm, flatten_rgb8]
  have hp : (Picture.rgb8 r).size.isEmpty = false := hpicture ▸ htarget
  have hscaled : (Picture.rgb8 r).size.fitWithin c.target = .ok c.target := by
    rw [hpicture, Dimensions.fitWithin_self htarget]
  refine normalize_eq_ok_iff.2 ⟨hp, htarget, c.target, hscaled, ?_⟩
  rw [Placement.centered_self, hcontent, Canvas.compose_self hsize, hpicture]
  rfl

theorem Picture.size_normalize {n : Normalized} (h : p.normalize c = .ok n) :
    n.image.size = c.target ∧ c.target.isEmpty = false :=
  ⟨(liesOn_of_normalize h).size, (exists_normalize_iff.1 ⟨n, h⟩).2⟩

/-- A picture laid on a canvas over and over, on the next background each time. -/
def passes (target : Dimensions) : Picture → List Color → Except ImageError (List Normalized)
  | _, [] => .ok []
  | p, background :: backgrounds => do
    let n ← p.normalize ⟨target, background⟩
    let rest ← passes target (.rgb8 n.image) backgrounds
    return n :: rest

theorem passes_cons {n : Normalized} {rest : List Normalized} {background : Color}
    {backgrounds : List Color} (hfirst : p.normalize ⟨target, background⟩ = .ok n)
    (hrest : passes target (.rgb8 n.image) backgrounds = .ok rest) :
    passes target p (background :: backgrounds) = .ok (n :: rest) := by
  unfold passes
  simp only [hfirst, hrest, bind, Except.bind]
  rfl

theorem passes_rgb8 (hsize : r.size = target) (htarget : target.isEmpty = false)
    (backgrounds : List Color) : passes target (.rgb8 r) backgrounds =
      .ok (backgrounds.map fun _ => ⟨r, target, ⟨target, 0, 0⟩, false⟩) := by
  induction backgrounds with
  | nil => rfl
  | cons background backgrounds ih =>
    -- The picture that is passed on is the one that came in.
    exact passes_cons (Picture.normalize_self hsize htarget) ih

/-- After the first pass nothing changes, whatever the backgrounds are. -/
theorem stable_passes (hp : p.size.isEmpty = false) (htarget : target.isEmpty = false)
    (background : Color) (backgrounds : List Color) : ∃ first,
      p.normalize ⟨target, background⟩ = .ok first ∧
      passes target p (background :: backgrounds) =
        .ok (first :: backgrounds.map fun _ => ⟨first.image, target, ⟨target, 0, 0⟩, false⟩) := by
  obtain ⟨first, hfirst⟩ :=
    (Picture.exists_normalize_iff (c := ⟨target, background⟩)).2 ⟨hp, htarget⟩
  have hsize := (Picture.size_normalize hfirst).1
  exact ⟨first, hfirst, passes_cons hfirst (passes_rgb8 hsize htarget backgrounds)⟩

theorem stable_grayPair : ∃ first, Picture.grayPair.normalize ⟨⟨2, 4⟩, Color.white⟩ = .ok first ∧
    passes ⟨2, 4⟩ Picture.grayPair [Color.white, Color.black, Color.white] =
      .ok [first, ⟨first.image, ⟨2, 4⟩, ⟨⟨2, 4⟩, 0, 0⟩, false⟩,
        ⟨first.image, ⟨2, 4⟩, ⟨⟨2, 4⟩, 0, 0⟩, false⟩] :=
  stable_passes rfl rfl Color.white [Color.black, Color.white]

end Storefront
