import Storefront.Image.Raster

/-! A raster is given by its pixels column by column and row by row, and its rows make it up. -/

namespace Storefront.Raster

variable {α β γ : Type} {r : Raster α} {f : Nat → Nat → α} {x y : Nat}

theorem get?_eq_get (hx : x < r.size.width.toNat) (hy : y < r.size.height.toNat) :
    r.get? x y = some (r.get x y hx hy) :=
  dif_pos ⟨hx, hy⟩

theorem get?_ofFn {d : Dimensions} (hx : x < d.width.toNat) (hy : y < d.height.toNat) :
    (ofFn d f).get? x y = some (f x y) := by
  rw [get?_eq_get hx hy, get_ofFn]

theorem ofFn_eq (h : ∀ x y hx hy, f x y = r.get x y hx hy) : ofFn r.size f = r := by
  obtain ⟨size, pixels, hpixels⟩ := r
  simp only [ofFn, mk.injEq, true_and]
  apply Array.ext
  · rw [Array.size_ofFn, hpixels]
  · intro i hi hi'
    rw [Array.size_ofFn, Dimensions.area] at hi
    have hwidth : 0 < size.width.toNat := by
      apply Nat.pos_of_ne_zero
      intro hzero
      rw [hzero, Nat.zero_mul] at hi
      omega
    have hy : i / size.width.toNat < size.height.toNat :=
      Nat.div_lt_of_lt_mul hi
    -- Column and row of a pixel give its index back.
    rw [Array.getElem_ofFn, h _ _ (Nat.mod_lt i hwidth) hy]
    simp only [get, Nat.div_add_mod']

theorem lt_pixels_of_row {y : Nat} (hy : y < r.size.height.toNat) :
    (y + 1) * r.size.width.toNat ≤ r.pixels.size := by
  rw [r.pixels_size, Dimensions.area, Nat.mul_comm r.size.width.toNat]
  exact Nat.mul_le_mul_right _ hy

theorem size_row {y : Nat} (hy : y < r.size.height.toNat) :
    (r.row y).size = r.size.width.toNat := by
  have := lt_pixels_of_row hy
  rw [row, Array.size_extract, Nat.min_eq_left this, Nat.succ_mul, Nat.add_sub_cancel_left]

theorem flatMap_row_take (r : Raster α) (n : Nat) :
    (List.range n).flatMap (fun y => (r.row y).toList) =
      r.pixels.toList.take (n * r.size.width.toNat) := by
  induction n with
  | zero => simp
  | succ n ih =>
    rw [List.range_succ, List.flatMap_append, ih, List.flatMap_singleton, row, Array.toList_extract,
      Nat.succ_mul, List.take_add]
    simp [List.extract_eq_take_drop]

theorem flatMap_row (r : Raster α) :
    (List.range r.size.height.toNat).flatMap (fun y => (r.row y).toList) = r.pixels.toList := by
  rw [flatMap_row_take]
  apply List.take_of_length_le
  have hlength : r.pixels.toList.length = r.size.height.toNat * r.size.width.toNat := by
    rw [Array.length_toList, r.pixels_size, Dimensions.area, Nat.mul_comm]
  exact Nat.le_of_eq hlength

theorem get?_map (f : α → β) (r : Raster α) (x y : Nat) :
    (r.map f).get? x y = (r.get? x y).map f := by
  by_cases h : x < r.size.width.toNat ∧ y < r.size.height.toNat
  · rw [get?_eq_get (r := r.map f) h.1 h.2, get?_eq_get h.1 h.2, get_map, Option.map_some]
  · have hmap : (r.map f).get? x y = none := dif_neg h
    rw [hmap, get?, dif_neg h, Option.map_none]

theorem lt_of_get? {r : Raster α} {a : α} (h : r.get? x y = some a) :
    x < r.size.width.toNat ∧ y < r.size.height.toNat := by
  unfold get? at h
  split at h
  next hxy => exact hxy
  next => contradiction

theorem map_map (f : α → β) (g : β → γ) (r : Raster α) : (r.map f).map g = r.map (g ∘ f) := by
  simp only [map, Array.map_map]

theorem ext_get? [Inhabited α] {r s : Raster α} (hsize : r.size = s.size)
    (h : ∀ x y, r.get? x y = s.get? x y) : r = s := by
  have hfn (t : Raster α) : ofFn t.size (fun x y => (t.get? x y).getD default) = t := by
    apply ofFn_eq
    intro x y hx hy
    rw [get?_eq_get hx hy, Option.getD_some]
  have hpixel : (fun x y => (r.get? x y).getD default) = fun x y => (s.get? x y).getD default := by
    funext x y
    rw [h]
  rw [← hfn r, ← hfn s, hsize, hpixel]

theorem index_inj {w x y x' y' : Nat} (hx : x < w) (hx' : x' < w) :
    y * w + x = y' * w + x' ↔ x = x' ∧ y = y' := by
  constructor
  · intro h
    have hcolumn := congrArg (· % w) h
    have hrow := congrArg (· / w) h
    simp only [Nat.mul_comm _ w, Nat.mul_add_mod, Nat.mod_eq_of_lt, hx, hx'] at hcolumn
    simp only [Nat.mul_comm _ w, Nat.mul_add_div (Nat.zero_lt_of_lt hx), Nat.div_eq_of_lt, hx, hx',
      Nat.add_zero] at hrow
    exact ⟨hcolumn, hrow⟩
  · rintro ⟨rfl, rfl⟩
    rfl

theorem get?_set (r : Raster α) (a b x y : Nat) (p : α) :
    (r.set a b p).get? x y = if x = a ∧ y = b then (r.get? x y).map fun _ => p else r.get? x y := by
  by_cases h : x < r.size.width.toNat ∧ y < r.size.height.toNat
  · rw [get?_eq_get (r := r.set a b p) h.1 h.2, get?_eq_get h.1 h.2]
    have hlt : y * r.size.width.toNat + x < r.pixels.size := r.pixels_size ▸ index_lt h.1 h.2
    by_cases ha : a < r.size.width.toNat
    · simp only [get, set, if_pos ha, Array.getElem_setIfInBounds hlt, index_inj ha h.1,
        Option.map_some, eq_comm (a := a), eq_comm (a := b)]
      split <;> rfl
    · have hne : ¬(x = a ∧ y = b) := by omega
      simp only [get, set, if_neg ha, if_neg hne]
  · have hset : (r.set a b p).get? x y = none := dif_neg h
    have hnone : r.get? x y = none := dif_neg h
    rw [hset, hnone, Option.map_none, ite_self]

theorem map_eq_map [Inhabited γ] {r : Raster α} {s : Raster β} {f : α → γ} {g : β → γ}
    (hsize : r.size = s.size) (h : ∀ x y, (r.get? x y).map f = (s.get? x y).map g) :
    r.map f = s.map g := by
  apply ext_get? (show (r.map f).size = (s.map g).size from hsize)
  intro x y
  rw [get?_map, get?_map, h]

end Storefront.Raster
