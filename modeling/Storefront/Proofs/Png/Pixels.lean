import Storefront.Png.Decode
import Storefront.Png.Encode
import Storefront.Proofs.Image.Raster
import Storefront.Proofs.Png.Data

/-! Pixels from unfiltered rows of three bytes a pixel: the picture that was written. -/

namespace Storefront.Png

def Header.plain (d : Dimensions) : Header := ⟨d, .eight, .rgb, false⟩

namespace Header

variable (d : Dimensions)

theorem columns_plain : Pass.whole.columns d = d.width.toNat := by
  simp [Pass.columns, Pass.count, Pass.whole]

theorem lines_plain : Pass.whole.lines d = d.height.toNat := by
  simp [Pass.lines, Pass.count, Pass.whole]

theorem rows_plain (hwidth : d.width ≠ 0) : Pass.whole.rows d = d.height.toNat := by
  have hne : d.width.toNat ≠ 0 := fun h => hwidth (UInt32.toNat_inj.1 h)
  rw [Pass.rows, columns_plain, if_neg hne, lines_plain]

theorem rowBytes_plain (n : Nat) : (plain d).rowBytes n = 3 * n := by
  show (n * 3 * 8 + 7) / 8 = 3 * n
  omega

theorem rowGroups_plain (hwidth : d.width ≠ 0) :
    (plain d).rowGroups = [(d.height.toNat, 3 * d.width.toNat + 1)] := by
  show [(Pass.whole.rows d, (plain d).rowBytes (Pass.whole.columns d) + 1)] = _
  rw [rows_plain d hwidth, columns_plain, rowBytes_plain]

theorem dataRoom_plain : (plain d).dataRoom = d.height.toNat * (3 * d.width.toNat + 1) := by
  show 0 + Pass.whole.lines d * ((plain d).rowBytes (Pass.whole.columns d) + 1) = _
  rw [lines_plain, columns_plain, rowBytes_plain, Nat.zero_add]

end Header

variable {r : Raster Color} {ls : List (List UInt8)} {n : Nat}

def line (r : Raster Color) (y : Nat) : List UInt8 :=
  (r.row y).toList.flatMap colorBytes

def lines (r : Raster Color) : List (List UInt8) :=
  (List.range r.size.height.toNat).map (line r)

theorem rows_eq (r : Raster Color) : rows r = (lines r).map (0 :: ·) := by
  rw [rows, lines, List.map_map]
  rfl

theorem length_flatMap_colorBytes (cs : List Color) :
    (cs.flatMap colorBytes).length = 3 * cs.length := by
  induction cs with
  | nil => rfl
  | cons c cs ih =>
    rw [List.flatMap_cons, List.length_append, ih, List.length_cons]
    show 3 + 3 * cs.length = _
    omega

theorem length_of_mem_lines (r : Raster Color) :
    ∀ l ∈ lines r, l.length = 3 * r.size.width.toNat := by
  intro l h
  obtain ⟨y, hy, rfl⟩ := List.mem_map.1 h
  rw [line, length_flatMap_colorBytes, Array.length_toList, Raster.size_row (List.mem_range.1 hy)]

theorem length_lines (r : Raster Color) : (lines r).length = r.size.height.toNat := by
  rw [lines, List.length_map, List.length_range]

theorem flatten_lines (r : Raster Color) : (lines r).flatten = r.pixels.toList.flatMap colorBytes := by
  rw [← Raster.flatMap_row, List.flatMap_assoc]
  rfl

theorem length_flatten_rows (hls : ∀ l ∈ ls, l.length = n) :
    ((ls.map (0 :: ·)).flatten).length = ls.length * (n + 1) := by
  induction ls with
  | nil => simp
  | cons l ls ih =>
    have hl := hls l List.mem_cons_self
    rw [List.map_cons, List.flatten_cons, List.length_append, List.length_cons, hl,
      ih (fun k hk => hls k (List.mem_cons_of_mem l hk)), List.length_cons, Nat.succ_mul]
    omega

theorem getD_rows (hls : ∀ l ∈ ls, l.length = n) (i : Nat) :
    ((ls.map (0 :: ·)).flatten).getD (i * (n + 1)) 0 = 0 := by
  induction ls generalizing i with
  | nil => rfl
  | cons l ls ih =>
    have hl := hls l List.mem_cons_self
    rw [List.map_cons, List.flatten_cons, List.getD_eq_getElem?_getD]
    cases i with
    | zero =>
      rw [Nat.zero_mul]
      rfl
    | succ i =>
      rw [List.getElem?_append_right (by rw [List.length_cons, hl, Nat.succ_mul]; omega),
        List.length_cons, hl, Nat.succ_mul, Nat.add_sub_cancel, ← List.getD_eq_getElem?_getD]
      exact ih (fun k hk => hls k (List.mem_cons_of_mem l hk)) i

theorem ahead_rows {p : Preface} (hpalette : p.lacksPalette = false) (hls : ∀ l ∈ ls, l.length = n) :
    Rows.Ahead p (ls.map (0 :: ·)).flatten (n + 1) ls.length 0 where
  total := by rw [Nat.zero_add, length_flatten_rows hls]
  clean i hi := by
    rw [Nat.zero_add, getD_rows hls, Rows.fault?, hpalette]
    rfl

theorem unfilter_rows (hls : ∀ l ∈ ls, l.length = n) (stride : Nat) (above : Array UInt8)
    (rest : List UInt8) :
    unfilter stride n ls.length above ((ls.map (0 :: ·)).flatten ++ rest) =
      .ok (ls.map List.toArray, rest) := by
  induction ls generalizing above with
  | nil => rfl
  | cons l ls ih =>
    have hl := hls l List.mem_cons_self
    have hrest := ih (fun k hk => hls k (List.mem_cons_of_mem l hk)) l.toArray
    rw [List.map_cons, List.flatten_cons, List.append_assoc, List.length_cons, List.cons_append,
      unfilter, List.take_left' hl, List.drop_left' hl, if_neg (by omega)]
    show (unfilter stride n ls.length l.toArray _ >>= _) = _
    rw [hrest]
    rfl

theorem joinRows_eight (hls : ∀ l ∈ ls, l.length = n) :
    joinRows .eight n (ls.map List.toArray) = (ls.flatten.map UInt8.toUInt16).toArray := by
  have hfold (samples : Array UInt16) :
      (ls.map List.toArray).foldl (fun samples row => samples ++ (unpack .eight row).extract 0 n)
        samples = samples ++ (ls.flatten.map UInt8.toUInt16).toArray := by
    induction ls generalizing samples with
    | nil => simp
    | cons l ls ih =>
      have hl := hls l List.mem_cons_self
      have hrow : (unpack .eight l.toArray).extract 0 n = (l.map UInt8.toUInt16).toArray := by
        have hsize : (l.map UInt8.toUInt16).length ≤ n := Nat.le_of_eq (by rw [List.length_map, hl])
        rw [unpack, List.map_toArray, List.extract_toArray, List.extract_eq_take_drop, List.drop_zero,
          Nat.sub_zero, List.take_of_length_le hsize]
      rw [List.map_cons, List.foldl_cons, hrow, ih (fun k hk => hls k (List.mem_cons_of_mem l hk)),
        List.flatten_cons, List.map_append, Array.append_assoc]
      simp
  rw [joinRows, hfold]
  simp

theorem getD_channels (cs : List Color) {i : Nat} (hi : i < cs.length) (c : Nat) (hc : c < 3) :
    ((cs.flatMap colorBytes).map UInt8.toUInt16).getD (i * 3 + c) 0 =
      ((colorBytes cs[i]).getD c 0).toUInt16 := by
  induction cs generalizing i with
  | nil => simp at hi
  | cons color cs ih =>
    cases i with
    | zero =>
      match c, hc with
      | 0, _ | 1, _ | 2, _ => rfl
    | succ i =>
      rw [Nat.succ_mul, Nat.add_right_comm]
      exact ih (Nat.lt_of_succ_lt_succ hi)

theorem visits_whole (x y : Nat) : Pass.whole.visits x y = true := by
  simp [Pass.visits, Pass.whole, Nat.mod_one]

theorem sampleAt_whole (d : Dimensions) (samples : Array UInt16) (x y c : Nat) :
    sampleAt (.plain d) [⟨.whole, samples⟩] x y c =
      samples.getD ((y * d.width.toNat + x) * 3 + c) 0 := by
  have hfind : [(⟨.whole, samples⟩ : Layer)].find? (fun l => l.pass.visits x y) =
      some ⟨.whole, samples⟩ := List.find?_cons_of_pos (visits_whole x y)
  rw [sampleAt, hfind]
  show samples.getD (Pass.whole.index d x y * 3 + c) 0 = _
  rw [Pass.index, Header.columns_plain]
  simp [Pass.whole]

theorem readLayers_rows (r : Raster Color) (hwidth : r.size.width ≠ 0) :
    readLayers (.plain r.size) [.whole] (rows r).flatten =
      .ok [⟨.whole, ((r.pixels.toList.flatMap colorBytes).map UInt8.toUInt16).toArray⟩] := by
  have hunfilter := unfilter_rows (length_of_mem_lines r) (Header.plain r.size).stride
    #[] []
  rw [List.append_nil, ← rows_eq, length_lines] at hunfilter
  have hjoin : joinRows .eight (Pass.whole.columns r.size * 3) ((lines r).map List.toArray) =
      ((r.pixels.toList.flatMap colorBytes).map UInt8.toUInt16).toArray := by
    rw [Header.columns_plain, Nat.mul_comm, joinRows_eight (length_of_mem_lines r), flatten_lines]
  rw [← hjoin]
  show (unfilter _ ((Header.plain r.size).rowBytes (Pass.whole.columns r.size))
    (Pass.whole.rows r.size) #[] _ >>= _) = _
  rw [Header.rows_plain _ hwidth, Header.rowBytes_plain, Header.columns_plain, hunfilter]
  show Except.ok [(⟨.whole, joinRows .eight (Pass.whole.columns r.size * 3) _⟩ : Layer)] = _
  rw [Header.columns_plain]

theorem assemble_rows (r : Raster Color) :
    assemble (.ofHeader (.plain r.size)) (sampleAt (.plain r.size)
      [⟨.whole, ((r.pixels.toList.flatMap colorBytes).map UInt8.toUInt16).toArray⟩]) = .rgb8 r := by
  refine congrArg Picture.rgb8 (Raster.ofFn_eq ?_)
  intro x y hx hy
  have hi : y * r.size.width.toNat + x < r.pixels.toList.length := by
    rw [Array.length_toList, r.pixels_size]
    exact Raster.index_lt hx hy
  have hsample (c : Nat) (hc : c < 3) : (sampleAt (.plain r.size)
      [⟨.whole, ((r.pixels.toList.flatMap colorBytes).map UInt8.toUInt16).toArray⟩] x y c).toUInt8 =
      (colorBytes (r.get x y hx hy)).getD c 0 := by
    rw [sampleAt_whole, Array.getD_eq_getD_getElem?, List.getElem?_toArray,
      ← List.getD_eq_getElem?_getD, getD_channels _ hi c hc, UInt8.toUInt8_toUInt16]
    rfl
  dsimp only
  rw [hsample 0 (by decide), hsample 1 (by decide), hsample 2 (by decide)]
  rfl

end Storefront.Png
