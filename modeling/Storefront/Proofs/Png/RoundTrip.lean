import Storefront.Proofs.Image.FixedPoint
import Storefront.Proofs.Png.Pixels

/-! Files that were written here read as the pictures that were written. -/

namespace Storefront.Png

open Deflate

variable {d : Dimensions} {r : Raster Color}

theorem toList_pack (parts : List (List UInt8)) : (pack parts).data.toList = parts.flatten := by
  have hpart (part : List UInt8) (file : ByteArray) :
      (part.foldl ByteArray.push file).data.toList = file.data.toList ++ part := by
    induction part generalizing file with
    | nil => simp
    | cons c part ih =>
      rw [List.foldl_cons, ih, ByteArray.data_push, Array.toList_push, List.append_assoc]
      rfl
  have hparts (file : ByteArray) :
      (parts.foldl (fun file part => part.foldl ByteArray.push file) file).data.toList =
        file.data.toList ++ parts.flatten := by
    induction parts generalizing file with
    | nil => simp
    | cons part parts ih => rw [List.foldl_cons, ih, hpart, List.flatten_cons, List.append_assoc]
  rw [pack, hparts]
  rfl

theorem read_headerContent (hd : d.isEmpty = false) :
    Header.read (headerContent d) = .ok (.plain d) := by
  obtain ⟨w1, w2, w3, w4, hwidth, hw⟩ := word_bigEndian d.width
  obtain ⟨h1, h2, h3, h4, hheight, hh⟩ := word_bigEndian d.height
  rw [headerContent, hwidth, hheight]
  simp only [List.cons_append, List.nil_append, Header.read, hw, hh, hd]
  rfl

theorem readSignature_append (rest : List UInt8) : readSignature (signature ++ rest) = .ok rest := rfl

theorem pictureBytes_plain (d : Dimensions) : (Header.plain d).pictureBytes false = d.area * 3 := rfl

theorem readHeader_write (hd : d.isEmpty = false) (rest : List UInt8) :
    readHeader (Chunk.write Chunk.header (headerContent d) ++ rest) =
      if addressable ≤ d.area * 3 then .error .tooLarge else .ok (.plain d, rest) := by
  have hread : readAncillary (headerContent d).length Chunk.header
      (Chunk.body Chunk.header (headerContent d) ++ rest) = .ok (some (headerContent d), rest) :=
    readAncillary_body rest rfl rfl
  have hlength : (headerContent d).length < 2 ^ 32 := show 13 < 2 ^ 32 by decide
  rw [readHeader, readStart_write rfl hlength]
  show (readAncillary _ _ _ >>= _) = _
  rw [hread]
  show (Header.read (headerContent d) >>= _) = _
  rw [read_headerContent hd, ← pictureBytes_plain]
  show (if addressable ≤ (Header.plain d).pictureBytes false then _ else _) = _
  split <;> rfl

theorem length_le_flatten_write (parts : List (List UInt8)) :
    parts.length ≤ ((parts.map (Chunk.write Chunk.imageData)).flatten).length := by
  induction parts with
  | nil => exact Nat.le_refl _
  | cons part parts ih =>
    rw [List.map_cons, List.flatten_cons, List.length_append, Chunk.length_write, List.length_cons]
    omega

theorem read_imageData (hwidth : r.size.width ≠ 0) (hheight : r.size.height ≠ 0)
    {part : List UInt8} {parts : List (List UInt8)} (hstore : store (rows r) = part :: parts)
    (offset : Nat) {fuel : Nat} (hfuel : parts.length < fuel) :
    ImageData.read (.ofHeader (.plain r.size)) fuel offset part.length
      (Chunk.body Chunk.imageData part ++
        ((parts.map (Chunk.write Chunk.imageData)).flatten ++ Chunk.write Chunk.last [])) =
      .ok (rows r).flatten := by
  have hpos : 0 < r.size.height.toNat :=
    Nat.pos_of_ne_zero fun h => hheight (UInt32.toNat_inj.1 h)
  have hne : rows r ≠ [] := by
    apply List.ne_nil_of_length_pos
    rwa [rows, List.length_map, List.length_range]
  have hroom : (Header.plain r.size).dataRoom = ((rows r).flatten).length := by
    rw [Header.dataRoom_plain, rows_eq, length_flatten_rows (length_of_mem_lines r), length_lines]
  have hahead : Rows.Ahead (.ofHeader (.plain r.size)) (rows r).flatten
      (3 * r.size.width.toNat + 1) r.size.height.toNat 0 := by
    rw [rows_eq, ← length_lines]
    exact ahead_rows rfl (length_of_mem_lines r)
  have hgroups : (Preface.ofHeader (.plain r.size)).header.rowGroups =
      [(r.size.height.toNat, 3 * r.size.width.toNat + 1)] := Header.rowGroups_plain r.size hwidth
  exact ImageData.read_store hne hgroups hpos (Nat.succ_pos _) hroom hahead hstore offset hfuel

theorem decodeWithin_of_parts {bytes rest : List UInt8} {h : Header} {p : Preface} {length : Nat}
    {room : Option Nat} {rest' rest'' data : List UInt8} {layers : List Layer} (hsignature : readSignature bytes = .ok rest)
    (hheader : readHeader rest = .ok (h, rest'))
    (hpreface : readPreface rest'.length (.ofHeader h) rest' = .ok (p, length, rest''))
    (hroom : ∀ n ∈ room, h.pictureBytes p.transparency.isSome ≤ n)
    (hdata : ImageData.read p rest''.length (bytes.length - rest''.length) length rest'' = .ok data)
    (hlayers : readLayers h h.passes data = .ok layers) :
    decodeWithin room bytes = .ok (h, assemble p (sampleAt h layers)) := by
  have hany : ¬ room.any (· < h.pictureBytes p.transparency.isSome) := by
    simpa [Option.any_eq_true] using hroom
  simp only [decodeWithin, hsignature, hheader, hpreface, hdata, hlayers, if_neg hany, bind, pure,
    Except.bind, Except.pure]

theorem decodeWithin_of_tooLarge {bytes rest : List UInt8} {h : Header} {p : Preface}
    {length room : Nat} {rest' rest'' : List UInt8} (hsignature : readSignature bytes = .ok rest)
    (hheader : readHeader rest = .ok (h, rest'))
    (hpreface : readPreface rest'.length (.ofHeader h) rest' = .ok (p, length, rest''))
    (hroom : room < h.pictureBytes p.transparency.isSome) :
    decodeWithin (some room) bytes = .error .tooLarge := by
  have hany : (some room).any (· < h.pictureBytes p.transparency.isSome) := by
    simpa using hroom
  simp only [decodeWithin, hsignature, hheader, hpreface, if_pos hany, bind, Except.bind]
  rfl

theorem toList_of_encode {file : ByteArray} (h : encode r = .ok file) :
    r.size.isEmpty = false ∧ ∃ part parts, store (rows r) = part :: parts ∧ part.length < 2 ^ 32 ∧
      file.data.toList = signature ++
        (Chunk.write Chunk.header (headerContent r.size) ++ (Chunk.write Chunk.imageData part ++
          ((parts.map (Chunk.write Chunk.imageData)).flatten ++ Chunk.write Chunk.last []))) := by
  unfold encode at h
  split at h
  · contradiction
  next hwidth =>
    split at h
    · contradiction
    next hheight =>
      cases h
      refine ⟨?_, ?_⟩
      · rw [Bool.eq_false_iff]
        intro hempty
        exact (Dimensions.isEmpty_iff.1 hempty).elim hwidth hheight
      · obtain ⟨part, parts, hstore⟩ : ∃ part parts, store (rows r) = part :: parts := ⟨_, _, rfl⟩
        refine ⟨part, parts, hstore, ?_, ?_⟩
        · have hshort := length_of_mem_store (hstore ▸ List.mem_cons_self)
          rw [maxStored] at hshort
          omega
        · rw [toList_pack, fileParts, hstore]
          simp

/-- A picture is read from its file, if it is not too large for the reader. -/
theorem decodeWithin_encode {file : ByteArray} (h : encode r = .ok file) {room : Option Nat}
    (hroom : ∀ n ∈ room, r.size.area * 3 ≤ n) (harea : r.size.area * 3 < addressable) :
    decodeWithin room file.data.toList = .ok (.plain r.size, .rgb8 r) := by
  obtain ⟨hd, part, parts, hstore, hpart, hfile⟩ := toList_of_encode h
  obtain ⟨hwidth, hheight⟩ := Dimensions.ne_zero_of_not_isEmpty hd
  have hwritten := length_le_flatten_write parts
  have hlong := Chunk.length_write_pos Chunk.imageData part
  have hlast : (Chunk.write Chunk.last []).length = 12 := rfl
  have hheader := readHeader_write hd (Chunk.write Chunk.imageData part ++
    ((parts.map (Chunk.write Chunk.imageData)).flatten ++ Chunk.write Chunk.last []))
  rw [if_neg (Nat.not_le_of_lt harea)] at hheader
  rw [hfile, decodeWithin_of_parts (readSignature_append _) hheader
    (readPreface_imageData _ hpart _ (by rw [List.length_append]; omega)) hroom
    (read_imageData hwidth hheight hstore _ (by simp only [List.length_append]; omega))
    (readLayers_rows r hwidth), assemble_rows]

theorem decodeWithin_encode_tooLarge {file : ByteArray} (h : encode r = .ok file) {room : Nat}
    (harea : room < r.size.area * 3) :
    decodeWithin (some room) file.data.toList = .error .tooLarge := by
  obtain ⟨hd, part, parts, -, hpart, hfile⟩ := toList_of_encode h
  have hlong := Chunk.length_write_pos Chunk.imageData part
  -- It is refused for its room, or at its header already.
  rcases Nat.lt_or_ge (r.size.area * 3) addressable with hless | hmore
  · have hheader := readHeader_write hd (Chunk.write Chunk.imageData part ++
      ((parts.map (Chunk.write Chunk.imageData)).flatten ++ Chunk.write Chunk.last []))
    rw [if_neg (Nat.not_le_of_lt hless)] at hheader
    rw [hfile]
    exact decodeWithin_of_tooLarge (readSignature_append _) hheader
      (readPreface_imageData _ hpart _ (by rw [List.length_append]; omega)) harea
  · rw [hfile, decodeWithin, readSignature_append]
    show (readHeader _ >>= _) = _
    rw [readHeader_write hd, if_pos hmore]
    rfl

end Storefront.Png
