import Storefront.Proofs.Batch.Course
import Storefront.Proofs.Png.RoundTrip

/-! Outputs opened again: files with the extension of a PNG, which hold a picture of the size of the
canvas. They are prepared as they are, or not at all. -/

namespace Storefront

variable {p : Path} {name : String} {r : Raster Color} {c : Canvas} {file : ByteArray}

theorem imageFormat_of_hasPngExtension (hp : p.fileName? = some name) (hname : HasPngExtension name) :
    imageFormat p = .ok .png := by
  obtain ⟨e, he, hlower⟩ := hasPngExtension_iff.1 hname
  have hextension : p.extension? = some e := by rw [Path.extension?, hp, Option.bind_some, he]
  have hne : e ≠ "" := by
    rintro rfl
    contradiction
  have hformat : ImageFormat.ofExtension? e = some .png := by
    rw [ImageFormat.ofExtension?, hlower]
    rfl
  rw [imageFormat, hextension]
  simp only [hne, if_false, hformat]

variable [Codecs]

theorem openPicture_encode (hp : p.fileName? = some name) (hname : HasPngExtension name)
    (hfile : Png.encode r = .ok file) : openPicture p (.ok file) =
      if r.size.area * 3 ≤ maxPictureBytes then .ok (.rgb8 r) else .error (.png .tooLarge) := by
  have hdecode : (ImageFormat.png).decode file.data.toList =
      if r.size.area * 3 ≤ maxPictureBytes then .ok (.rgb8 r) else .error (.png .tooLarge) := by
    have haddressable : maxPictureBytes < Png.addressable := by decide
    by_cases harea : r.size.area * 3 ≤ maxPictureBytes
    · have hroom : ∀ n ∈ some maxPictureBytes, r.size.area * 3 ≤ n := by simpa using harea
      rw [ImageFormat.decode,
        Png.decodeWithin_encode hfile hroom (Nat.lt_of_le_of_lt harea haddressable), if_pos harea]
    · have hlarge := Nat.lt_of_not_le harea
      rw [ImageFormat.decode, Png.decodeWithin_encode_tooLarge hfile hlarge, if_neg harea]
  rw [← hdecode, openPicture, imageFormat_of_hasPngExtension hp hname]
  rfl

theorem preparePicture_encode (hp : p.fileName? = some name) (hname : HasPngExtension name)
    (hfile : Png.encode r = .ok file) (hsize : r.size = c.target) :
    preparePicture c p (.ok file) =
      if c.target.area * 3 ≤ maxPictureBytes then
        .ok (⟨r, c.target, ⟨c.target, 0, 0⟩, false⟩, file)
      else .error (.decode (.png .tooLarge)) := by
  have htarget : c.target.isEmpty = false := hsize ▸ (Png.toList_of_encode hfile).1
  rw [preparePicture, openPicture_encode hp hname hfile, hsize]
  by_cases harea : c.target.area * 3 ≤ maxPictureBytes
  · simp only [if_pos harea, Picture.normalize_self hsize htarget, pngFile, hfile]
    rfl
  · rw [if_neg harea, if_neg harea]

end Storefront
