import Mathlib.Algebra.Group.Nat.Defs
import Storefront.Png.Preface

/-! Chunks read back from what was written, and the bytes that follow them. -/

namespace Storefront.Png

open Deflate

theorem word_bigEndian (n : UInt32) :
    ∃ a b c d, bigEndian n = [a, b, c, d] ∧ word a b c d = n := by
  refine ⟨_, _, _, _, rfl, ?_⟩
  have hn := n.toNat_lt
  have h24 : (24 : UInt32).toNat % 32 = 24 := rfl
  have h16 : (16 : UInt32).toNat % 32 = 16 := rfl
  have h8 : (8 : UInt32).toNat % 32 = 8 := rfl
  have h256 : (256 : UInt32).toNat = 256 := rfl
  apply UInt32.toNat_inj.1
  simp only [word, UInt32.toNat_add, UInt32.toNat_mul, UInt8.toNat_toUInt32, UInt32.toNat_toUInt8,
    UInt32.toNat_shiftRight, Nat.shiftRight_eq_div_pow, h24, h16, h8, h256]
  omega

namespace Chunk

def body (kind content : List UInt8) : List UInt8 :=
  content ++ bigEndian (crc (kind ++ content))

theorem body_ne_nil (kind content : List UInt8) : body kind content ≠ [] := by
  intro h
  exact absurd (List.append_eq_nil_iff.1 h).2 (List.cons_ne_nil _ _)

theorem length_write (kind content : List UInt8) :
    (write kind content).length = kind.length + content.length + 8 := by
  have hfour (n : UInt32) : (bigEndian n).length = 4 := rfl
  rw [write, List.length_append, List.length_append, List.length_append, hfour, hfour]
  omega

theorem length_write_pos (kind content : List UInt8) : 0 < (write kind content).length := by
  rw [length_write]
  exact Nat.succ_pos _

end Chunk

variable {kind content part : List UInt8}

theorem readStart_write (hkind : kind.length = 4) (hcontent : content.length < 2 ^ 32)
    (rest : List UInt8) : readStart (Chunk.write kind content ++ rest) =
      .ok (content.length, kind, Chunk.body kind content ++ rest) := by
  obtain ⟨a, b, c, d, hword, hlength⟩ := word_bigEndian content.length.toUInt32
  obtain ⟨e, f, g, h, rfl⟩ : ∃ e f g h, kind = [e, f, g, h] := by
    match kind, hkind with
    | [e, f, g, h], _ => exact ⟨e, f, g, h, rfl⟩
  have hnat : content.length.toUInt32.toNat = content.length := by
    rw [Nat.toUInt32_eq, UInt32.toNat_ofNat', Nat.mod_eq_of_lt hcontent]
  rw [Chunk.write, hword]
  show Except.ok ((word a b c d).toNat, _, _ ++ rest) = _
  rw [hlength, hnat]
  rfl

theorem readContent_body (kind content rest : List UInt8) :
    readContent content.length kind (Chunk.body kind content ++ rest) = .ok (some content, rest) := by
  obtain ⟨a, b, c, d, hword, hsum⟩ := word_bigEndian (crc (kind ++ content))
  rw [Chunk.body, hword, List.append_assoc, readContent, List.drop_left, List.take_left]
  simp only [List.cons_append, List.nil_append, hsum, if_true]

theorem readAncillary_body (rest : List UInt8) (hlength : Chunk.allowsLength kind content.length)
    (hfault : startFault? kind content.length = none) :
    readAncillary content.length kind (Chunk.body kind content ++ rest) = .ok (some content, rest) := by
  rw [readAncillary, hfault]
  simp only [readContent_body]
  show Except.ok (if Chunk.allowsLength kind content.length then some content else none, rest) = _
  rw [if_pos hlength]

theorem readPreface_imageData (p : Preface) (hpart : part.length < 2 ^ 32) (rest : List UInt8)
    {fuel : Nat} (hfuel : 0 < fuel) :
    readPreface fuel p (Chunk.write Chunk.imageData part ++ rest) =
      .ok (p, part.length, Chunk.body Chunk.imageData part ++ rest) := by
  obtain ⟨n, rfl⟩ := Nat.exists_eq_succ_of_ne_zero (Nat.ne_of_gt hfuel)
  rw [readPreface, readStart_write rfl hpart]
  rfl

end Storefront.Png
