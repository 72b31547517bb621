/-! Samples of a channel, and the eight bits that stand for each. -/

namespace Storefront

class Sample (S : Type) where
  toByte : S → UInt8

namespace Sample

def byteOfWord (v : UInt16) : UInt8 :=
  ((v.toUInt32 + 128) / 257).toUInt8

/-- Light between zero and one as the nearest level. What is not below one counts as one, and so
does what is no number. -/
def byteOfLight (v : Float32) : UInt8 :=
  let inRange : Float32 := if v < 1 then (if v < 0 then 0 else v) else 1
  (inRange * 255).round.toUInt8

instance : Sample UInt8 := ⟨id⟩
instance : Sample UInt16 := ⟨byteOfWord⟩
instance : Sample Float32 := ⟨byteOfLight⟩

end Sample
end Storefront
