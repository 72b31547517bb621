import Storefront.Color

/-! A color is read back from the text that shows it. -/

namespace Storefront.Color

theorem hexDigit_ofNat : ∀ k < 16,
    digitValue? (hexDigit (UInt8.ofNat k)) = some (UInt8.ofNat k) ∧
      isBlank (hexDigit (UInt8.ofNat k)) = false ∧ hexDigit (UInt8.ofNat k) ≠ '+' := by
  decide

variable {d : UInt8}

theorem hexDigit_of_lt (hd : d.toNat < 16) :
    digitValue? (hexDigit d) = some d ∧ isBlank (hexDigit d) = false ∧ hexDigit d ≠ '+' := by
  have h := hexDigit_ofNat d.toNat hd
  rwa [UInt8.ofNat_toNat] at h

theorem toNat_high_lt (n : UInt8) : (n / 16).toNat < 16 := by
  have hn := n.toNat_lt
  rw [UInt8.toNat_div]
  exact Nat.div_lt_of_lt_mul hn

theorem toNat_low_lt (n : UInt8) : (n % 16).toNat < 16 := by
  rw [UInt8.toNat_mod]
  exact Nat.mod_lt _ (by decide)

theorem high_low (n : UInt8) : 16 * (n / 16) + n % 16 = n := by
  have hn := n.toNat_lt
  apply UInt8.toNat_inj.1
  rw [UInt8.toNat_add, UInt8.toNat_mul, UInt8.toNat_div, UInt8.toNat_mod]
  show (16 * (n.toNat / 16) % 256 + n.toNat % 16) % 256 = n.toNat
  omega

theorem channel?_hexPair (n : UInt8) :
    channel? (hexDigit (n / 16)) (hexDigit (n % 16)) = some n := by
  have hhigh := hexDigit_of_lt (toNat_high_lt n)
  have hlow := hexDigit_of_lt (toNat_low_lt n)
  rw [channel?, if_neg hhigh.2.2, hhigh.1, hlow.1]
  exact congrArg some (high_low n)

theorem channels?_hexPairs (c : Color) :
    channels? (hexPair c.red ++ hexPair c.green ++ hexPair c.blue) = some c := by
  simp only [hexPair, List.cons_append, List.nil_append, channels?, channel?_hexPair]
  rfl

theorem trim_displayChars (c : Color) : trim c.displayChars = c.displayChars := by
  have hlast := (hexDigit_of_lt (toNat_low_lt c.blue)).2.1
  rw [trim, displayChars, trimStart_cons (by decide)]
  exact trimEnd_concat hlast ('#' :: (hexPair c.red ++ hexPair c.green ++ [hexDigit (c.blue / 16)]))

theorem parse_display (c : Color) : parse c.display = .ok c := by
  have hchannels : channels? (dropHash c.displayChars) = some c := channels?_hexPairs c
  rw [parse, display, String.toList_ofList, trim_displayChars, hchannels]

end Storefront.Color
