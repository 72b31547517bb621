import Storefront.Image.Opening

/-! The first bytes of OpenEXR files. -/

namespace Storefront.Opening.OpenExr

inductive Fault where
  | signature
  | flags
deriving DecidableEq

def Fault.text : Fault → String
  | signature => "invalid: file identifier missing"
  | flags => "not supported: too new file feature flags"

def opening : Opening Fault Unit := do
  check ((← take 4) = [118, 47, 49, 1]) .signature
  check ((← low 4) < 8192) .flags
  stop .cut

end Storefront.Opening.OpenExr
