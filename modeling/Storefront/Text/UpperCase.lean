import Storefront.Text.UpperCaseTable

/-! Texts that differ in letter case only, as a file system may see it: one that compares the
upper case of names character by character. -/

namespace Storefront.UpperCase

def char (c : Char) : Char :=
  CaseRun.partner runs c

end Storefront.UpperCase

namespace Storefront

/-- The texts have the same upper case, each character for itself. -/
def SameUpToCase (s t : String) : Prop :=
  s.toList.map UpperCase.char = t.toList.map UpperCase.char

instance (s t : String) : Decidable (SameUpToCase s t) :=
  inferInstanceAs (Decidable (_ = _))

end Storefront
