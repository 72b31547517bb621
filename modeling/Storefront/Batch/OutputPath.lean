import Storefront.Path
import Storefront.Text.LowerCase

/-! Names of outputs, and which of them a file system might take for one another. -/

namespace Storefront

def isPngExtension (extension : String) : Bool :=
  extension.toList.map Char.toLower == ['p', 'n', 'g']

/-- The output for a source: its name in the output directory, with a new extension unless it is
a PNG already. -/
def outputPath? (src dir : Path) : Option Path :=
  src.fileName?.map fun name =>
    if src.extension?.any isPngExtension then dir.join name else (dir.join name).setExtension "png"

/-- Outputs with one key would overwrite each other where letter case does not count. -/
def collisionKey (output : Path) : String :=
  lowerCase output.text

end Storefront
