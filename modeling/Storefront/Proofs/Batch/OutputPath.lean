import Storefront.Proofs.Path.OutputName

/-! Where a source's output goes: below the directory, under one name, which is that of a PNG. -/

namespace Storefront

variable {src dir output : Path} {name : String}

def Path.IsPng (p : Path) : Prop :=
  ∃ e, p.extension? = some e ∧ e.toList.map Char.toLower = ['p', 'n', 'g']

theorem Path.isPng_iff {p : Path} (h : p.fileName? = some name) :
    p.IsPng ↔ HasPngExtension name := by
  rw [IsPng, extension?, h, Option.bind_some, hasPngExtension_iff]

/-- The output stands in the directory under the name, a PNG with the stem of the source. -/
structure IsOutput (src dir output : Path) (name : String) : Prop where
  text : output.text =
    dir.text ++ (if dir.text = "" ∨ FileTree.endsInSlash dir.text = true then "" else "/") ++ name
  named : output.fileName? = some name ∧ IsEntryName name
  kept : src.IsPng → src.EndsIn name
  switched : ¬src.IsPng → ∃ stem, src.stem? = some stem ∧ name = stem ++ ".png"
  parent : ∃ above, output.parent? = some above ∧ above.components = dir.components
  stem : output.stem? = src.stem?
  png : output.IsPng
  again : ∀ dir', ∃ output', outputPath? output dir' = some output' ∧ output'.fileName? = some name

theorem Path.text_join (dir : Path) (h : IsEntryName name) : (dir.join name).text =
    dir.text ++ (if dir.text = "" ∨ FileTree.endsInSlash dir.text = true then "" else "/") ++
      name := by
  rw [← String.toList_inj, toList_join dir h, lead]
  simp only [FileTree.endsInSlash, beq_iff_eq]
  split <;> simp

theorem isOutput_join (dir : Path) (h : src.fileName? = some name) :
    IsOutput src dir (dir.join (outputName name)) (outputName name) := by
  have hentry := Path.isEntryName_of_fileName? h
  have hnew := isEntryName_outputName hentry
  have hfile := Path.fileName?_join dir hnew
  have hstem : src.stem? = some (Path.stemOf name) := by rw [Path.stem?, h, Option.map_some]
  constructor
  case text => exact Path.text_join dir hnew
  case named => exact ⟨hfile, hnew⟩
  case kept =>
    intro hpng
    rw [outputName_of_hasPngExtension ((Path.isPng_iff h).1 hpng)]
    exact Path.fileName?_eq_some_iff.1 h
  case switched =>
    intro hpng
    exact ⟨_, hstem, outputName_of_not (mt (Path.isPng_iff h).2 hpng)⟩
  case parent => exact Path.parent?_join dir hnew
  case stem => rw [hstem, Path.stem?, hfile, Option.map_some, stemOf_outputName hentry.1]
  case png => exact (Path.isPng_iff hfile).2 (hasPngExtension_outputName hentry.1)
  case again =>
    intro dir'
    refine ⟨_, outputPath?_join dir dir' hnew, ?_⟩
    rw [outputName_outputName hentry.1, Path.fileName?_join dir' hnew]

/-- A source has no output exactly when it ends in no name, and else one in the directory. -/
theorem outputPath?_below_directory (src dir : Path) :
    (outputPath? src dir = none ↔ src.EndsNameless) ∧
      ∀ output, outputPath? src dir = some output → ∃ name, IsOutput src dir output name := by
  constructor
  · rw [outputPath?_eq, Option.map_eq_none_iff, Path.fileName?_eq_none_iff]
  · intro output h
    obtain ⟨name, hname, rfl⟩ := outputPath?_eq_some_iff.1 h
    exact ⟨_, isOutput_join dir hname⟩

theorem outputPath?_below_directory_hidden_name :
    outputPath? ⟨"shots.d/.png/."⟩ ⟨"out/"⟩ = some ⟨"out/.png.png"⟩ ∧
      ∃ name, IsOutput ⟨"shots.d/.png/."⟩ ⟨"out/"⟩ ⟨"out/.png.png"⟩ name := by
  have h : outputPath? ⟨"shots.d/.png/."⟩ ⟨"out/"⟩ = some ⟨"out/.png.png"⟩ := by decide +kernel
  exact ⟨h, (outputPath?_below_directory _ _).2 _ h⟩

example : outputPath? ⟨"shots/../."⟩ ⟨"out"⟩ = none := by decide +kernel

end Storefront
