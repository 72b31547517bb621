import Storefront.Batch.OutputPath
import Storefront.Proofs.Path.LastName

/-! Names of outputs: each is the name of an entry with the extension of a PNG, and is its own
output's name. An extension edited at the end of a joined path is edited in the name. -/

namespace Storefront

namespace Path

theorem splitLastDot_append {before after : List Char} (h : '.' ∉ after) :
    splitLastDot (before ++ '.' :: after) = some (before, after) := by
  have hp : ∀ c ∈ after.reverse, decide (c ≠ '.') = true := by
    intro c hc
    have hne : c ≠ '.' := fun he => h (he ▸ List.mem_reverse.1 hc)
    simpa using hne
  have hdrop : (before ++ '.' :: after).reverse.dropWhile (· ≠ '.') = '.' :: before.reverse := by
    rw [List.reverse_append, List.reverse_cons, List.append_assoc, List.singleton_append,
      List.dropWhile_append_of_pos hp]
    simp
  have htake : (before ++ '.' :: after).reverse.takeWhile (· ≠ '.') = after.reverse := by
    rw [List.reverse_append, List.reverse_cons, List.append_assoc, List.singleton_append,
      List.takeWhile_append_of_pos hp]
    simp
  unfold splitLastDot
  rw [hdrop, htake]
  simp

theorem splitLastDot_eq {name before after : List Char}
    (h : splitLastDot name = some (before, after)) : name = before ++ '.' :: after := by
  unfold splitLastDot at h
  split at h
  · simp at h
  next c rest hd =>
    have hc : c = '.' := by
      have := List.head?_dropWhile_not (fun c => decide (c ≠ '.')) name.reverse
      rw [hd] at this
      simpa using this
    simp only [Option.some.injEq, Prod.mk.injEq] at h
    obtain ⟨rfl, rfl⟩ := h
    have hsplit := List.takeWhile_append_dropWhile (p := fun c => decide (c ≠ '.')) (l := name.reverse)
    rw [hd, hc] at hsplit
    have := congrArg List.reverse hsplit
    rw [List.reverse_reverse, List.reverse_append, List.reverse_cons] at this
    simpa using this.symm

theorem toList_stemOf (name : String) : ∃ after, name.toList = (stemOf name).toList ++ after := by
  unfold stemOf
  split
  next c before after hs => exact ⟨'.' :: after, by rw [String.toList_ofList, splitLastDot_eq hs]⟩
  next => exact ⟨[], (List.append_nil _).symm⟩

theorem stemOf_ne_empty {name : String} (h : name ≠ "") : stemOf name ≠ "" := by
  unfold stemOf
  split
  · intro he
    simpa using congrArg String.toList he
  · exact h

theorem slash_not_mem_stemOf {name : String} (h : '/' ∉ name.toList) : '/' ∉ (stemOf name).toList := by
  obtain ⟨after, hafter⟩ := toList_stemOf name
  intro hm
  exact h (hafter ▸ List.mem_append_left _ hm)

theorem splitLastDot_toList {stem : String} (h : stem ≠ "") {extension : String}
    (he : '.' ∉ extension.toList) : ∃ c s, stem = String.ofList (c :: s) ∧
      splitLastDot (stem ++ "." ++ extension).toList = some (c :: s, extension.toList) := by
  obtain ⟨c, s, hs⟩ := List.exists_cons_of_ne_nil fun h0 => h (String.toList_eq_nil_iff.1 h0)
  have htext : (stem ++ "." ++ extension).toList = (c :: s) ++ '.' :: extension.toList := by
    rw [String.toList_append, String.toList_append, hs]
    simp
  exact ⟨c, s, by rw [← hs, String.ofList_toList], by rw [htext, splitLastDot_append he]⟩

theorem extensionOf?_append {stem : String} (h : stem ≠ "") (extension : String)
    (he : '.' ∉ extension.toList) : extensionOf? (stem ++ "." ++ extension) = some extension := by
  obtain ⟨c, s, -, hsplit⟩ := splitLastDot_toList h he
  unfold extensionOf?
  rw [hsplit]
  simp only [String.ofList_toList]

theorem stemOf_append {stem : String} (h : stem ≠ "") (extension : String)
    (he : '.' ∉ extension.toList) : stemOf (stem ++ "." ++ extension) = stem := by
  obtain ⟨c, s, hstem, hsplit⟩ := splitLastDot_toList h he
  unfold stemOf
  rw [hsplit]
  exact hstem.symm

theorem isEntryName_stemOf_append {name : String} (h : IsEntryName name) {extension : String}
    (he : extension ≠ "") (hslash : '/' ∉ extension.toList) :
    IsEntryName (stemOf name ++ "." ++ extension) := by
  apply isEntryName_of_long
  · have hstem := List.length_pos_iff.2 (mt String.toList_eq_nil_iff.1 (stemOf_ne_empty h.1))
    have hextension := List.length_pos_iff.2 (mt String.toList_eq_nil_iff.1 he)
    have hdot : ".".toList.length = 1 := rfl
    rw [String.toList_append, String.toList_append, List.length_append, List.length_append, hdot]
    omega
  · rw [String.toList_append, String.toList_append, List.mem_append, List.mem_append, not_or, not_or]
    exact ⟨⟨slash_not_mem_stemOf h.2.2.2, by decide⟩, hslash⟩

/-- A new extension is put after the stem of the last name, and what stood after the name goes. -/
theorem Parts.toList_setExtension {p : Path} {name : String} {front tail : List Char}
    (h : p.Parts front name.toList tail) (hname : IsEntryName name) {extension : String}
    (he : extension ≠ "") : (p.setExtension extension).text.toList =
      front ++ (stemOf name).toList ++ '.' :: extension.toList := by
  obtain ⟨after, hafter⟩ := toList_stemOf name
  have hbody : p.body = front ++ (stemOf name).toList ++ after := by
    rw [h.body_eq (component?_of_isEntryName hname), hafter, List.append_assoc]
  have hfile : p.fileName? = some name := EndsIn.fileName?_eq ⟨hname, front, tail, h⟩
  have hcut : name.toList.length - (stemOf name).toList.length = after.length := by
    rw [hafter, List.length_append, Nat.add_sub_cancel_left]
  have hkept : (front ++ (stemOf name).toList ++ after).length - after.length =
      (front ++ (stemOf name).toList).length := by
    rw [List.length_append, Nat.add_sub_cancel]
  unfold setExtension
  simp only [hfile, hcut, hbody, if_neg he, String.toList_ofList]
  rw [hkept, List.take_left]

theorem setExtension_join (dir : Path) {name : String} (h : IsEntryName name) {extension : String}
    (he : extension ≠ "") (hslash : '/' ∉ extension.toList) :
    (dir.join name).setExtension extension = dir.join (stemOf name ++ "." ++ extension) := by
  apply eq_of_toList
  rw [(parts_join dir h).toList_setExtension h he,
    toList_join dir (isEntryName_stemOf_append h he hslash)]
  simp

end Path

def HasPngExtension (name : String) : Prop :=
  (Path.extensionOf? name).any isPngExtension = true

instance (name : String) : Decidable (HasPngExtension name) :=
  inferInstanceAs (Decidable (_ = _))

def outputName (name : String) : String :=
  if (Path.extensionOf? name).any isPngExtension then name else Path.stemOf name ++ ".png"

theorem hasPngExtension_iff {name : String} : HasPngExtension name ↔
    ∃ e, Path.extensionOf? name = some e ∧ e.toList.map Char.toLower = ['p', 'n', 'g'] := by
  unfold HasPngExtension
  cases Path.extensionOf? name <;> simp [isPngExtension]

theorem append_dot_png (stem : String) : stem ++ "." ++ "png" = stem ++ ".png" :=
  String.append_assoc

theorem outputName_of_hasPngExtension {name : String} (h : HasPngExtension name) :
    outputName name = name :=
  if_pos h

theorem outputName_of_not {name : String} (h : ¬HasPngExtension name) :
    outputName name = Path.stemOf name ++ ".png" :=
  if_neg h

theorem hasPngExtension_outputName {name : String} (h : name ≠ "") :
    HasPngExtension (outputName name) := by
  by_cases hp : HasPngExtension name
  · rwa [outputName_of_hasPngExtension hp]
  · rw [outputName_of_not hp, hasPngExtension_iff]
    refine ⟨"png", ?_, by decide⟩
    rw [← append_dot_png, Path.extensionOf?_append (Path.stemOf_ne_empty h) "png" (by decide)]

theorem outputName_outputName {name : String} (h : name ≠ "") :
    outputName (outputName name) = outputName name :=
  outputName_of_hasPngExtension (hasPngExtension_outputName h)

theorem stemOf_outputName {name : String} (h : name ≠ "") :
    Path.stemOf (outputName name) = Path.stemOf name := by
  by_cases hp : HasPngExtension name
  · rw [outputName_of_hasPngExtension hp]
  · rw [outputName_of_not hp, ← append_dot_png,
      Path.stemOf_append (Path.stemOf_ne_empty h) "png" (by decide)]

theorem isEntryName_outputName {name : String} (h : IsEntryName name) :
    IsEntryName (outputName name) := by
  by_cases hp : HasPngExtension name
  · rwa [outputName_of_hasPngExtension hp]
  · rw [outputName_of_not hp, ← append_dot_png]
    exact Path.isEntryName_stemOf_append h (by decide) (by decide)

/-- What is tested on the source and edited on the joined path comes to a new name. -/
theorem outputPath?_eq (src dir : Path) :
    outputPath? src dir = src.fileName?.map fun name => dir.join (outputName name) := by
  unfold outputPath?
  rcases hname : src.fileName? with - | name
  · rfl
  · have hextension : src.extension? = Path.extensionOf? name := by
      rw [Path.extension?, hname, Option.bind_some]
    have hedit : (dir.join name).setExtension "png" = dir.join (Path.stemOf name ++ ".png") := by
      rw [Path.setExtension_join dir (Path.isEntryName_of_fileName? hname) (by decide) (by decide),
        append_dot_png]
    rw [Option.map_some, Option.map_some, hextension, hedit, outputName]
    split <;> rfl

theorem outputPath?_eq_some_iff {src dir output : Path} :
    outputPath? src dir = some output ↔
      ∃ name, src.fileName? = some name ∧ output = dir.join (outputName name) := by
  rw [outputPath?_eq, Option.map_eq_some_iff]
  constructor <;> rintro ⟨name, hn, rfl⟩ <;> exact ⟨name, hn, rfl⟩

theorem outputPath?_join (above dir : Path) {name : String} (h : IsEntryName name) :
    outputPath? (above.join name) dir = some (dir.join (outputName name)) :=
  outputPath?_eq_some_iff.2 ⟨name, Path.fileName?_join above h, rfl⟩

end Storefront
