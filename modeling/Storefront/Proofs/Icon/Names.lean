import Storefront.Proofs.Batch.Messages
import Storefront.Proofs.Path.LastName
import Storefront.Settings.Basic

/-! Paths of icons: names in one directory, another one for each size. -/

namespace Storefront

namespace Path

theorem exists_front (s : List Char) :
    ∃ front last, s = front ++ last ∧ IsFront front ∧ '/' ∉ last := by
  by_cases hs : '/' ∈ s
  · obtain ⟨before, after, hbefore, hslash⟩ := List.eq_append_cons_of_mem (List.mem_reverse.2 hs)
    refine ⟨after.reverse ++ ['/'], before.reverse, ?_, .inr ⟨_, rfl⟩, by simpa using hslash⟩
    rw [← List.reverse_reverse s, hbefore]
    simp
  · exact ⟨[], s, rfl, .inl rfl, hs⟩

theorem lead_of_isFront {front : List Char} (h : IsFront front) :
    lead ⟨String.ofList front⟩ = front := by
  rcases h with rfl | ⟨s, rfl⟩ <;> simp [lead]

end Path

namespace IconSettings

variable (settings : IconSettings)

def iconPath (size : UInt32) : Path :=
  settings.outputDir.join (settings.filePrefix ++ size.toNat.repr ++ ".png")

theorem join_fileName (size : UInt32) :
    settings.outputDir.join (settings.fileName size) = settings.iconPath size := rfl

def sizedName (start : String) (size : UInt32) : String :=
  start ++ size.toNat.repr ++ ".png"

theorem iconPath_eq_join (size : UInt32) :
    settings.iconPath size = settings.outputDir.join (sizedName settings.filePrefix size) := rfl

theorem slash_not_mem_size (size : UInt32) : '/' ∉ (size.toNat.repr ++ ".png").toList := by
  rw [String.toList_append, Nat.toList_repr, List.mem_append, not_or]
  refine ⟨fun hslash => ?_, by decide⟩
  have hdigit := Nat.isDigit_of_mem_toDigits (by decide) (by decide) hslash
  contradiction

theorem toList_sizedName (start : String) (size : UInt32) :
    (sizedName start size).toList = start.toList ++ (size.toNat.repr ++ ".png").toList := by
  rw [sizedName, String.append_assoc, String.toList_append]

theorem isEntryName_sizedName {start : String} (h : '/' ∉ start.toList) (size : UInt32) :
    IsEntryName (sizedName start size) := by
  apply Path.isEntryName_of_long
  · have hend : ".png".toList.length = 4 := rfl
    rw [toList_sizedName, String.toList_append, List.length_append, List.length_append, hend]
    omega
  · rw [toList_sizedName, List.mem_append, not_or]
    exact ⟨h, slash_not_mem_size size⟩

theorem sizedName_injective {start : String} {a b : UInt32}
    (h : sizedName start a = sizedName start b) : a = b := by
  have hrepr : a.toNat.repr = b.toNat.repr :=
    (String.append_right_inj start).1 ((String.append_left_inj ".png").1 h)
  exact UInt32.toNat_inj.1 (repr_injective hrepr)

theorem head?_sizedName (start : String) (size : UInt32) :
    (sizedName start size).toList.head? = some '/' ↔ start.toList.head? = some '/' := by
  rw [toList_sizedName]
  rcases start.toList with - | ⟨c, cs⟩
  · refine iff_of_false (fun hhead => ?_) (by simp)
    exact slash_not_mem_size size (List.mem_of_mem_head? (Option.mem_def.2 hhead))
  · simp

theorem exists_toList_iconPath : ∃ s : List Char, ∀ size,
    (settings.iconPath size).text.toList = s ++ (size.toNat.repr ++ ".png").toList := by
  simp only [iconPath_eq_join, Path.join, head?_sizedName]
  by_cases habsolute : settings.filePrefix.toList.head? = some '/'
  · refine ⟨settings.filePrefix.toList, fun size => ?_⟩
    rw [if_pos habsolute, toList_sizedName]
  by_cases hdir : settings.outputDir.text = "" ∨ settings.outputDir.text.toList.getLast? = some '/'
  · refine ⟨settings.outputDir.text.toList ++ settings.filePrefix.toList, fun size => ?_⟩
    rw [if_neg habsolute, if_pos hdir, String.toList_append, toList_sizedName, List.append_assoc]
  · refine ⟨(settings.outputDir.text ++ "/").toList ++ settings.filePrefix.toList, fun size => ?_⟩
    rw [if_neg habsolute, if_neg hdir, String.toList_append, toList_sizedName, List.append_assoc]

theorem exists_iconPath_eq_join :
    ∃ (front : Path) (start : String), '/' ∉ start.toList ∧
      ∀ size, settings.iconPath size = front.join (sizedName start size) := by
  obtain ⟨s, hs⟩ := exists_toList_iconPath settings
  obtain ⟨front, last, rfl, hfront, hlast⟩ := Path.exists_front s
  have hslash : '/' ∉ (String.ofList last).toList := by rwa [String.toList_ofList]
  refine ⟨⟨String.ofList front⟩, String.ofList last, hslash, fun size => ?_⟩
  apply Path.eq_of_toList
  rw [hs, Path.toList_join _ (isEntryName_sizedName hslash size), Path.lead_of_isFront hfront,
    toList_sizedName, String.toList_ofList, List.append_assoc]

variable {settings} in
theorem iconPath_injective {a b : UInt32} (h : settings.iconPath a = settings.iconPath b) : a = b := by
  obtain ⟨front, start, hslash, hpath⟩ := exists_iconPath_eq_join settings
  rw [hpath, hpath] at h
  have hname := isEntryName_sizedName hslash
  exact sizedName_injective (Path.join_injective front (hname a) (hname b) h)

end IconSettings
end Storefront
