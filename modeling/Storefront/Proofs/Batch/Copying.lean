import Storefront.Proofs.Batch.Gallery
import Storefront.Proofs.Batch.Reopen

/-! The items of a gallery that is normalized for the canvas it was made for: each is written again
as it is, if it fits. -/

namespace Storefront

open FileTree

def Fits (target : Dimensions) (dir : Path) (name : String) : Prop :=
  target.area * 3 ≤ maxPictureBytes ∧ (dir.join name).text.utf8ByteSize ≤ maxPath

instance (target : Dimensions) (dir : Path) (name : String) : Decidable (Fits target dir name) :=
  inferInstanceAs (Decidable (_ ∧ _))

namespace Gallery

variable {t t₁ : FileTree} {dir : Path} {l l' : Location} {target : Dimensions} {names : List String}
  {settings : ScreenshotSettings} {name : String} {i : Nat}

theorem claim [Codecs] (h : Gallery t dir l target names) (hi : names[i]? = some name) (t' : FileTree) :
    ∃ claims, ((BatchState.after settings ⟨[], t'⟩ ((names.map dir.join).take i)).claims).claim
      (dir.join name) settings.outputDir = .ok (settings.outputDir.join name, claims) := by
  have hmem := List.mem_of_getElem? hi
  have hname := h.entryName name hmem
  have hpath {n : String} (hn : n ∈ names) :
      outputPath? (dir.join n) settings.outputDir = some (settings.outputDir.join n) := by
    rw [outputPath?_join dir _ (h.entryName n hn), outputName_of_hasPngExtension (h.png n hn)]
  refine ⟨_, BatchState.claim_after (hpath hmem) ?_⟩
  intro other hother hkey
  obtain ⟨k, hk⟩ := List.mem_iff_getElem?.1 hother
  have hki : k < i := by
    have hlt := (List.getElem?_eq_some_iff.1 hk).1
    rw [List.length_take] at hlt
    omega
  rw [List.getElem?_take_of_lt hki, List.getElem?_map, Option.map_eq_some_iff] at hk
  obtain ⟨n, hn, rfl⟩ := hk
  have hnmem := List.mem_of_getElem? hn
  rw [outputKey?, hpath hnmem, Option.map_some, Option.some.injEq,
    collisionKey_join_eq_iff _ (h.entryName n hnmem) hname] at hkey
  -- Both names have one place in the list of lower cases.
  have hplaces : (names.map lowerCase)[k]? = (names.map lowerCase)[i]? := by
    rw [List.getElem?_map, List.getElem?_map, hn, hi, Option.map_some, Option.map_some, hkey]
  have hlength : k < (names.map lowerCase).length := by
    rw [List.length_map]
    exact (List.getElem?_eq_some_iff.1 hn).1
  exact Nat.ne_of_lt hki ((List.getElem?_inj hlength h.apart).1 hplaces)

theorem grows (h : Gallery t dir l target names) (hg : t.Grows t₁) :
    Gallery t₁ dir l target names where
  linkFree := hg.linkFree h.linkFree
  distinct := hg.distinct h.distinct
  lookup := hg.keepsDirs.lookup h.linkFree (hg.linkFree h.linkFree) h.lookup
  apart := h.apart
  entryName := h.entryName
  png := h.png
  leads name hname := hg.keepsDirs.leads (h.leads name hname)
  picture name hname := by
    obtain ⟨file, hnode, hfile⟩ := h.picture name hname
    exact ⟨file, hg.node? hnode, hfile⟩

end Gallery

structure Copying (settings : ScreenshotSettings) (t : FileTree) (dir : Path) (l l' : Location)
    (names : List String) : Prop where
  gallery : Gallery t dir l settings.target names
  vacant : Vacant settings t l'

namespace Copying

variable {settings : ScreenshotSettings} {t : FileTree} {dir : Path} {l l' : Location}
  {names : List String} {name : String} {i : Nat}

theorem ne (h : Copying settings t dir l l' names) (hname : name ∈ names) : l ≠ l' := by
  rintro rfl
  obtain ⟨file, hnode, -⟩ := h.gallery.picture name hname
  rw [node?_of_children_nil h.gallery.distinct h.vacant.empty] at hnode
  contradiction

theorem leads_iff (h : Copying settings t dir l l' names) (hname : name ∈ names) :
    t.Leads settings.outputDir name l' ↔
      (settings.outputDir.join name).text.utf8ByteSize ≤ maxPath := by
  have hentry := h.gallery.entryName name hname
  have hleads := h.gallery.leads name hname
  refine ⟨fun hl => hl.short, fun hshort => ⟨h.vacant.folder, ?_, hshort, hleads.shortName⟩⟩
  have hnul := hleads.noNul
  rw [Path.toList_join dir hentry, List.mem_append, not_or] at hnul
  rw [Path.toList_join _ hentry, List.mem_append]
  rintro (hlead | hnul')
  · rcases Path.mem_of_mem_lead hlead with hdir | hslash
    · exact ((lookup_eq_directory_iff h.vacant.linkFree).1 h.vacant.lookup).1.noNul hdir
    · exact absurd hslash (by decide)
  · exact hnul.2 hnul'

variable [Codecs]

theorem node?_after (h : Copying settings t dir l l' names) (hname : name ∈ names)
    (files : List Path) :
    (BatchState.after settings ⟨[], t⟩ files).tree.node? (name :: l) = t.node? (name :: l) := by
  apply BatchState.node?_after (b := ⟨[], t⟩) h.gallery.linkFree
  intro outcome ho output hout htarget
  obtain ⟨former, -, -, -, hk⟩ := h.vacant.place_of_target? ho hout htarget
  exact h.ne hname (List.cons.inj hk).2

theorem read_after (h : Copying settings t dir l l' names) (hname : name ∈ names)
    (files : List Path) {file : ByteArray} (hnode : t.node? (name :: l) = some (.file file)) :
    (BatchState.after settings ⟨[], t⟩ files).tree.read (dir.join name) = .ok file := by
  have hleads := (h.vacant.sameDirs_after files).1.leads (h.gallery.leads name hname)
  apply hleads.read (h.vacant.linkFree_after files) (h.gallery.entryName name hname)
  rw [h.node?_after hname, hnode]

theorem write_after (h : Copying settings t dir l l' names) (hname : name ∈ names)
    (files : List Path) (file : ByteArray) :
    (∃ t', (BatchState.after settings ⟨[], t⟩ files).tree.write (settings.outputDir.join name) file =
      .ok t') ↔ (settings.outputDir.join name).text.utf8ByteSize ≤ maxPath := by
  have hentry := h.gallery.entryName name hname
  have hsame := h.vacant.sameDirs_after files
  rw [← h.leads_iff hname]
  constructor
  · rintro ⟨t', hw⟩
    obtain ⟨l₂, hl₂, -, -⟩ := (write_join_eq_ok_iff (h.vacant.linkFree_after files) hentry).1 hw
    have hl₂ := hsame.leads_iff.1 hl₂
    obtain rfl := Except.ok.inj (hl₂.folder.symm.trans h.vacant.folder)
    exact hl₂
  · intro hl
    refine ⟨_, (write_join_eq_ok_iff (h.vacant.linkFree_after files) hentry).2
      ⟨l', hsame.leads_iff.2 hl, ?_, rfl⟩⟩
    intro hdir
    have hnode := hsame.2.isDirectoryAt _ hdir
    rw [IsDirectoryAt, node?_of_children_nil h.gallery.distinct h.vacant.empty] at hnode
    contradiction

theorem prepare_after (h : Copying settings t dir l l' names) (hname : name ∈ names)
    (files : List Path) :
    ∃ r file, t.node? (name :: l) = some (.file file) ∧
      preparePicture settings.canvas (dir.join name)
        ((BatchState.after settings ⟨[], t⟩ files).tree.read (dir.join name)) =
        if settings.target.area * 3 ≤ maxPictureBytes then
          .ok (⟨r, settings.target, ⟨settings.target, 0, 0⟩, false⟩, file)
        else .error (.decode (.png .tooLarge)) := by
  obtain ⟨file, hnode, r, hsize, hfile⟩ := h.gallery.picture name hname
  have hfileName := Path.fileName?_join dir (h.gallery.entryName name hname)
  refine ⟨r, file, hnode, ?_⟩
  rw [h.read_after hname files hnode]
  exact preparePicture_encode hfileName (h.gallery.png name hname) hfile hsize

theorem putPicture_of_fits (h : Copying settings t dir l l' names) (hname : name ∈ names)
    (hfits : Fits settings.target settings.outputDir name) (files : List Path) :
    ∃ n, ((BatchState.after settings ⟨[], t⟩ files).tree.putPicture settings.canvas (dir.join name)
        (settings.outputDir.join name)).1 = .ok n ∧
      n.sourceSize = settings.target ∧ n.placement = ⟨settings.target, 0, 0⟩ ∧
      n.flattenedAlpha = false := by
  obtain ⟨r, file, -, hprepare⟩ := h.prepare_after hname files
  obtain ⟨t', hwrite⟩ := (h.write_after hname files file).2 hfits.2
  refine ⟨⟨r, settings.target, ⟨settings.target, 0, 0⟩, false⟩, ?_, rfl, rfl, rfl⟩
  rw [putPicture, hprepare, if_pos hfits.1]
  simp only [hwrite]

theorem putPicture_of_not_fits (h : Copying settings t dir l l' names) (hname : name ∈ names)
    (hfits : ¬Fits settings.target settings.outputDir name) (files : List Path) :
    ∃ e, ((BatchState.after settings ⟨[], t⟩ files).tree.putPicture settings.canvas (dir.join name)
      (settings.outputDir.join name)).1 = .error e := by
  obtain ⟨r, file, -, hprepare⟩ := h.prepare_after hname files
  rw [putPicture, hprepare]
  by_cases harea : settings.target.area * 3 ≤ maxPictureBytes
  · rw [if_pos harea]
    rcases hwrite : (BatchState.after settings ⟨[], t⟩ files).tree.write
        (settings.outputDir.join name) file with e | t'
    · exact ⟨.io e, by simp only [hwrite]⟩
    · exact absurd ⟨harea, (h.write_after hname files file).1 ⟨t', hwrite⟩⟩ hfits
  · exact ⟨_, by rw [if_neg harea]⟩

variable (settings dir names) in
abbrev outcomes (t : FileTree) : List ItemOutcome :=
  (BatchState.course settings ⟨[], t⟩ (names.map dir.join)).1

variable (settings dir names) in
abbrev tree (t : FileTree) : FileTree :=
  (BatchState.after settings ⟨[], t⟩ (names.map dir.join)).tree

theorem outcome_eq (h : Copying settings t dir l l' names) (hi : names[i]? = some name) :
    (outcomes settings dir names t)[i]? = some (.ofResult (dir.join name)
      (settings.outputDir.join name) ((BatchState.after settings ⟨[], t⟩
        ((names.map dir.join).take i)).tree.putPicture settings.canvas (dir.join name)
          (settings.outputDir.join name)).1) := by
  obtain ⟨claims, hclaim⟩ := h.gallery.claim hi t
  rw [BatchState.getElem?_course, List.getElem?_map, hi, Option.map_some, Option.map_some,
    BatchState.step, hclaim]

theorem outcome_of_fits (h : Copying settings t dir l l' names) (hi : names[i]? = some name)
    (hfits : Fits settings.target settings.outputDir name) :
    (outcomes settings dir names t)[i]? = some (.normalized (dir.join name)
      (settings.outputDir.join name) settings.target ⟨settings.target, 0, 0⟩ false) := by
  obtain ⟨n, hput, hsize, hplacement, hflat⟩ :=
    h.putPicture_of_fits (List.mem_of_getElem? hi) hfits ((names.map dir.join).take i)
  rw [h.outcome_eq hi, hput, ItemOutcome.ofResult, hsize, hplacement, hflat]

theorem outcome_of_not_fits (h : Copying settings t dir l l' names) (hi : names[i]? = some name)
    (hfits : ¬Fits settings.target settings.outputDir name) :
    ∃ cause, (outcomes settings dir names t)[i]? = some (.failed (dir.join name) cause) := by
  obtain ⟨e, hput⟩ :=
    h.putPicture_of_not_fits (List.mem_of_getElem? hi) hfits ((names.map dir.join).take i)
  exact ⟨e.message, by rw [h.outcome_eq hi, hput, ItemOutcome.ofResult]⟩

theorem node?_tree (h : Copying settings t dir l l' names) {file : ByteArray}
    (hn : (tree settings dir names t).node? (name :: l') = some (.file file)) :
    name ∈ names ∧ Fits settings.target settings.outputDir name ∧
      t.node? (name :: l) = some (.file file) := by
  obtain ⟨j, outcome, former, hj, hformer, hentry, rfl, hout⟩ := h.vacant.output_of_node? hn
  obtain ⟨hsrc, -, -⟩ := BatchState.split_of_course outcome.source hj rfl
  rw [List.getElem?_map, Option.map_eq_some_iff] at hsrc
  obtain ⟨own, hown, hsrc⟩ := hsrc
  have hmem := List.mem_of_getElem? hown
  rw [← hsrc, Path.fileName?_join dir (h.gallery.entryName own hmem)] at hformer
  obtain rfl := Option.some.inj hformer
  -- The item is that of a name in the gallery, which is its own output name.
  rw [outputName_of_hasPngExtension (h.gallery.png own hmem)] at hn hout ⊢
  refine ⟨hmem, ?_, ?_⟩
  · by_contra hfits
    obtain ⟨cause, hfailed⟩ := h.outcome_of_not_fits hown hfits
    obtain rfl := Option.some.inj (hj.symm.trans hfailed)
    contradiction
  · obtain ⟨name', l₂, n, file', -, hentry', hpath, hleads, hprepared, hnode⟩ :=
      BatchState.written_course (b := ⟨[], t⟩) h.gallery.linkFree hj hout
    obtain rfl := Except.ok.inj (hleads.folder.symm.trans (h.vacant.folder_after _))
    obtain rfl := Path.join_injective _ (h.gallery.entryName own hmem) hentry' hpath
    obtain rfl := Node.file.inj (Option.some.inj (hn.symm.trans hnode))
    obtain ⟨r, file', hnode', hprepare⟩ := h.prepare_after hmem ((names.map dir.join).take j)
    rw [← hsrc, hprepare] at hprepared
    split at hprepared
    · rw [hnode', (Prod.mk.inj (Except.ok.inj hprepared)).2]
    · contradiction

end Copying

end Storefront
