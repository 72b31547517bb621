import Storefront.Proofs.Batch.Outputs
import Storefront.Proofs.Files.Creation
import Storefront.Proofs.Files.Listing
import Storefront.Proofs.Image.FixedPoint

/-! What a batch leaves in a directory that was empty: pictures of the size of the canvas, each the
output of one item, and nothing else. -/

namespace Storefront

open FileTree

theorem selects_png_iff {name : String} : Scan.selects ["png"] name ↔ HasPngExtension name := by
  have hwanted : Scan.lowerAscii (Scan.wanted "png") = ['p', 'n', 'g'] := by decide
  unfold Scan.selects HasPngExtension
  rcases Path.extensionOf? name with - | e
  · simp
  · simp only [List.any_cons, List.any_nil, Bool.or_false, hwanted, isPngExtension,
      Option.any_some, beq_iff_eq]
    exact eq_comm

def IsPictureFile (target : Dimensions) (file : ByteArray) : Prop :=
  ∃ r, r.size = target ∧ Png.encode r = .ok file

/-- The files in a directory are pictures of one size, with names that stay apart in lower case. -/
structure Gallery (t : FileTree) (dir : Path) (l : Location) (target : Dimensions)
    (names : List String) : Prop where
  linkFree : t.LinkFree
  distinct : (t.entries.map (·.1)).Nodup
  lookup : t.lookup dir = .ok (l, .directory)
  apart : (names.map lowerCase).Nodup
  entryName : ∀ name ∈ names, IsEntryName name
  png : ∀ name ∈ names, HasPngExtension name
  leads : ∀ name ∈ names, t.Leads dir name l
  picture : ∀ name ∈ names, ∃ file, t.node? (name :: l) = some (.file file) ∧ IsPictureFile target file

structure Vacant (settings : ScreenshotSettings) (t : FileTree) (l : Location) : Prop where
  linkFree : t.LinkFree
  distinct : (t.entries.map (·.1)).Nodup
  lookup : t.lookup settings.outputDir = .ok (l, .directory)
  empty : t.children l = []

namespace Vacant

variable {settings : ScreenshotSettings} {t : FileTree} {l : Location} {files : List Path}
  {outcome : ItemOutcome} {output : Path} {name : String} {n : Node} {j : Nat}

theorem folder (h : Vacant settings t l) : t.folder settings.outputDir = .ok l :=
  (folder_of_lookup h.linkFree h.lookup).1

variable [Codecs]

theorem linkFree_after (h : Vacant settings t l) (files : List Path) :
    (BatchState.after settings ⟨[], t⟩ files).tree.LinkFree :=
  BatchState.linkFree_after (b := ⟨[], t⟩) h.linkFree files

theorem sameDirs_after (h : Vacant settings t l) (files : List Path) :
    t.SameDirs (BatchState.after settings ⟨[], t⟩ files).tree :=
  BatchState.sameDirs_after (b := ⟨[], t⟩) h.linkFree files

theorem folder_after (h : Vacant settings t l) (files : List Path) :
    (BatchState.after settings ⟨[], t⟩ files).tree.folder settings.outputDir = .ok l :=
  (h.sameDirs_after files).1.folder h.folder

theorem place_of_target? (h : Vacant settings t l)
    (ho : outcome ∈ (BatchState.course settings ⟨[], t⟩ files).1)
    (hout : outcome.output? = some output) {k : Location} (hk : t.target? output = some k) :
    ∃ former, outcome.source.fileName? = some former ∧ IsEntryName (outputName former) ∧
      output = settings.outputDir.join (outputName former) ∧ k = outputName former :: l := by
  obtain ⟨former, hformer, hname, rfl, -⟩ := BatchState.name_of_course ho hout
  obtain ⟨l₂, hl₂, rfl⟩ := (target?_join_eq_some_iff h.linkFree hname).1 hk
  obtain rfl := Except.ok.inj (hl₂.folder.symm.trans h.folder)
  exact ⟨former, hformer, hname, rfl, rfl⟩

theorem output_of_node? (h : Vacant settings t l)
    (hn : (BatchState.after settings ⟨[], t⟩ files).tree.node? (name :: l) = some n) :
    ∃ (j : Nat) (outcome : ItemOutcome) (former : String),
      (BatchState.course settings ⟨[], t⟩ files).1[j]? = some outcome ∧
      outcome.source.fileName? = some former ∧ IsEntryName name ∧ name = outputName former ∧
      outcome.output? = some (settings.outputDir.join name) := by
  have hbefore := node?_of_children_nil h.distinct h.empty name
  obtain ⟨j, outcome, output, hj, hout, htarget⟩ :=
    BatchState.exists_output_of_node? (b := ⟨[], t⟩) h.linkFree hbefore hn
  obtain ⟨former, hformer, hname, rfl, hk⟩ :=
    h.place_of_target? (List.mem_of_getElem? hj) hout htarget
  obtain ⟨rfl, -⟩ := List.cons.inj hk
  exact ⟨j, outcome, former, hj, hformer, hname, rfl, hout⟩

theorem node?_of_output (h : Vacant settings t l)
    (hj : (BatchState.course settings ⟨[], t⟩ files).1[j]? = some outcome)
    (hout : outcome.output? = some output) :
    ∃ name file, IsEntryName name ∧ HasPngExtension name ∧
      output = settings.outputDir.join name ∧
      (BatchState.after settings ⟨[], t⟩ files).tree.Leads settings.outputDir name l ∧
      (BatchState.after settings ⟨[], t⟩ files).tree.node? (name :: l) = some (.file file) ∧
      IsPictureFile settings.target file := by
  obtain ⟨former, l₂, n, file, hformer, hname, rfl, hleads, hprepare, hnode⟩ :=
    BatchState.written_course (b := ⟨[], t⟩) h.linkFree hj hout
  obtain rfl := Except.ok.inj (hleads.folder.symm.trans (h.folder_after files))
  obtain ⟨content, p, -, -, hnormal, hencode⟩ := content_of_preparePicture hprepare
  have hpng := hasPngExtension_outputName (Path.isEntryName_of_fileName? hformer).1
  exact ⟨_, file, hname, hpng, rfl, hleads, hnode, n.image, (Picture.size_normalize hnormal).1, hencode⟩

theorem picture_of_node? (h : Vacant settings t l)
    (hn : (BatchState.after settings ⟨[], t⟩ files).tree.node? (name :: l) = some n) :
    settings.outputDir.join name ∈
        (BatchState.course settings ⟨[], t⟩ files).1.filterMap (·.output?) ∧
      IsEntryName name ∧ HasPngExtension name ∧
      (BatchState.after settings ⟨[], t⟩ files).tree.Leads settings.outputDir name l ∧
      ∃ file, n = .file file ∧ IsPictureFile settings.target file := by
  obtain ⟨j, outcome, former, hj, -, hname, -, hout⟩ := h.output_of_node? hn
  obtain ⟨name', file, hname', hpng, hpath, hleads, hnode, hpicture⟩ := h.node?_of_output hj hout
  obtain rfl := Path.join_injective _ hname hname' hpath
  refine ⟨List.mem_filterMap.2 ⟨outcome, List.mem_of_getElem? hj, hout⟩, hname, hpng, hleads, ?_⟩
  exact ⟨file, Option.some.inj (hn.symm.trans hnode), hpicture⟩

variable {names : List String}

theorem perm_outputs (h : Vacant settings t l) (hnodup : names.Nodup)
    (hnames : ∀ name, name ∈ names ↔ Scan.selects ["png"] name ∧
      ∃ c, (BatchState.after settings ⟨[], t⟩ files).tree.node? (name :: l) = some (.file c)) :
    (names.map settings.outputDir.join).Perm
      ((BatchState.course settings ⟨[], t⟩ files).1.filterMap (·.output?)) := by
  have hentry : ∀ name ∈ names, IsEntryName name := by
    intro name hname
    obtain ⟨-, c, hnode⟩ := (hnames name).1 hname
    exact (h.picture_of_node? hnode).2.1
  have houtputs : ((BatchState.course settings ⟨[], t⟩ files).1.filterMap (·.output?)).Nodup :=
    List.Pairwise.of_map collisionKey (fun a b hne heq => hne (congrArg collisionKey heq))
      (BatchState.nodup_keys_course settings t files)
  -- Nothing is there twice on either side, so the members decide.
  refine (List.perm_ext_iff_of_nodup (Path.nodup_map_join _ hentry hnodup) houtputs).2 ?_
  intro output
  constructor
  · intro hmem
    obtain ⟨name, hname, rfl⟩ := List.mem_map.1 hmem
    obtain ⟨-, c, hnode⟩ := (hnames name).1 hname
    exact (h.picture_of_node? hnode).1
  · intro hmem
    obtain ⟨outcome, ho, hout⟩ := List.mem_filterMap.1 hmem
    obtain ⟨j, hj⟩ := List.mem_iff_getElem?.1 ho
    obtain ⟨name, file, -, hpng, rfl, -, hnode, -⟩ := h.node?_of_output hj hout
    exact List.mem_map_of_mem ((hnames name).2 ⟨selects_png_iff.2 hpng, file, hnode⟩)

theorem apart_of_perm (hentry : ∀ name ∈ names, IsEntryName name)
    (hperm : (names.map settings.outputDir.join).Perm
      ((BatchState.course settings ⟨[], t⟩ files).1.filterMap (·.output?))) :
    (names.map lowerCase).Nodup := by
  have hkeys := BatchState.nodup_keys_course settings t files
  rw [← (hperm.map collisionKey).nodup_iff, List.map_map, List.nodup_iff_pairwise_ne,
    List.pairwise_map] at hkeys
  rw [List.nodup_iff_pairwise_ne, List.pairwise_map]
  -- In one directory two names have one key when they agree in lower case.
  apply hkeys.imp_of_mem
  intro a b ha hb hne heq
  exact hne ((collisionKey_join_eq_iff _ (hentry a ha) (hentry b hb)).2 heq)

theorem gallery (h : Vacant settings t l) (files : List Path) :
    ∃ names, (BatchState.after settings ⟨[], t⟩ files).tree.listImages settings.outputDir ["png"] =
        .ok (names.map settings.outputDir.join) ∧
      Gallery (BatchState.after settings ⟨[], t⟩ files).tree settings.outputDir l settings.target
        names ∧
      (names.map settings.outputDir.join).Perm
        ((BatchState.course settings ⟨[], t⟩ files).1.filterMap (·.output?)) := by
  have hlf := h.linkFree_after files
  have hdistinct := BatchState.distinct_after settings (b := ⟨[], t⟩) h.linkFree h.distinct files
  have hlookup := (h.sameDirs_after files).1.lookup h.linkFree hlf h.lookup
  obtain ⟨names, hlist, hnodup, hnames⟩ := listed_of_lookup hlf hdistinct hlookup ["png"]
  have hperm := h.perm_outputs hnodup hnames
  have hpicture := fun name hname => h.picture_of_node? ((hnames name).1 hname).2.choose_spec
  have hentry := fun name hname => (hpicture name hname).2.1
  refine ⟨names, hlist, ⟨hlf, hdistinct, hlookup, apart_of_perm hentry hperm, hentry, ?_, ?_, ?_⟩,
    hperm⟩
  · intro name hname
    exact (hpicture name hname).2.2.1
  · intro name hname
    exact (hpicture name hname).2.2.2.1
  · intro name hname
    obtain ⟨-, c, hnode⟩ := (hnames name).1 hname
    obtain ⟨-, -, -, -, file, hfile, hpict⟩ := h.picture_of_node? hnode
    exact ⟨file, hfile ▸ hnode, hpict⟩

end Vacant
end Storefront
