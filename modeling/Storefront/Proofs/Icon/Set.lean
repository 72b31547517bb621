import Storefront.Proofs.Batch.SingleFile
import Storefront.Proofs.Batch.WholeRun
import Storefront.Proofs.Icon.Names
import Storefront.Proofs.Settings.Gate

/-! The set of icons. Each size puts one file where no other size does, up to the first size that is
zero or whose file cannot be written. -/

namespace Storefront

open FileTree

variable {settings : IconSettings} {size : UInt32} {sizes xs ys : List UInt32}
variable {t t' t'' : FileTree} {k : Location} {file : ByteArray} {e : IconError}

def IsIcon (size : UInt32) (file : ByteArray) : Prop :=
  ∃ icon, renderIcon size = .ok icon ∧ pngFile icon = .ok file ∧
    (icon.Addressable → HoldsPicture file icon)

theorem exists_isIcon (h : size ≠ 0) :
    ∃ icon file, renderIcon size = .ok icon ∧ pngFile icon = .ok file ∧ IsIcon size file := by
  obtain ⟨icon, file, hicon, hfile, hencode⟩ := exists_pngFile_renderIcon h
  exact ⟨icon, file, hicon, hfile, icon, hicon, hfile, fun hr => holdsPicture_of_encode hr hencode⟩

namespace FileTree

theorem target?_iconPath_congr (hs : t.SameDirs t') (hlf : t.LinkFree) (hlf' : t'.LinkFree)
    (size : UInt32) : t'.target? (settings.iconPath size) = t.target? (settings.iconPath size) := by
  obtain ⟨front, start, hslash, hpath⟩ := settings.exists_iconPath_eq_join
  rw [hpath, hs.target?_join hlf hlf' (IconSettings.isEntryName_sizedName hslash size)]

theorem eq_of_target?_iconPath (hlf : t.LinkFree) {a b : UInt32}
    (ha : t.target? (settings.iconPath a) = some k) (hb : t.target? (settings.iconPath b) = some k) :
    a = b := by
  obtain ⟨front, start, hslash, hpath⟩ := settings.exists_iconPath_eq_join
  have hentry := IconSettings.isEntryName_sizedName hslash
  rw [hpath, target?_join_eq_some_iff hlf (hentry _)] at ha hb
  obtain ⟨l, -, rfl⟩ := ha
  obtain ⟨l', -, hl⟩ := hb
  exact IconSettings.sizedName_injective (List.cons.inj hl).1

theorem read_iconPath (hlf : t.LinkFree) (htarget : t.target? (settings.iconPath size) = some k)
    (hk : t.node? k = some (.file file)) : t.read (settings.iconPath size) = .ok file := by
  obtain ⟨front, start, hslash, hpath⟩ := settings.exists_iconPath_eq_join
  have hentry := IconSettings.isEntryName_sizedName hslash size
  rw [hpath] at htarget ⊢
  obtain ⟨l, hl, rfl⟩ := (target?_join_eq_some_iff hlf hentry).1 htarget
  exact hl.read hlf hentry hk

/-- Why the icon of a size is not made: there is no such icon, or whatever the file holds cannot be
written. -/
inductive IconFault (t : FileTree) (settings : IconSettings) (size : UInt32) : IconError → Prop
  | zero (h : size = 0) : IconFault t settings size (.render size (.invalidDimensions ⟨size, size⟩))
  | refused {fault} (h : size ≠ 0)
    (hwrite : ∀ content, t.write (settings.iconPath size) content = .error fault) :
    IconFault t settings size (.write (settings.iconPath size) fault)

def putIcon (t : FileTree) (settings : IconSettings) (size : UInt32) :
    Except IconError Path × FileTree :=
  match renderIcon size with
  | .error e => (.error (.render size e), t)
  | .ok icon =>
    match pngFile icon with
    | .error e => (.error (.encode size e), t)
    | .ok file =>
      match t.write (settings.iconPath size) file with
      | .error e => (.error (.write (settings.iconPath size) e), t)
      | .ok t' => (.ok (settings.iconPath size), t')

def putIcons (settings : IconSettings) (t : FileTree) :
    List UInt32 → Except IconError (List Path) × FileTree
  | [] => (.ok [], t)
  | size :: sizes =>
    match t.putIcon settings size with
    | (.error e, t') => (.error e, t')
    | (.ok path, t') =>
      match putIcons settings t' sizes with
      | (.error e, t'') => (.error e, t'')
      | (.ok paths, t'') => (.ok (path :: paths), t'')

theorem IconFault.putIcon_eq (h : t.IconFault settings size e) :
    t.putIcon settings size = (.error e, t) := by
  cases h with
  | zero h =>
    subst h
    rfl
  | refused h hwrite =>
    obtain ⟨icon, file, hicon, hfile, -⟩ := exists_isIcon h
    simp only [putIcon, hicon, hfile, hwrite]

theorem IconFault.unique {e' : IconError} (h : t.IconFault settings size e)
    (h' : t.IconFault settings size e') : e = e' :=
  Except.error.inj (congrArg Prod.fst (h.putIcon_eq.symm.trans h'.putIcon_eq))

theorem not_iconFault (hsize : size ≠ 0) (hfree : t.writeFault? (settings.iconPath size) = none) :
    ¬t.IconFault settings size e := by
  rintro (hzero | ⟨-, hrefused⟩)
  · exact hsize hzero
  · rw [write_eq_error_iff.1 (hrefused .empty)] at hfree
    contradiction

theorem putIcon_cases (t : FileTree) (settings : IconSettings) (size : UInt32) :
    (∃ e, t.IconFault settings size e) ∨
      ∃ file t', IsIcon size file ∧ t.write (settings.iconPath size) file = .ok t' ∧
        t.putIcon settings size = (.ok (settings.iconPath size), t') := by
  by_cases hzero : size = 0
  · exact .inl ⟨_, .zero hzero⟩
  obtain ⟨icon, file, hicon, hfile, hisIcon⟩ := exists_isIcon hzero
  rcases hwrite : t.write (settings.iconPath size) file with fault | t'
  · exact .inl ⟨_, .refused hzero (write_error_congr hwrite)⟩
  · refine .inr ⟨file, t', hisIcon, hwrite, ?_⟩
    simp only [putIcon, hicon, hfile, hwrite]

end FileTree

/-- The icons of the sizes stand in the second tree where their paths lead to. All else in it is as in
the first one, and both take or refuse the same icons. -/
structure IconsStand (settings : IconSettings) (sizes : List UInt32) (t t' : FileTree) : Prop where
  linkFree : t'.LinkFree
  sameDirs : t.SameDirs t'
  refuses : ∀ size,
    t'.writeFault? (settings.iconPath size) = t.writeFault? (settings.iconPath size)
  files : ∀ size ∈ sizes, ∃ file k, IsIcon size file ∧ t'.read (settings.iconPath size) = .ok file ∧
    t.target? (settings.iconPath size) = some k ∧ t'.node? k = some (.file file)
  others : ∀ k, (∀ size ∈ sizes, t.target? (settings.iconPath size) ≠ some k) →
    t'.node? k = t.node? k

namespace IconsStand

theorem nil (hlf : t.LinkFree) : IconsStand settings [] t t where
  linkFree := hlf
  sameDirs := .refl t
  refuses _ := rfl
  files := by simp
  others _ _ := rfl

theorem of_write (hlf : t.LinkFree) (hicon : IsIcon size file)
    (h : t.write (settings.iconPath size) file = .ok t') : IconsStand settings [size] t t' := by
  obtain ⟨front, start, hslash, hpath⟩ := settings.exists_iconPath_eq_join
  have hentry := IconSettings.isEntryName_sizedName hslash
  rw [hpath] at h
  obtain ⟨l, hl, hdir, rfl⟩ := (write_join_eq_ok_iff hlf (hentry size)).1 h
  have hput := node?_put t (List.cons_ne_nil (IconSettings.sizedName start size) l) (.file file)
  have htarget : t.target? (settings.iconPath size) = some (IconSettings.sizedName start size :: l) := by
    rw [hpath]
    exact (target?_join_eq_some_iff hlf (hentry size)).2 ⟨l, hl, rfl⟩
  have hlf' := hlf.put (l := IconSettings.sizedName start size :: l) (n := .file file) (by simp)
  have hs := sameDirs_put_file (List.cons_ne_nil _ _) hdir file
  have hnode := (hput _).trans (if_pos rfl)
  constructor
  case linkFree => exact hlf'
  case sameDirs => exact hs
  case refuses =>
    intro other
    rw [hpath, hs.writeFault?_join hlf hlf' (hentry other) hl.folder]
  case files =>
    intro other hother
    obtain rfl := List.mem_singleton.1 hother
    refine ⟨file, _, hicon, ?_, htarget, hnode⟩
    exact read_iconPath hlf' ((target?_iconPath_congr hs hlf hlf' other).trans htarget) hnode
  case others =>
    intro k hk
    rw [hput, if_neg]
    rintro rfl
    exact hk size List.mem_cons_self htarget

theorem append (hlf : t.LinkFree) (h : IconsStand settings xs t t')
    (h' : IconsStand settings ys t' t'') : IconsStand settings (xs ++ ys) t t'' := by
  have htarget (size : UInt32) :
      t'.target? (settings.iconPath size) = t.target? (settings.iconPath size) :=
    target?_iconPath_congr h.sameDirs hlf h.linkFree size
  constructor
  case linkFree => exact h'.linkFree
  case sameDirs => exact h.sameDirs.trans h'.sameDirs
  case refuses => exact fun size => (h'.refuses size).trans (h.refuses size)
  case files =>
    intro size hmem
    by_cases hlater : size ∈ ys
    · obtain ⟨file, k, hicon, hread, hk, hnode⟩ := h'.files size hlater
      exact ⟨file, k, hicon, hread, (htarget size).symm.trans hk, hnode⟩
    · have hearlier := (List.mem_append.1 hmem).resolve_right hlater
      obtain ⟨file, k, hicon, -, hk, hnode⟩ := h.files size hearlier
      have hapart : ∀ other ∈ ys, t'.target? (settings.iconPath other) ≠ some k := by
        intro other hother hsame
        obtain rfl := eq_of_target?_iconPath h.linkFree hsame ((htarget size).trans hk)
        exact hlater hother
      have hnode' := (h'.others k hapart).trans hnode
      have hk' := (target?_iconPath_congr h'.sameDirs h.linkFree h'.linkFree size).trans
        ((htarget size).trans hk)
      exact ⟨file, k, hicon, read_iconPath h'.linkFree hk' hnode', hk, hnode'⟩
  case others =>
    intro k hk
    have hys : ∀ size ∈ ys, t'.target? (settings.iconPath size) ≠ some k := by
      intro size hmem
      rw [htarget]
      exact hk size (List.mem_append_right xs hmem)
    exact (h'.others k hys).trans (h.others k fun size hmem => hk size (List.mem_append_left ys hmem))

theorem iconFault_iff (h : IconsStand settings xs t t') :
    t'.IconFault settings size e ↔ t.IconFault settings size e := by
  have hwrite (content : ByteArray) (fault : FileError) :
      t'.write (settings.iconPath size) content = .error fault ↔
        t.write (settings.iconPath size) content = .error fault := by
    rw [write_eq_error_iff, write_eq_error_iff, h.refuses]
  constructor
  · rintro (hzero | ⟨hsize, hrefused⟩)
    · exact .zero hzero
    · exact .refused hsize fun content => (hwrite content _).1 (hrefused content)
  · rintro (hzero | ⟨hsize, hrefused⟩)
    · exact .zero hzero
    · exact .refused hsize fun content => (hwrite content _).2 (hrefused content)

end IconsStand

namespace FileTree

theorem putIcons_append (hlf : t.LinkFree) (h : ∀ size ∈ xs, ∀ e, ¬t.IconFault settings size e) :
    ∃ t', IconsStand settings xs t t' ∧ ∀ rest, putIcons settings t (xs ++ rest) =
      ((putIcons settings t' rest).1.map (xs.map settings.iconPath ++ ·),
        (putIcons settings t' rest).2) := by
  induction xs generalizing t with
  | nil =>
    refine ⟨t, .nil hlf, fun rest => ?_⟩
    rw [List.nil_append]
    rcases putIcons settings t rest with ⟨e | paths, u⟩ <;> rfl
  | cons size xs ih =>
    obtain ⟨e, hfault⟩ | ⟨file, t₁, hicon, hwrite, hput⟩ := putIcon_cases t settings size
    · exact absurd hfault (h size List.mem_cons_self e)
    have hone : IconsStand settings [size] t t₁ := .of_write hlf hicon hwrite
    obtain ⟨t', hrest, heq⟩ := ih hone.linkFree fun other hother e hfault =>
      h other (List.mem_cons_of_mem size hother) e (hone.iconFault_iff.1 hfault)
    refine ⟨t', hone.append hlf hrest, fun rest => ?_⟩
    rw [List.cons_append, putIcons, hput]
    simp only [heq]
    rcases putIcons settings t' rest with ⟨e | paths, u⟩ <;> rfl

theorem putIcons_of_fault (h : t.IconFault settings size e) (rest : List UInt32) :
    putIcons settings t (size :: rest) = (.error e, t) := by
  rw [putIcons, h.putIcon_eq]

end FileTree

/-- A list is split before the first element with a property in one way only. -/
theorem append_cons_inj_of_first {α : Type} {P : α → Prop} {xs xs' ys ys' : List α} {a b : α}
    (h : xs ++ a :: xs' = ys ++ b :: ys') (hxs : ∀ x ∈ xs, ¬P x) (ha : P a)
    (hys : ∀ y ∈ ys, ¬P y) (hb : P b) : xs = ys ∧ a = b := by
  induction xs generalizing ys with
  | nil =>
    cases ys with
    | nil => exact ⟨rfl, (List.cons.inj h).1⟩
    | cons y ys =>
      obtain ⟨rfl, -⟩ := List.cons.inj h
      exact absurd ha (hys _ List.mem_cons_self)
  | cons x xs ih =>
    cases ys with
    | nil =>
      obtain ⟨rfl, -⟩ := List.cons.inj h
      exact absurd hb (hxs _ List.mem_cons_self)
    | cons y ys =>
      obtain ⟨rfl, hrest⟩ := List.cons.inj h
      obtain ⟨rfl, rfl⟩ := ih hrest (fun z hz => hxs z (List.mem_cons_of_mem _ hz))
        fun z hz => hys z (List.mem_cons_of_mem _ hz)
      exact ⟨rfl, rfl⟩

/-- The result of a set of icons: all of them, or those before the first that fails. -/
inductive MakesIcons (settings : IconSettings) (t t' : FileTree) :
    Except IconError (List Path) → Prop
  | all (hnone : ∀ size ∈ settings.sizes, ∀ e, ¬t.IconFault settings size e)
    (hstand : IconsStand settings settings.sizes t t') :
    MakesIcons settings t t' (.ok (settings.sizes.map fun size =>
      settings.outputDir.join (settings.filePrefix ++ size.toNat.repr ++ ".png")))
  | upTo {before size after e} (hsizes : settings.sizes = before ++ size :: after)
    (hnone : ∀ earlier ∈ before, ∀ e, ¬t.IconFault settings earlier e)
    (hfault : t.IconFault settings size e) (hstand : IconsStand settings before t t') :
    MakesIcons settings t t' (.error e)

namespace MakesIcons

variable {r : Except IconError (List Path)}

theorem eq_ok (h : MakesIcons settings t t' r)
    (hnone : ∀ size ∈ settings.sizes, ∀ e, ¬t.IconFault settings size e) :
    r = .ok (settings.sizes.map settings.iconPath) ∧ IconsStand settings settings.sizes t t' := by
  cases h with
  | all _ hstand => exact ⟨rfl, hstand⟩
  | upTo hsizes _ hfault => exact absurd hfault (hnone _ (by simp [hsizes]) _)

theorem eq_error {before after : List UInt32} (h : MakesIcons settings t t' r)
    (hsizes : settings.sizes = before ++ size :: after)
    (hnone : ∀ earlier ∈ before, ∀ e, ¬t.IconFault settings earlier e)
    (hfault : t.IconFault settings size e) : r = .error e ∧ IconsStand settings before t t' := by
  cases h with
  | all hall => exact absurd hfault (hall size (by simp [hsizes]) e)
  | upTo hsizes' hnone' hfault' hstand =>
    obtain ⟨rfl, rfl⟩ := append_cons_inj_of_first (P := fun size => ∃ e, t.IconFault settings size e)
      (hsizes'.symm.trans hsizes) (fun _ hx ⟨e, he⟩ => hnone' _ hx e he) ⟨_, hfault'⟩
      (fun _ hx ⟨e, he⟩ => hnone _ hx e he) ⟨e, hfault⟩
    exact ⟨congrArg _ (hfault'.unique hfault), hstand⟩

end MakesIcons

theorem makesIcons_putIcons (hlf : t.LinkFree) (settings : IconSettings) :
    MakesIcons settings t (putIcons settings t settings.sizes).2
      (putIcons settings t settings.sizes).1 := by
  classical
  rcases hfind : settings.sizes.find? fun size => ∃ e, t.IconFault settings size e with - | size
  · have hnone : ∀ size ∈ settings.sizes, ∀ e, ¬t.IconFault settings size e := by
      simpa using hfind
    obtain ⟨t', hstand, heq⟩ := putIcons_append hlf hnone
    have hall := heq []
    simp only [List.append_nil, putIcons, Except.map] at hall
    rw [hall]
    exact .all hnone hstand
  · obtain ⟨hfault, before, after, hsizes, hbefore⟩ := List.find?_eq_some_iff_append.1 hfind
    obtain ⟨e, hfault⟩ : ∃ e, t.IconFault settings size e := by simpa using hfault
    have hnone : ∀ earlier ∈ before, ∀ e, ¬t.IconFault settings earlier e := by simpa using hbefore
    obtain ⟨t', hstand, heq⟩ := putIcons_append hlf hnone
    have hstop := heq (size :: after)
    rw [putIcons_of_fault (hstand.iconFault_iff.2 hfault)] at hstop
    rw [hsizes, hstop]
    exact .upTo hsizes hnone hfault hstand

namespace Session

variable (filter : Log.Filter) (s : Session)

theorem yields_writeIcon (settings : IconSettings) (size : UInt32) :
    Yields (writeIcon (host filter) settings size) s (s.tree.putIcon settings size).1
      (s.tree.putIcon settings size).2 := by
  unfold writeIcon putIcon
  rcases renderIcon size with e | icon
  · exact .pure _ rfl
  · simp only
    rcases pngFile icon with e | content
    · exact .pure _ rfl
    · simp only [IconSettings.join_fileName]
      rcases hwrite : s.tree.write (settings.iconPath size) content with e | t
      · exact .bind (yields_write_error filter s hwrite) fun s₁ h₁ => .pure _ h₁
      · refine .bind (yields_write_ok filter s hwrite) fun s₁ h₁ => ?_
        exact .bind (yields_log filter s₁ _) fun s₂ h₂ => .pure _ (h₂.trans h₁)

theorem yields_writeIcons (settings : IconSettings) (sizes : List UInt32) :
    Yields (writeIcons (host filter) settings sizes) s (putIcons settings s.tree sizes).1
      (putIcons settings s.tree sizes).2 := by
  induction sizes generalizing s with
  | nil => exact .pure _ rfl
  | cons size sizes ih =>
    unfold writeIcons putIcons
    refine .bind (yields_writeIcon filter s settings size) fun s₁ h₁ => ?_
    rcases hput : s.tree.putIcon settings size with ⟨e | path, t₁⟩
    · rw [hput] at h₁
      exact .pure _ h₁
    · rw [hput] at h₁
      have hrest := ih s₁
      rw [h₁] at hrest
      refine .bind hrest fun s₂ h₂ => ?_
      rcases hputs : putIcons settings t₁ sizes with ⟨e | paths, t₂⟩
      · rw [hputs] at h₂
        simp only [hputs]
        exact .pure _ h₂
      · rw [hputs] at h₂
        simp only [hputs]
        exact .pure _ h₂

theorem yields_generateIcons (settings : IconSettings) {made : Session}
    (hmade : ((host filter).createDirs settings.outputDir).run s = (.ok (), made)) :
    Yields (generateIcons (host filter) settings) s (putIcons settings made.tree settings.sizes).1
      (putIcons settings made.tree settings.sizes).2 := by
  have hcreate : Yields ((host filter).createDirs settings.outputDir) s (.ok ()) made.tree :=
    ⟨congrArg Prod.fst hmade, congrArg (·.2.tree) hmade⟩
  refine .bind hcreate fun s₁ h₁ => ?_
  rw [← h₁]
  exact yields_writeIcons filter s₁ settings settings.sizes

end Session

/-- Once their directory is there, icons are made up to the first size that is zero or whose file
cannot be written. Each stands where no other size's does, and no other file changes. -/
theorem makesIcons_generateIcons (filter : Log.Filter) (settings : IconSettings) {s made : Session}
    (hlf : s.tree.LinkFree)
    (hmade : ((Session.host filter).createDirs settings.outputDir).run s = (.ok (), made)) :
    (∀ a b, a ≠ b → settings.iconPath a ≠ settings.iconPath b ∧
      ∀ k, made.tree.target? (settings.iconPath a) = some k →
        made.tree.target? (settings.iconPath b) ≠ some k) ∧
    (s.tree.Grows made.tree ∧
      ∀ k content, made.tree.node? k = some (.file content) ↔ s.tree.node? k = some (.file content)) ∧
    MakesIcons settings made.tree ((generateIcons (Session.host filter) settings).run s).2.tree
      ((generateIcons (Session.host filter) settings).run s).1 := by
  have hgrows : s.tree.Grows made.tree := by
    have hcreate := (Session.yields_createDirs filter s settings.outputDir).2
    rw [hmade] at hcreate
    rw [hcreate]
    exact grows_createDirs s.tree settings.outputDir
  have hlf' := hgrows.linkFree hlf
  refine ⟨fun a b hne => ⟨fun hpath => hne (settings.iconPath_injective hpath), ?_⟩,
    ⟨hgrows, fun k content => hgrows.node?_eq_file_iff⟩, ?_⟩
  · intro k ha hb
    exact hne (eq_of_target?_iconPath hlf' ha hb)
  · obtain ⟨hresult, htree⟩ := Session.yields_generateIcons filter s settings hmade
    rw [hresult, htree]
    exact makesIcons_putIcons hlf' settings

namespace FileTree

def outDirectory : FileTree := ⟨["work"], [(["work"], .directory), (["out", "work"], .directory)]⟩

theorem createDir_empty : empty.createDir ⟨"out"⟩ = .ok outDirectory := by
  have hplace : empty.locate .keep ⟨"out"⟩ = .ok (.vacant ["work"] "out") := by decide +kernel
  unfold createDir create
  rw [hplace]
  rfl

theorem createDirs_empty : empty.createDirs ⟨"out"⟩ = (.ok (), outDirectory) := by
  unfold createDirs createDirsTo
  rw [if_neg (by decide), createDir_empty]

end FileTree

theorem exists_createDirs_empty : ∃ made : Session,
    ((Session.host []).createDirs ⟨"out"⟩).run (Session.start FileTree.empty) = (.ok (), made) ∧
      made.tree = outDirectory := by
  obtain ⟨hresult, htree⟩ := Session.yields_createDirs [] (Session.start FileTree.empty) ⟨"out"⟩
  have hcreate : (Session.start FileTree.empty).tree.createDirs ⟨"out"⟩ = (.ok (), outDirectory) :=
    createDirs_empty
  rw [hcreate] at hresult htree
  exact ⟨_, Prod.ext hresult rfl, htree⟩

def outIcons (sizes : List UInt32) : IconSettings := ⟨⟨"out"⟩, sizes, "icon"⟩

theorem not_iconFault_outIcons (sizes : List UInt32) {size : UInt32} (h : size ∈ [16, 32])
    (e : IconError) : ¬outDirectory.IconFault (outIcons sizes) size e := by
  have hsmall : outDirectory.writeFault? ((outIcons []).iconPath 16) = none := by
    decide +kernel
  have hlarge : outDirectory.writeFault? ((outIcons []).iconPath 32) = none := by
    decide +kernel
  rcases List.mem_cons.1 h with rfl | h
  · exact not_iconFault (by decide) hsmall
  · obtain rfl := List.mem_singleton.1 h
    exact not_iconFault (by decide) hlarge

/-- Into an empty directory: sizes of which one comes twice, and a size of zero after two others. -/
theorem makesIcons_generateIcons_emptyDirectory :
    let s := Session.start FileTree.empty
    let run (sizes : List UInt32) := (generateIcons (Session.host []) (outIcons sizes)).run s
    s.tree.LinkFree ∧ (∃ made, ((Session.host []).createDirs ⟨"out"⟩).run s = (.ok (), made)) ∧
      (run [16, 32, 16]).1 =
        .ok [⟨"out/icon16.png"⟩, ⟨"out/icon32.png"⟩, ⟨"out/icon16.png"⟩] ∧
      (∃ file, IsIcon 16 file ∧ (run [16, 32, 16]).2.tree.read ⟨"out/icon16.png"⟩ = .ok file) ∧
      (∃ file, IsIcon 32 file ∧ (run [16, 32, 16]).2.tree.read ⟨"out/icon32.png"⟩ = .ok file) ∧
      (run [16, 32, 0, 48]).1 = .error (.render 0 (.invalidDimensions ⟨0, 0⟩)) ∧
      (∃ file, IsIcon 32 file ∧ (run [16, 32, 0, 48]).2.tree.read ⟨"out/icon32.png"⟩ = .ok file) ∧
      (run [16, 32, 0, 48]).2.tree.node? ["icon48.png", "out", "work"] = none := by
  intro s run
  obtain ⟨made, hmade, htree⟩ := exists_createDirs_empty
  have hmakes (sizes : List UInt32) :
      MakesIcons (outIcons sizes) outDirectory (run sizes).2.tree (run sizes).1 :=
    htree ▸ (makesIcons_generateIcons [] (outIcons sizes) linkFree_empty hmade).2.2
  have hsubset : (outIcons [16, 32, 16]).sizes ⊆ [16, 32] := by simp [outIcons]
  obtain ⟨hok, hall⟩ := (hmakes [16, 32, 16]).eq_ok fun size hmem =>
    not_iconFault_outIcons _ (hsubset hmem)
  have hsizes : (outIcons [16, 32, 0, 48]).sizes = [16, 32] ++ 0 :: [48] := rfl
  obtain ⟨herror, hbefore⟩ := (hmakes [16, 32, 0, 48]).eq_error hsizes
    (fun size hmem => not_iconFault_outIcons _ hmem) (.zero rfl)
  obtain ⟨small, -, hsmall, hreadSmall, -⟩ := hall.files 16 (by decide)
  obtain ⟨large, -, hlarge, hreadLarge, -⟩ := hall.files 32 (by decide)
  obtain ⟨last, -, hlast, hreadLast, -⟩ := hbefore.files 32 (by decide)
  refine ⟨linkFree_empty, ⟨made, hmade⟩, hok, ⟨small, hsmall, hreadSmall⟩, ⟨large, hlarge, hreadLarge⟩,
    herror, ⟨last, hlast, hreadLast⟩, ?_⟩
  have hsmallApart : outDirectory.target? ⟨"out/icon16.png"⟩ ≠
      some ["icon48.png", "out", "work"] := by decide +kernel
  have hlargeApart : outDirectory.target? ⟨"out/icon32.png"⟩ ≠
      some ["icon48.png", "out", "work"] := by decide +kernel
  have hnone : outDirectory.node? ["icon48.png", "out", "work"] = none := by decide +kernel
  refine (hbefore.others _ ?_).trans hnone
  exact List.forall_mem_cons.2 ⟨hsmallApart, List.forall_mem_singleton.2 hlargeApart⟩

end Storefront
