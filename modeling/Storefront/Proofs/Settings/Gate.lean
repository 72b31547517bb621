import Storefront.Icon.Set
import Storefront.Proofs.Batch.Causes
import Storefront.Proofs.Icon.Painting
import Storefront.Proofs.Image.Canvas
import Storefront.Proofs.Text.Blank
import Storefront.Settings.Load

/-! Settings are valid exactly when the pictures and icons they ask for can be made. -/

namespace Storefront

namespace Settings

/-- Nothing in the settings keeps the tools from making what they ask for. -/
structure Usable (s : Settings) : Prop where
  normalizes : ∀ (p : Picture) (background : Color), p.size.isEmpty = false →
    ∃ n, p.normalize ⟨s.screenshots.target, background⟩ = .ok n
  renders : ∀ size ∈ s.icons.sizes, ∃ icon, renderIcon size = .ok icon
  extension : ∃ entry ∈ s.screenshots.extensions, ∃ c ∈ entry.toList, isBlank c = false

theorem validate_eq_ok_iff (s : Settings) : s.validate = .ok () ↔
    s.screenshots.target.isEmpty = false ∧ 0 ∉ s.icons.sizes ∧
      s.screenshots.extensions.all isBlankText = false := by
  unfold validate
  cases s.screenshots.target.isEmpty <;> cases s.screenshots.extensions.all isBlankText <;>
    by_cases hzero : (0 : UInt32) ∈ s.icons.sizes <;> simp [hzero]

theorem all_isBlankText_eq_false_iff (extensions : List String) :
    extensions.all isBlankText = false ↔
      ∃ entry ∈ extensions, ∃ c ∈ entry.toList, isBlank c = false := by
  have hentry (entry : String) :
      isBlankText entry = false ↔ ∃ c ∈ entry.toList, isBlank c = false := by
    rw [isBlankText, ← Bool.not_eq_true, List.isEmpty_iff, trim_eq_nil_iff]
    simp
  simp only [List.all_eq_false, Bool.not_eq_true, hentry]

theorem renderIcon_cases (size : UInt32) :
    size = 0 ∧ renderIcon size = .error (.invalidDimensions ⟨size, size⟩) ∨
      size ≠ 0 ∧ ∃ icon, renderIcon size = .ok icon := by
  by_cases hsize : size = 0
  · exact .inl ⟨hsize, by rw [renderIcon, Icon.render?, if_pos hsize]⟩
  · exact .inr ⟨hsize, _, renderIcon_of_ne_zero hsize⟩

theorem validate_eq_ok_iff_usable (s : Settings) : s.validate = .ok () ↔ s.Usable := by
  rw [validate_eq_ok_iff, all_isBlankText_eq_false_iff]
  constructor
  · rintro ⟨htarget, hzero, hextension⟩
    refine ⟨fun p background hp => ?_, fun size hsize => ?_, hextension⟩
    · exact Picture.exists_normalize_iff.2 ⟨hp, htarget⟩
    · obtain ⟨rfl, -⟩ | ⟨-, hicon⟩ := renderIcon_cases size
      · exact absurd hsize hzero
      · exact hicon
  · rintro ⟨hnormalizes, hrenders, hextension⟩
    refine ⟨?_, fun hzero => ?_, hextension⟩
    · have hpixel : (Picture.rgb8 (.ofFn ⟨1, 1⟩ fun _ _ => Color.white)).size.isEmpty = false := rfl
      exact (Picture.exists_normalize_iff.1 (hnormalizes _ Color.white hpixel)).2
    · obtain ⟨icon, hicon⟩ := hrenders 0 hzero
      contradiction

theorem validate_of_ofContent {content : Except FileError ByteArray} {s : Settings}
    (h : ofContent content = .ok s) : s.validate = .ok () := by
  unfold ofContent at h
  rcases content with e | bytes
  · contradiction
  · rcases hutf : String.fromUTF8? bytes with - | text
    · simp [hutf] at h
    · rcases hparse : Json.parse json text with e | settings
      · simp [hutf, hparse] at h
      · rcases hvalid : settings.validate with e | u
        · simp [hutf, hparse, hvalid] at h
        · obtain rfl : settings = s := by simpa [hutf, hparse, hvalid] using h
          exact hvalid

theorem ofContent_toUTF8 {text : String} {s : Settings} (hparse : Json.parse json text = .ok s)
    (hvalid : s.validate = .ok ()) : ofContent (.ok text.toUTF8) = .ok s := by
  have hutf : String.fromUTF8? text.toUTF8 = some text := dif_pos text.isValidUTF8
  simp only [ofContent, hutf, hparse, hvalid]

theorem validate_default : default.validate = .ok () := by decide

section

variable {τ : Type} (host : Host (StateM τ))

def Loaded (s : Settings) : Prop :=
  (∃ t, ((load host).run t).1 = .ok s) ∨ ∃ p t, ((loadFrom host p).run t).1 = .ok s

theorem gives_loadFrom (p : Path) :
    Gives (loadFrom host p) (∀ s, · = .ok s → s.validate = .ok ()) := by
  apply Gives.bind
  intro content
  exact .pure fun s h => validate_of_ofContent h

theorem gives_load : Gives (load host) (∀ s, · = .ok s → s.validate = .ok ()) := by
  apply Gives.bind
  intro held
  split
  · exact gives_loadFrom host fileName
  · refine .pure fun s h => ?_
    rw [← Except.ok.inj h]
    exact validate_default

variable {host} in
theorem Loaded.validate {s : Settings} (h : Loaded host s) : s.validate = .ok () := by
  obtain ⟨t, ht⟩ | ⟨p, t, ht⟩ := h
  · exact gives_load host t s ht
  · exact gives_loadFrom host p t s ht

end

end Settings

section

variable {τ : Type} (host : Host (StateM τ))

theorem gives_normalizeBatch [Codecs] (observers : Observers (StateM τ)) (settings : ScreenshotSettings)
    (files : List Path) (hs : settings.target.isEmpty = false) :
    Gives (normalizeBatch host observers settings files) fun report => ∀ outcome ∈ report.outcomes,
      ∀ src, outcome ≠ .failed src (ImageError.invalidDimensions settings.target).message := by
  intro t outcome houtcome src h
  obtain ⟨f, hfault⟩ | ⟨e, harises, hmessage⟩ :=
    causes_normalizeBatch host observers settings files t outcome houtcome src _ h
  · exact ImageError.message_ne_fault _ f hfault
  · obtain rfl := ImageError.eq_invalidDimensions hmessage.symm
    obtain - | - | htarget := harises
    rw [hs] at htarget
    contradiction

def IconError.IsMachine (settings : IconSettings) (e : IconError) : Prop :=
  (∃ fault, e = .directory settings.outputDir fault) ∨
    ∃ size ∈ settings.sizes, ∃ fault,
      e = .write (settings.outputDir.join (settings.fileName size)) fault

theorem exists_pngFile_renderIcon {size : UInt32} (h : size ≠ 0) :
    ∃ icon file, renderIcon size = .ok icon ∧ pngFile icon = .ok file ∧
      Png.encode icon = .ok file := by
  have hicon := renderIcon_of_ne_zero h
  have hsize := (Icon.depicts_drawAll size).size_eq
  generalize Shape.drawAll (Icon.shapes size) Color.white (Icon.gradient size) = icon at hicon hsize
  have hpixels : icon.size.isEmpty = false := by
    rw [hsize]
    simpa [Dimensions.isEmpty] using h
  obtain ⟨file, hfile, hencode⟩ := exists_pngFile hpixels
  exact ⟨icon, file, hicon, hfile, hencode⟩

theorem gives_writeIcon (settings : IconSettings) {size : UInt32} (hsize : size ≠ 0)
    (hmem : size ∈ settings.sizes) : Gives (writeIcon host settings size)
      (∀ e, · = .error e → e.IsMachine settings) := by
  obtain ⟨icon, file, hicon, hfile, -⟩ := exists_pngFile_renderIcon hsize
  unfold writeIcon
  simp only [hicon, hfile]
  apply Gives.bind
  intro written
  rcases written with fault | u
  · refine .pure ?_
    intro e he
    exact .inr ⟨size, hmem, fault, (Except.error.inj he).symm⟩
  · exact .bind fun _ => .pure (by simp)

theorem gives_writeIcons (settings : IconSettings) {sizes : List UInt32}
    (h : ∀ size ∈ sizes, size ≠ 0 ∧ size ∈ settings.sizes) : Gives (writeIcons host settings sizes)
      (∀ e, · = .error e → e.IsMachine settings) := by
  induction sizes with
  | nil => exact .pure (by simp)
  | cons size sizes ih =>
    obtain ⟨hsize, hmem⟩ := h size List.mem_cons_self
    have hrest := ih fun size hs => h size (List.mem_cons_of_mem _ hs)
    refine (gives_writeIcon host settings hsize hmem).bind_of fun r hr => ?_
    rcases r with e | path
    · exact .pure fun e' he => hr e' (by rw [Except.error.inj he])
    · refine hrest.bind_of fun r hr => ?_
      rcases r with e | paths
      · exact .pure fun e' he => hr e' (by rw [Except.error.inj he])
      · exact .pure (by simp)

theorem gives_generateIcons (settings : IconSettings) (h : 0 ∉ settings.sizes) :
    Gives (generateIcons host settings) (∀ e, · = .error e → e.IsMachine settings) := by
  unfold generateIcons
  apply Gives.bind
  intro created
  rcases created with fault | u
  · refine .pure ?_
    intro e he
    exact .inl ⟨fault, (Except.error.inj he).symm⟩
  · exact gives_writeIcons host settings fun size hs => ⟨fun hzero => h (hzero ▸ hs), hs⟩

end

/-- Valid settings are the usable ones, all that is loaded is valid, and with what is loaded no
item fails for the size of the canvas and no icon for its size. -/
theorem Settings.validate_gate [Codecs] :
    (∀ s : Settings, s.validate = .ok () ↔ s.Usable) ∧
    ∀ {τ : Type} (host : Host (StateM τ)) (s : Settings), Loaded host s →
      s.validate = .ok () ∧
      (∀ (observers : Observers (StateM τ)) (files : List Path),
        Gives (normalizeBatch host observers s.screenshots files) fun report =>
          ∀ outcome ∈ report.outcomes, ∀ src,
            outcome ≠ .failed src (ImageError.invalidDimensions s.screenshots.target).message) ∧
      Gives (generateIcons host s.icons) (∀ e, · = .error e → e.IsMachine s.icons) := by
  refine ⟨validate_eq_ok_iff_usable, ?_⟩
  intro τ host s hloaded
  have hvalid := hloaded.validate
  obtain ⟨htarget, hzero, -⟩ := (validate_eq_ok_iff s).1 hvalid
  refine ⟨hvalid, fun observers files => ?_, gives_generateIcons host s.icons hzero⟩
  exact gives_normalizeBatch host observers s.screenshots files htarget

namespace Settings

def narrowText : String :=
  "\x7b\"screenshots\":\x7b\"target_width\":640,\"extensions\":[\"JPG\"]\x7d," ++
    "\"icons\":\x7b\"sizes\":[24]\x7d\x7d"

def narrow : Settings where
  screenshots := { ScreenshotSettings.default with targetWidth := 640, extensions := ["JPG"] }
  icons := { IconSettings.default with sizes := [24] }

def narrowDirectory : FileTree :=
  ⟨["work"], [(["work"], .directory), (["store-assets.json", "work"], .file narrowText.toUTF8)]⟩

theorem fst_load (filter : Log.Filter) (s : Session) : ((load (Session.host filter)).run s).1 =
    if s.tree.holds fileName then ofContent (s.tree.read fileName) else .ok default := by
  unfold load
  show ((if s.tree.holds fileName then loadFrom (Session.host filter) fileName
    else pure (.ok default)).run s).1 = _
  split <;> rfl

theorem parse_narrowText : Json.parse json narrowText = .ok narrow := by
  have hsome : (Json.parse json narrowText).toOption = some narrow := by decide +kernel
  cases hparse : Json.parse json narrowText with
  | error fault =>
    rw [hparse] at hsome
    cases hsome
  | ok s =>
    rw [hparse] at hsome
    exact congrArg Except.ok (Option.some.inj hsome)

theorem loaded_narrow : Loaded (Session.host []) narrow := by
  have hheld : narrowDirectory.holds fileName = true := by decide +kernel
  have hread : narrowDirectory.read fileName = .ok narrowText.toUTF8 := rfl
  refine .inl ⟨Session.start narrowDirectory, ?_⟩
  rw [fst_load]
  show (if narrowDirectory.holds fileName then ofContent (narrowDirectory.read fileName) else _) = _
  rw [if_pos hheld, hread]
  exact ofContent_toUTF8 parse_narrowText (by decide +kernel)

/-- A working directory with a file that asks for another width, other extensions and one icon. -/
theorem validate_gate_narrow :
    Loaded (Session.host []) narrow ∧ narrow.Usable ∧
      (∀ (observers : Observers (StateM Session)) (files : List Path),
        Gives (normalizeBatch (Session.host []) observers narrow.screenshots files) fun report =>
          ∀ outcome ∈ report.outcomes, ∀ src,
            outcome ≠ .failed src "Invalid dimensions 640x800") ∧
      Gives (generateIcons (Session.host []) narrow.icons) (∀ e, · = .error e →
        (∃ fault, e = .directory ⟨"assets"⟩ fault) ∨
          ∃ fault, e = .write ⟨"assets/icon24.png"⟩ fault) := by
  obtain ⟨hvalid, hbatch, hicons⟩ := validate_gate.2 (Session.host []) narrow loaded_narrow
  refine ⟨loaded_narrow, (validate_gate.1 narrow).1 hvalid, hbatch, fun t e he => ?_⟩
  obtain ⟨fault, rfl⟩ | ⟨size, hsize, fault, rfl⟩ := hicons t e he
  · exact .inl ⟨fault, rfl⟩
  · obtain rfl := List.mem_singleton.1 hsize
    exact .inr ⟨fault, rfl⟩

end Settings

end Storefront
