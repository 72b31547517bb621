import Storefront.Proofs.Json.Overlay
import Storefront.Proofs.Json.RoundTrip
import Storefront.Proofs.Report.MemberOrder
import Storefront.Settings.Json

/-! Settings are laid over the default ones, in whatever order the members of their objects stand. -/

namespace Storefront

open Json Reader Format Record

namespace ScreenshotSettings

def known : List (Known ScreenshotSettings) :=
  [⟨Path, "input_dir", HoldsPath, inputDir⟩,
   ⟨Path, "output_dir", HoldsPath, outputDir⟩,
   ⟨UInt32, "target_width", HoldsNumber, targetWidth⟩,
   ⟨UInt32, "target_height", HoldsNumber, targetHeight⟩,
   ⟨Color, "background", HoldsColor, background⟩,
   ⟨List String, "extensions", HoldsList HoldsString, extensions⟩]

def places : List (KnownPlace Fields ScreenshotSettings) :=
  [⟨⟨Path, "input_dir", HoldsPath, inputDir⟩, .path, Fields.inputDir,
     fun a p => { p with inputDir := some a }⟩,
   ⟨⟨Path, "output_dir", HoldsPath, outputDir⟩, .path, Fields.outputDir,
     fun a p => { p with outputDir := some a }⟩,
   ⟨⟨UInt32, "target_width", HoldsNumber, targetWidth⟩, .uint32, Fields.targetWidth,
     fun a p => { p with targetWidth := some a }⟩,
   ⟨⟨UInt32, "target_height", HoldsNumber, targetHeight⟩, .uint32, Fields.targetHeight,
     fun a p => { p with targetHeight := some a }⟩,
   ⟨⟨Color, "background", HoldsColor, background⟩, .color, Fields.background,
     fun a p => { p with background := some a }⟩,
   ⟨⟨List String, "extensions", HoldsList HoldsString, extensions⟩, .list .string, Fields.extensions,
     fun a p => { p with extensions := some a }⟩]

theorem lawful : record.Lawful (places.map KnownPlace.slot) where
  fields := rfl
  blind := by
    simp [places, KnownPlace.slot, blind_path, blind_uint32, blind_color, blind_list blind_string]
  slots := ⟨by simp [places, KnownPlace.slot], by simp [places, KnownPlace.slot, Slot.apart_iff]⟩

theorem blind_json : json.Blind := blind_record lawful

theorem finish_eq (p : Fields) (s : ScreenshotSettings)
    (h : ∀ place ∈ places, (place.get p).getD (place.known.part default) = place.known.part s) :
    record.finish p = .ok s := by
  cases s
  simp only [places, List.forall_mem_cons] at h
  obtain ⟨hinput, houtput, hwidth, hheight, hbackground, hextensions, -⟩ := h
  simp [record, ofFields, hinput, houtput, hwidth, hheight, hbackground, hextensions]

theorem readsHeld_json : json.ReadsHeld 2 (HoldsOverlay known default) := by
  refine readsHeld_overlay lawful (by decide) (by simp [places, record]) ?_ finish_eq
  simp [places, readsHeld_path, readsHeld_uint32, readsHeld_color,
    readsHeld_list blind_string readsHeld_string]

theorem exists_holdsOverlay {ms : List Member} {blank : List Char} (hms : WellTyped known ms)
    (hblank : IsGap blank) : ∃ s, HoldsOverlay known default (objectText ms blank) s := by
  have hparts := hms.exists_part default
  simp only [known, List.forall_mem_cons] at hparts
  obtain ⟨⟨input, hinput⟩, ⟨output, houtput⟩, ⟨width, hwidth⟩, ⟨height, hheight⟩,
    ⟨background, hbackground⟩, ⟨extensions, hextensions⟩, -⟩ := hparts
  refine ⟨⟨input, output, width, height, background, extensions⟩, ms, blank, rfl, hblank, hms, ?_⟩
  simp only [Overlays, known, List.forall_mem_cons]
  exact ⟨hinput, houtput, hwidth, hheight, hbackground, hextensions, by simp⟩

end ScreenshotSettings

namespace IconSettings

def known : List (Known IconSettings) :=
  [⟨Path, "output_dir", HoldsPath, outputDir⟩,
   ⟨List UInt32, "sizes", HoldsList HoldsNumber, sizes⟩,
   ⟨String, "file_prefix", HoldsString, filePrefix⟩]

def places : List (KnownPlace Fields IconSettings) :=
  [⟨⟨Path, "output_dir", HoldsPath, outputDir⟩, .path, Fields.outputDir,
     fun a p => { p with outputDir := some a }⟩,
   ⟨⟨List UInt32, "sizes", HoldsList HoldsNumber, sizes⟩, .list .uint32, Fields.sizes,
     fun a p => { p with sizes := some a }⟩,
   ⟨⟨String, "file_prefix", HoldsString, filePrefix⟩, .string, Fields.filePrefix,
     fun a p => { p with filePrefix := some a }⟩]

theorem lawful : record.Lawful (places.map KnownPlace.slot) where
  fields := rfl
  blind := by simp [places, KnownPlace.slot, blind_path, blind_list blind_uint32, blind_string]
  slots := ⟨by simp [places, KnownPlace.slot], by simp [places, KnownPlace.slot, Slot.apart_iff]⟩

theorem blind_json : json.Blind := blind_record lawful

theorem finish_eq (p : Fields) (s : IconSettings)
    (h : ∀ place ∈ places, (place.get p).getD (place.known.part default) = place.known.part s) :
    record.finish p = .ok s := by
  cases s
  simp only [places, List.forall_mem_cons] at h
  obtain ⟨houtput, hsizes, hprefix, -⟩ := h
  simp [record, ofFields, houtput, hsizes, hprefix]

theorem readsHeld_json : json.ReadsHeld 2 (HoldsOverlay known default) := by
  refine readsHeld_overlay lawful (by decide) (by simp [places, record]) ?_ finish_eq
  simp [places, readsHeld_path, readsHeld_list blind_uint32 readsHeld_uint32, readsHeld_string]

end IconSettings

namespace Settings

def known : List (Known Settings) :=
  [⟨ScreenshotSettings, "screenshots",
     HoldsOverlay ScreenshotSettings.known ScreenshotSettings.default, screenshots⟩,
   ⟨IconSettings, "icons", HoldsOverlay IconSettings.known IconSettings.default, icons⟩]

def places : List (KnownPlace Fields Settings) :=
  [⟨⟨ScreenshotSettings, "screenshots",
      HoldsOverlay ScreenshotSettings.known ScreenshotSettings.default, screenshots⟩,
     ScreenshotSettings.json, Fields.screenshots, fun a p => { p with screenshots := some a }⟩,
   ⟨⟨IconSettings, "icons", HoldsOverlay IconSettings.known IconSettings.default, icons⟩,
     IconSettings.json, Fields.icons, fun a p => { p with icons := some a }⟩]

theorem lawful : record.Lawful (places.map KnownPlace.slot) where
  fields := rfl
  blind := by simp [places, KnownPlace.slot, ScreenshotSettings.blind_json, IconSettings.blind_json]
  slots := ⟨by simp [places, KnownPlace.slot], by simp [places, KnownPlace.slot, Slot.apart_iff]⟩

theorem blind_json : json.Blind := blind_record lawful

theorem finish_eq (p : Fields) (s : Settings)
    (h : ∀ place ∈ places, (place.get p).getD (place.known.part default) = place.known.part s) :
    record.finish p = .ok s := by
  cases s
  simp only [places, List.forall_mem_cons] at h
  obtain ⟨hscreenshots, hicons, -⟩ := h
  change p.screenshots.getD ScreenshotSettings.default = _ at hscreenshots
  change p.icons.getD IconSettings.default = _ at hicons
  simp [record, ofFields, default, hscreenshots, hicons]

theorem readsHeld_json : json.ReadsHeld 3 (HoldsOverlay known default) := by
  refine readsHeld_overlay lawful (by decide) (by simp [places, record]) ?_ finish_eq
  simp [places, ScreenshotSettings.readsHeld_json, IconSettings.readsHeld_json]

theorem exists_overlays {ms : List Member} (hms : WellTyped known ms) :
    ∃ s, Overlays known default ms s := by
  have hparts := hms.exists_part default
  simp only [known, List.forall_mem_cons] at hparts
  obtain ⟨⟨screenshots, hscreenshots⟩, ⟨icons, hicons⟩, -⟩ := hparts
  refine ⟨⟨screenshots, icons⟩, ?_⟩
  simp only [Overlays, known, List.forall_mem_cons]
  exact ⟨hscreenshots, hicons, by simp⟩

theorem parse_overlay {ms : List Member} {before blank after : List Char} (hms : WellTyped known ms)
    (hbefore : IsGap before) (hblank : IsGap blank) (hafter : IsGap after) :
    ∃ s, parse json (document before (objectText ms blank) after) = .ok s ∧
      Overlays known default ms s := by
  obtain ⟨s, hs⟩ := exists_overlays hms
  have hvalue : IsValue (objectText ms blank) :=
    .object hblank (fun m hm => (hms.members m hm).1) fun m hm => (hms.members m hm).2
  have hread := readsHeld_json maxDepth _ s (by decide) ⟨ms, blank, rfl, hblank, hms, hs⟩
  exact ⟨s, (parse_document blind_json hbefore hvalue hafter).2 hread, hs⟩

end Settings

/-- Every object of settings is laid over the default ones, and no format sees in which order the
members of an object stand. -/
theorem overlays_settings_orderBlind_formats :
    (∀ ms before blank after, WellTyped Settings.known ms → IsGap before → IsGap blank → IsGap after →
      ∃ s, parse Settings.json (document before (objectText ms blank) after) = .ok s ∧
        Overlays Settings.known Settings.default ms s) ∧
    OrderBlind Dimensions.json ∧ OrderBlind color ∧ OrderBlind Placement.json ∧
      OrderBlind ItemOutcome.json ∧ OrderBlind BatchReport.json ∧
      OrderBlind ScreenshotSettings.json ∧ OrderBlind IconSettings.json ∧ OrderBlind Settings.json :=
  ⟨fun _ _ _ _ hms hbefore hblank hafter => Settings.parse_overlay hms hbefore hblank hafter,
    Dimensions.blind_json.orderBlind, blind_color.orderBlind, Placement.blind_json.orderBlind,
    ItemOutcome.blind_json.orderBlind, BatchReport.blind_json.orderBlind,
    ScreenshotSettings.blind_json.orderBlind, IconSettings.blind_json.orderBlind,
    Settings.blind_json.orderBlind⟩

def textMember (name text : String) : Member :=
  ⟨[], name.toList, [], ⟨[], '"' :: (text.toList ++ ['"']), []⟩⟩

theorem isMember_text {name text : String} (hname : Spelled name.toList name.toList)
    (htext : Spelled text.toList text.toList) :
    (textMember name text).Spaced ∧ IsValue (textMember name text).item.value :=
  ⟨⟨isGap_nil, hname.isStringBody, isGap_nil, isGap_nil, isGap_nil⟩,
    .token (.string htext.isStringBody)⟩

def widthMember : Member :=
  ⟨[], "target_width".toList, [], ⟨[], "640".toList, []⟩⟩

def backgroundMember : Member := textMember "background" "#000000"

def screenshotsMember : Member :=
  ⟨[], "screenshots".toList, [], ⟨[], objectText [widthMember, backgroundMember] [], []⟩⟩

theorem named_widthMember : widthMember.Named "target_width" := spelled_self (by decide)

theorem named_backgroundMember : backgroundMember.Named "background" := spelled_self (by decide)

theorem named_screenshotsMember : screenshotsMember.Named "screenshots" := spelled_self (by decide)

theorem areMembers_partial : AreMembers [widthMember, backgroundMember] := by
  have hdigits : AreDigits "640".toList := ⟨by decide, List.all_eq_true.1 (by decide)⟩
  have hwhole : IsWhole "640".toList := .inr ⟨hdigits, by decide⟩
  have hnumber : IsNumber "640".toList := .mk (.inl rfl) hwhole (.inl rfl) (.inl rfl)
  have hwidth : widthMember.Spaced ∧ IsValue widthMember.item.value :=
    ⟨⟨isGap_nil, named_widthMember.isStringBody, isGap_nil, isGap_nil, isGap_nil⟩,
      .token (.number hnumber)⟩
  have hbackground : backgroundMember.Spaced ∧ IsValue backgroundMember.item.value :=
    isMember_text named_backgroundMember (spelled_self (by decide))
  simpa [AreMembers] using And.intro hwidth hbackground

theorem holds_background : HoldsColor backgroundMember.item.value Color.black :=
  ⟨"#000000", ⟨_, rfl, spelled_self (by decide)⟩, by decide⟩

theorem wellTyped_partial : WellTyped ScreenshotSettings.known [widthMember, backgroundMember] where
  members := areMembers_partial
  named := by
    simp only [List.forall_mem_cons]
    exact ⟨⟨_, named_widthMember⟩, ⟨_, named_backgroundMember⟩, by simp⟩
  once := by
    rw [List.pairwise_pair]
    intro k _ h h'
    have heq := (named_widthMember.unique h).trans (h'.unique named_backgroundMember)
    exact absurd heq (by decide)
  typed := by
    intro k hk m hm hname
    have hnames : (ScreenshotSettings.known.map (·.name)).Nodup := by decide
    rcases List.mem_pair.1 hm with rfl | rfl
    · obtain rfl : k = ⟨UInt32, "target_width", HoldsNumber, ScreenshotSettings.targetWidth⟩ :=
        List.inj_on_of_nodup_map hnames hk (by simp [ScreenshotSettings.known])
          (hname.unique named_widthMember)
      exact ⟨640, rfl⟩
    · obtain rfl : k = ⟨Color, "background", HoldsColor, ScreenshotSettings.background⟩ :=
        List.inj_on_of_nodup_map hnames hk (by simp [ScreenshotSettings.known])
          (hname.unique named_backgroundMember)
      exact ⟨Color.black, holds_background⟩

def partialScreenshots : ScreenshotSettings :=
  { ScreenshotSettings.default with targetWidth := 640, background := Color.black }

theorem holdsOverlay_partial :
    HoldsOverlay ScreenshotSettings.known ScreenshotSettings.default screenshotsMember.item.value
      partialScreenshots := by
  have hother {name : String} (hwidth : "target_width" ≠ name) (hbackground : "background" ≠ name) :
      ∀ m ∈ [widthMember, backgroundMember], ¬m.Named name := by
    simp only [List.forall_mem_cons]
    exact ⟨fun h => hwidth (named_widthMember.unique h),
      fun h => hbackground (named_backgroundMember.unique h), by simp⟩
  refine ⟨_, _, rfl, isGap_nil, wellTyped_partial, ?_⟩
  intro k hk
  simp only [ScreenshotSettings.known, List.mem_cons, List.not_mem_nil, or_false] at hk
  rcases hk with rfl | rfl | rfl | rfl | rfl | rfl
  · exact .inr ⟨hother (by decide) (by decide), rfl⟩
  · exact .inr ⟨hother (by decide) (by decide), rfl⟩
  · exact .inl ⟨widthMember, by simp, named_widthMember, rfl⟩
  · exact .inr ⟨hother (by decide) (by decide), rfl⟩
  · exact .inl ⟨backgroundMember, by simp, named_backgroundMember, holds_background⟩
  · exact .inr ⟨hother (by decide) (by decide), rfl⟩

theorem wellTyped_screenshots : WellTyped Settings.known [screenshotsMember] where
  members := by
    have hvalue : IsValue screenshotsMember.item.value :=
      .object isGap_nil (fun m hm => (areMembers_partial m hm).1) fun m hm => (areMembers_partial m hm).2
    have hspaced : screenshotsMember.Spaced :=
      ⟨isGap_nil, named_screenshotsMember.isStringBody, isGap_nil, isGap_nil, isGap_nil⟩
    simpa [AreMembers] using And.intro hspaced hvalue
  named := by simpa using ⟨_, named_screenshotsMember⟩
  once := List.pairwise_singleton ..
  typed := by
    intro k hk m hm hname
    rw [List.mem_singleton.1 hm] at hname ⊢
    obtain rfl : k = ⟨ScreenshotSettings, "screenshots",
        HoldsOverlay ScreenshotSettings.known ScreenshotSettings.default, Settings.screenshots⟩ :=
      List.inj_on_of_nodup_map (f := (·.name)) (by decide) hk (by simp [Settings.known])
        (hname.unique named_screenshotsMember)
    exact ScreenshotSettings.exists_holdsOverlay wellTyped_partial isGap_nil

def failedMembers : List Member :=
  [textMember "status" "failed", textMember "source" "a.png", textMember "cause" "unreadable"]

theorem reordered_failedMembers :
    Reordered (objectText failedMembers []) (objectText failedMembers.reverse []) := by
  have hmembers : ∀ m ∈ failedMembers, m.Spaced ∧ IsValue m.item.value := by
    simp only [failedMembers, List.forall_mem_cons]
    exact ⟨isMember_text (spelled_self (by decide)) (spelled_self (by decide)),
      isMember_text (spelled_self (by decide)) (spelled_self (by decide)),
      isMember_text (spelled_self (by decide)) (spelled_self (by decide)), by simp⟩
  exact reordered_of_perm isGap_nil isGap_nil (fun m hm => (hmembers m hm).1)
    (fun m hm => (hmembers m hm).2.reordered) (List.reverse_perm _).symm

/-- A file with part of the screenshots, and an outcome whose status stands last. -/
theorem overlays_partial_orderBlind_failed :
    parse Settings.json
      "\x7b\"screenshots\":\x7b\"target_width\":640,\"background\":\"#000000\"\x7d\x7d" =
      .ok { Settings.default with screenshots := partialScreenshots } ∧
    parse ItemOutcome.json
      "\x7b\"cause\":\"unreadable\",\"source\":\"a.png\",\"status\":\"failed\"\x7d" =
      .ok (.failed ⟨"a.png"⟩ "unreadable") := by
  constructor
  · obtain ⟨s, hparse, hover⟩ := overlays_settings_orderBlind_formats.1 [screenshotsMember] [] [] []
      wellTyped_screenshots isGap_nil isGap_nil isGap_nil
    have hscreenshots : s.screenshots = partialScreenshots := by
      have hread (a : ScreenshotSettings) (ha : HoldsOverlay ScreenshotSettings.known
          ScreenshotSettings.default screenshotsMember.item.value a) :=
        ScreenshotSettings.readsHeld_json 3 _ a (by decide) ha
      have hholds := hover.holds (k := Settings.known[0]) wellTyped_screenshots (List.getElem_mem _)
        (List.mem_singleton_self _) named_screenshotsMember
      exact (hread _ hholds).unique (hread _ holdsOverlay_partial) ends_nil
    have hicons : s.icons = IconSettings.default := by
      obtain ⟨m, hm, hname, -⟩ | ⟨-, hpart⟩ := hover Settings.known[1] (List.getElem_mem _)
      · rw [List.mem_singleton.1 hm] at hname
        exact absurd (named_screenshotsMember.unique hname) (by decide)
      · exact hpart
    obtain ⟨screenshots, icons⟩ := s
    subst hscreenshots hicons
    exact hparse
  · have hwrite : ItemOutcome.json.write (.failed ⟨"a.png"⟩ "unreadable") =
        objectText failedMembers [] := rfl
    have hread := (ItemOutcome.recovers_json (.failed ⟨"a.png"⟩ "unreadable")).read maxDepth (by decide)
    rw [hwrite] at hread
    have hfirst := (parse_document ItemOutcome.blind_json isGap_nil
      reordered_failedMembers.isValue.1 isGap_nil).2 hread
    have hlast := overlays_settings_orderBlind_formats.2.2.2.2.1 _ _ [] [] [] [] _
      reordered_failedMembers isGap_nil isGap_nil isGap_nil isGap_nil hfirst
    have htext : document [] (objectText failedMembers.reverse []) [] =
        "\x7b\"cause\":\"unreadable\",\"source\":\"a.png\",\"status\":\"failed\"\x7d" := by
      decide
    rw [htext] at hlast
    exact hlast

end Storefront
