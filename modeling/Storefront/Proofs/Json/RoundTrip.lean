import Storefront.Proofs.Json.Recovery
import Storefront.Proofs.Text.Color
import Storefront.Proofs.Time.Timestamp
import Storefront.Report.Json
import Storefront.Settings.Json

/-! The JSON forms of sizes, colors, placements, outcomes, reports and settings: what is written is
read back, and what is written of something read does not change when it is read again. -/

namespace Storefront

open Json Reader Format Record

theorem recovers_timestamp {level : Nat} : timestamp.Recovers level := by
  apply recovers_ofString
  intro t
  rw [Timestamp.parse_display]
  rfl

theorem ofKept_color (s : String) : color.ofKept (.string s) = colorOf s := rfl

theorem recovers_color {level : Nat} : color.Recovers level := by
  intro c
  have hcolor : colorOf c.display = .ok c := by
    rw [colorOf, Color.parse_display]
    rfl
  refine ⟨startsValue_writeString c.display, fun depth hdepth => ?_, _, spells_string c.display, ?_⟩
  · exact ((recovers_string c.display).read depth hdepth).map (.ofExcept hcolor)
  · rw [ofKept_color, hcolor]

theorem Dimensions.recovers_json : Dimensions.json.Recovers 1 := fun d =>
  Record.denotes (by decide)
    (.cons rfl ((recovers_uint32 d.width).field _) <|
     .cons rfl ((recovers_uint32 d.height).field _) (.nil _)) rfl

theorem Placement.recovers_json : Placement.json.Recovers 2 := fun p =>
  Record.denotes (by decide)
    (.cons rfl ((Dimensions.recovers_json p.scaled).field _) <|
     .cons rfl ((recovers_uint32 p.offsetX).field _) <|
     .cons rfl ((recovers_uint32 p.offsetY).field _) (.nil _)) rfl

theorem ScreenshotSettings.recovers_json : ScreenshotSettings.json.Recovers 2 := fun s =>
  Record.denotes (by decide)
    (.cons rfl ((recovers_path s.inputDir).field _) <|
     .cons rfl ((recovers_path s.outputDir).field _) <|
     .cons rfl ((recovers_uint32 s.targetWidth).field _) <|
     .cons rfl ((recovers_uint32 s.targetHeight).field _) <|
     .cons rfl ((recovers_color s.background).field _) <|
     .cons rfl ((recovers_list recovers_string s.extensions).field _) (.nil _)) rfl

theorem IconSettings.recovers_json : IconSettings.json.Recovers 2 := fun s =>
  Record.denotes (by decide)
    (.cons rfl ((recovers_path s.outputDir).field _) <|
     .cons rfl ((recovers_list recovers_uint32 s.sizes).field _) <|
     .cons rfl ((recovers_string s.filePrefix).field _) (.nil _)) rfl

theorem Settings.recovers_json : Settings.json.Recovers 3 := fun s =>
  Record.denotes (by decide)
    (.cons rfl ((ScreenshotSettings.recovers_json s.screenshots).field _) <|
     .cons rfl ((IconSettings.recovers_json s.icons).field _) (.nil _)) rfl

namespace ItemOutcome

theorem statusOf_text (s : Status) : statusOf s.text = .ok s := by
  cases s with
  | normalized => exact if_pos rfl
  | failed =>
    unfold statusOf
    rw [if_neg (by decide), if_pos rfl]

variable {level : Nat} {ms : List (String × List Char)} {es : List (String × Kept)}

theorem takesIn_others {depth : Nat} (hkeys : ∀ m ∈ ms, m.1 ≠ statusKey)
    (h : List.Forall₂ (fun m e => m.1 = e.1 ∧ Reads Ends (readKept depth) m.2 e.2) ms es)
    (status : Option Status) :
    TakesIn (readMember depth) ms (status, []) (status, es.reverse ++ []) := by
  refine (takesIn_keepMember h []).lift (status, ·) fun m hm before text after hread => ?_
  unfold readMember
  rw [if_neg (hkeys m hm)]
  exact hread.map (.pure _)

theorem splitStatus_others (hkeys : ∀ m ∈ ms, m.1 ≠ statusKey)
    (h : List.Forall₂ (fun m e => m.1 = e.1 ∧ Spells level m.2 e.2) ms es) (status : Option Kept)
    (before : List (String × Kept)) :
    es.foldlM splitStatus (status, before) = .ok (status, es.reverse ++ before) := by
  induction h generalizing before with
  | nil => rfl
  | @cons m e ms es hhead _ ih =>
    rw [List.forall_mem_cons, hhead.1] at hkeys
    have hstep : splitStatus (status, before) e = .ok (status, e :: before) := if_neg hkeys.1
    rw [List.foldlM_cons, hstep, List.reverse_cons, List.append_assoc]
    exact ih hkeys.2 (e :: before)

theorem ofKept_members {o : ItemOutcome} (hkeys : ∀ m ∈ ms, m.1 ≠ statusKey)
    (hes : List.Forall₂ (fun m e => m.1 = e.1 ∧ Spells level m.2 e.2) ms es)
    (hof : ofFields o.status (.object es) = .ok o) :
    ofKept (.object ((statusKey, .string o.status.text) :: es)) = .ok o := by
  have hsplit := splitStatus_others hkeys hes (some (.string o.status.text)) []
  have hfirst : splitStatus (none, []) (statusKey, .string o.status.text) =
      .ok (some (.string o.status.text), []) := if_pos rfl
  have hfold : ((statusKey, .string o.status.text) :: es).foldlM splitStatus (none, []) =
      .ok (some (.string o.status.text), es.reverse) := by
    rw [List.foldlM_cons, hfirst]
    rwa [List.append_nil] at hsplit
  have hstatus : Format.keptString "variant identifier" statusOf (.string o.status.text) =
      .ok o.status := statusOf_text o.status
  unfold ofKept
  dsimp only
  rw [hfold]
  show (Format.keptString "variant identifier" statusOf (.string o.status.text) >>= fun status =>
    ofFields status (.object es.reverse.reverse)) = Except.ok o
  rw [hstatus, List.reverse_reverse]
  exact hof

theorem reads_status (depth : Nat) (s : Status) :
    Reads Ends (readMember depth (none, []) statusKey) (':' :: writeString s.text) (some s, []) := by
  have hread : Reads Ends readStatus (writeString s.text) s := reads_readString (statusOf_text s)
  unfold readMember
  rw [if_pos rfl]
  exact Reads.colon_bind (hread.map (.pure _))

theorem reads_members {depth : Nat} (s : Status) (hkeys : ∀ m ∈ ms, m.1 ≠ statusKey)
    (h : List.Forall₂ (fun m e => m.1 = e.1 ∧ Reads Ends (readKept depth) m.2 e.2) ms es) :
    Reads (Begins '\x7d') (readMembers depth)
      (commas (((statusKey, writeString s.text) :: ms).map writeMember)) (s, .object es) := by
  have hmembers := (TakesIn.cons (reads_status depth s) (takesIn_others hkeys h (some s))).allMembers
  unfold readMembers
  refine hmembers.map ?_
  dsimp only
  rw [List.append_nil, List.reverse_reverse]
  exact .pure _

theorem denotes_members {o : ItemOutcome} (hkeys : ∀ m ∈ ms, m.1 ≠ statusKey)
    (hes : List.Forall₂ (fun m e => m.1 = e.1 ∧ Spells level m.2 e.2) ms es)
    (hof : ofFields o.status (.object es) = .ok o) :
    Denotes read ofKept (level + 1) (writeMembers ((statusKey, writeString o.status.text) :: ms)) o := by
  have hspells : List.Forall₂ (fun m e => m.1 = e.1 ∧ Spells level m.2 e.2)
      ((statusKey, writeString o.status.text) :: ms) ((statusKey, .string o.status.text) :: es) :=
    .cons ⟨rfl, spells_string _⟩ hes
  refine ⟨⟨'\x7b', _, rfl, rfl, by decide, by decide⟩, fun depth hdepth => ?_,
    _, spells_object hspells, ofKept_members hkeys hes hof⟩
  obtain ⟨depth, rfl⟩ : ∃ d, depth = d + 2 := ⟨depth - 2, by omega⟩
  have hread : List.Forall₂ (fun m e => m.1 = e.1 ∧ Reads Ends (readKept (depth + 1)) m.2 e.2) ms es :=
    hes.imp fun m e h => ⟨h.1, h.2 (depth + 1) (by omega)⟩
  have hbody := reads_members o.status hkeys hread
  have hobject : Reads Ends (positioned (bracketed (depth + 2) readMembers endObject))
      (writeMembers ((statusKey, writeString o.status.text) :: ms)) (o.status, .object es) :=
    .positioned (.bracketed hbody .endObject fun rest _ => begins_cons '\x7d' rest)
  unfold read
  refine Reads.peekValue_bind rfl ?_
  rw [if_neg (by decide), if_pos rfl]
  exact hobject.map (.ofExcept hof)

theorem denotes_variant {P : Type} {r : Record P ItemOutcome} {p : P} {o : ItemOutcome}
    (hnames : (statusKey :: r.fields.map (·.name)).Nodup)
    (hfills : Fills level r.fields ms r.blank p) (hfinish : r.finish p = .ok o)
    (hof : ofFields o.status = r.ofKept) :
    Denotes read ofKept (level + 1) (writeMembers ((statusKey, writeString o.status.text) :: ms)) o := by
  obtain ⟨hstatus, hnames⟩ := List.nodup_cons.1 hnames
  have hkeys : ∀ m ∈ ms, m.1 ≠ statusKey := by
    rintro m hm heq
    rw [← hfills.map_fst, ← heq] at hstatus
    exact hstatus (List.mem_map_of_mem hm)
  obtain ⟨es, hes, hfold⟩ := hfills.kept fun f hf => Record.finds_of_mem hnames hf
  apply denotes_members hkeys hes
  rw [hof]
  exact Record.ofKept_object hfold hfinish

theorem recovers_json : json.Recovers 3 := by
  intro o
  cases o with
  | normalized source output sourceSize placement flattenedAlpha =>
    have hsize := Dimensions.recovers_json.mono (Nat.le_succ 1)
    have hfills : Fills 2 normalizedRecord.fields _ normalizedRecord.blank _ :=
      .cons rfl ((recovers_path source).field _) <|
      .cons rfl ((recovers_path output).field _) <|
      .cons rfl ((hsize sourceSize).field _) <|
      .cons rfl ((Placement.recovers_json placement).field _) <|
      .cons rfl ((recovers_bool flattenedAlpha).field _) (.nil _)
    exact denotes_variant (by decide) hfills rfl rfl
  | failed source cause =>
    have hfills : Fills 2 failedRecord.fields _ failedRecord.blank _ :=
      .cons rfl ((recovers_path source).field _) <|
      .cons rfl ((recovers_string cause).field _) (.nil _)
    exact denotes_variant (by decide) hfills rfl rfl

end ItemOutcome

theorem BatchReport.recovers_json : BatchReport.json.Recovers 5 := fun r =>
  Record.denotes (by decide)
    (.cons rfl ((recovers_list ItemOutcome.recovers_json r.outcomes).field _) <|
     .cons rfl ((recovers_timestamp r.startedAt).field _) <|
     .cons rfl ((recovers_timestamp r.finishedAt).field _) (.nil _)) rfl

namespace Json

def rewrite {α : Type} (f : Format α) (text : String) : Except Fault String :=
  (parse f text).map (print f)

/-- Every value is read back from its text, so that a rewritten text is rewritten to itself. -/
structure RoundTrips {α : Type} (f : Format α) : Prop where
  parse_print : ∀ a, parse f (print f a) = .ok a
  rewrite_rewrite : ∀ text written, rewrite f text = .ok written → rewrite f written = .ok written

theorem roundTrips_of_recovers {α : Type} {f : Format α} {level : Nat} (h : f.Recovers level)
    (hlevel : level < maxDepth) : RoundTrips f := by
  have hparse (a : α) : parse f (print f a) = .ok a := by
    obtain ⟨q, hq⟩ := (h a).read maxDepth hlevel [] ⟨1, 0⟩ ends_nil
    rw [List.append_nil] at hq
    unfold parse print Cursor.ofText
    dsimp only
    rw [String.toList_ofList, bind_apply, hq]
    rfl
  refine ⟨hparse, fun text written hwritten => ?_⟩
  unfold rewrite at hwritten ⊢
  rcases hread : parse f text with e | a
  · rw [hread] at hwritten
    contradiction
  · rw [hread] at hwritten
    obtain rfl : print f a = written := Except.ok.inj hwritten
    rw [hparse]
    rfl

end Json

theorem roundTrips_formats :
    RoundTrips Dimensions.json ∧ RoundTrips color ∧ RoundTrips Placement.json ∧
      RoundTrips ItemOutcome.json ∧ RoundTrips BatchReport.json ∧
      RoundTrips ScreenshotSettings.json ∧ RoundTrips IconSettings.json ∧ RoundTrips Settings.json :=
  ⟨roundTrips_of_recovers Dimensions.recovers_json (by decide),
    roundTrips_of_recovers (recovers_color : color.Recovers 0) (by decide),
    roundTrips_of_recovers Placement.recovers_json (by decide),
    roundTrips_of_recovers ItemOutcome.recovers_json (by decide),
    roundTrips_of_recovers BatchReport.recovers_json (by decide),
    roundTrips_of_recovers ScreenshotSettings.recovers_json (by decide),
    roundTrips_of_recovers IconSettings.recovers_json (by decide),
    roundTrips_of_recovers Settings.recovers_json (by decide)⟩

end Storefront
