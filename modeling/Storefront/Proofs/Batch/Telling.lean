import Storefront.Proofs.Batch.Course

/-! What a batch tells its observers. Of every item they hear its progress, and right before it the
cause of its failure if it has failed; the report says the same, and who listens changes nothing. -/

namespace Storefront

variable {α β : Type}

namespace Event

def isLine : Event → Bool
  | .line _ => true
  | .progress .. | .failure .. => false

def progress? : Event → Option (Nat × Nat × Path)
  | .progress done total path => some (done, total, path)
  | .line _ | .failure .. => none

def failure? : Event → Option (Path × String)
  | .failure path cause => some (path, cause)
  | .line _ | .progress .. => none

end Event

namespace Session

def told (s : Session) : List Event :=
  s.events.filter (!·.isLine)

theorem told_tell (s : Session) (e : Event) :
    (s.tell e).told = s.told ++ if e.isLine then [] else [e] := by
  rw [told, tell, List.filter_append]
  cases h : e.isLine <;> simp [h, told]

/-- Observers that remember what they are told: both, one of them, or none. -/
def observing (progress failure : Bool) : Observers (StateM Session) where
  progress := if progress then observers.progress else none
  failure := if failure then observers.failure else none

theorem lookOn_observing (progress failure : Bool) : (observing progress failure).LookOn := by
  have h := lookOn_observers
  cases progress <;> cases failure
  · exact ⟨by simp [observing], by simp [observing]⟩
  · exact ⟨by simp [observing], h.failure⟩
  · exact ⟨h.progress, by simp [observing]⟩
  · exact ⟨h.progress, h.failure⟩

def Tells (x : StateM Session α) (es : List Event) : Prop :=
  ∀ s, (x.run s).2.told = s.told ++ es

namespace Tells

variable {x : StateM Session α} {es fs : List Event}

theorem pure (a : α) : Tells (pure a) [] := fun s => (List.append_nil s.told).symm

theorem bind {f : α → StateM Session β} (hx : Tells x es) (hf : ∀ a, Tells (f a) fs) :
    Tells (x >>= f) (es ++ fs) := by
  intro s
  have hrest := hf (x.run s).1 (x.run s).2
  rw [hx s, List.append_assoc] at hrest
  exact hrest

theorem quiet_bind {f : α → StateM Session β} (hx : Tells x []) (hf : ∀ a, Tells (f a) fs) :
    Tells (x >>= f) fs :=
  hx.bind hf

variable (filter : Log.Filter)

theorem log (r : Log.Record) : Tells ((host filter).log r) [] := by
  intro s
  show (if filter.allows r then s.tell (.line r.line) else s).told = s.told ++ []
  split
  · exact told_tell s (.line r.line)
  · exact (List.append_nil s.told).symm

theorem forM_log (rs : List Log.Record) : Tells (rs.forM (host filter).log) [] := by
  induction rs with
  | nil => exact .pure ()
  | cons r rs ih => exact (log filter r).quiet_bind fun _ => ih

theorem read (p : Path) : Tells ((host filter).read p) [] := fun s => (List.append_nil s.told).symm

theorem write (p : Path) (content : ByteArray) : Tells ((host filter).write p content) [] := by
  intro s
  rw [List.append_nil]
  show (change (s.tree.write p content) s).2.told = s.told
  cases s.tree.write p content <;> rfl

variable [Codecs]

theorem normalizeFile (c : Canvas) (src dst : Path) :
    Tells (normalizeFile (host filter) c src dst) [] := by
  unfold Storefront.normalizeFile
  apply (read filter src).quiet_bind
  intro content
  split
  · exact .pure _
  · split
    · exact .pure _
    · apply (forM_log filter _).quiet_bind
      intro _
      split
      · exact .pure _
      · apply (write filter dst _).quiet_bind
        intro written
        split <;> exact .pure _

theorem normalizeItem (c : Canvas) (src output : Path) :
    Tells (normalizeItem (host filter) c src output) [] := by
  unfold Storefront.normalizeItem
  apply (log filter _).quiet_bind
  intro _
  apply (normalizeFile filter c src output).quiet_bind
  intro result
  rcases result with e | n
  · exact .pure _
  · apply (log filter _).quiet_bind
    intro _
    show Tells (if n.flattenedAlpha = true then _ else _) _
    split
    · exact (log filter _).quiet_bind fun _ => (log filter _).quiet_bind fun _ => .pure _
    · exact (log filter _).quiet_bind fun _ => .pure _

theorem runItem (settings : ScreenshotSettings) (claims : Claims) (src : Path) :
    Tells (runItem (host filter) settings claims src) [] := by
  unfold Storefront.runItem
  rcases claims.claim src settings.outputDir with fault | ⟨output, claims'⟩
  · exact .pure _
  · exact normalizeItem filter settings.canvas src output

end Tells

end Session

namespace ItemOutcome

def failureEvents (o : ItemOutcome) : List Event :=
  o.failure?.toList.map fun f => .failure f.1 f.2

/-- What is told of an outcome and its place in the batch: its failure, and then its progress. -/
def events (progress failure : Bool) (total : Nat) (o : ItemOutcome × Nat) : List Event :=
  (if failure then o.1.failureEvents else []) ++
    if progress then [.progress (o.2 + 1) total o.1.source] else []

variable (progress failure : Bool) (total : Nat)

theorem channels_events (o : ItemOutcome × Nat) :
    ((events progress failure total o).filterMap Event.progress? =
      if progress then [(o.2 + 1, total, o.1.source)] else []) ∧
    (events progress failure total o).filterMap Event.failure? =
      if failure then o.1.failure?.toList else [] := by
  rcases o with ⟨outcome, i⟩
  cases outcome <;> cases progress <;> cases failure <;> exact ⟨rfl, rfl⟩

theorem filterMap_progress?_events (os : List (ItemOutcome × Nat)) :
    (os.flatMap (events progress failure total)).filterMap Event.progress? =
      if progress then os.map (fun o => (o.2 + 1, total, o.1.source)) else [] := by
  rw [List.filterMap_flatMap]
  simp only [fun o => (channels_events progress failure total o).1]
  cases progress with
  | false => exact List.flatMap_eq_nil_iff.2 fun _ _ => rfl
  | true => exact List.map_eq_flatMap.symm

theorem filterMap_failure?_events (os : List (ItemOutcome × Nat)) :
    (os.flatMap (events progress failure total)).filterMap Event.failure? =
      if failure then (os.map Prod.fst).filterMap (·.failure?) else [] := by
  rw [List.filterMap_flatMap]
  simp only [fun o => (channels_events progress failure total o).2]
  cases failure with
  | false => exact List.flatMap_eq_nil_iff.2 fun _ _ => rfl
  | true =>
    induction os with
    | nil => rfl
    | cons o os ih =>
      rw [List.flatMap_cons, ih, List.map_cons]
      cases h : o.1.failure? with
      | none =>
        rw [List.filterMap_cons_none h]
        rfl
      | some f =>
        rw [List.filterMap_cons_some h]
        rfl

end ItemOutcome

theorem BatchReport.length_failures (r : BatchReport) : r.failures.length = r.failed := by
  have hcount : r.total = r.succeeded + r.failures.length := by
    unfold BatchReport.total BatchReport.succeeded BatchReport.failures
    rw [List.length_eq_countP_add_countP (·.isSuccess), List.length_filterMap_eq_countP]
    congr 2
    funext o
    cases o <;> rfl
  rw [BatchReport.failed, hcount, Nat.add_sub_cancel_left]

theorem BatchReport.succeeded_le_total (r : BatchReport) : r.succeeded ≤ r.total :=
  List.countP_le_length

namespace Session

theorem Tells.reportFailure (filter : Log.Filter) (progress failure : Bool) (o : ItemOutcome) :
    Tells (reportFailure (host filter) (observing progress failure) o)
      (if failure then o.failureEvents else []) := by
  unfold Storefront.reportFailure ItemOutcome.failureEvents
  rcases o.failure? with - | ⟨source, cause⟩
  · cases failure <;> exact .pure ()
  · apply (log filter _).quiet_bind
    intro _
    cases failure with
    | false => exact .pure ()
    | true => exact fun s => told_tell s (.failure source cause)

theorem Tells.tellProgress (progress failure : Bool) (done total : Nat) (src : Path) :
    Tells (tellProgress (observing progress failure) done total src)
      (if progress then [.progress done total src] else []) := by
  cases progress with
  | false => exact .pure ()
  | true => exact fun s => told_tell s (.progress done total src)

variable [Codecs]

theorem source_runItem (filter : Log.Filter) (settings : ScreenshotSettings) (claims : Claims)
    (src : Path) (s : Session) :
    ((runItem (host filter) settings claims src).run s).1.source = src := by
  rw [(yields_runItem filter s settings claims src).1, BatchState.source_step]

theorem told_normalizeItems (filter : Log.Filter) (progress failure : Bool)
    (settings : ScreenshotSettings) (total : Nat) (files : List Path) (done : Nat) (claims : Claims)
    (s : Session) :
    let run := (normalizeItems (host filter) (observing progress failure) settings total files done
      claims).run s
    run.2.told = s.told ++ (run.1.zipIdx done).flatMap (ItemOutcome.events progress failure total) := by
  induction files generalizing done claims s with
  | nil => exact (List.append_nil s.told).symm
  | cons src files ih =>
    dsimp only
    rw [normalizeItems_cons, StateT.run_bind]
    have hsource := source_runItem filter settings claims src s
    have hquiet := Tells.runItem filter settings claims src s
    generalize (runItem (host filter) settings claims src).run s = item at hsource hquiet ⊢
    obtain ⟨outcome, s₁⟩ := item
    obtain rfl : outcome.source = src := hsource
    have htold := ((Tells.reportFailure filter progress failure outcome).bind fun _ =>
      Tells.tellProgress progress failure (done + 1) total outcome.source) s₁
    have hrest := ih (done + 1) (claims.next outcome.source settings.outputDir)
      (((reportFailure (host filter) (observing progress failure) outcome >>= fun _ =>
        tellProgress (observing progress failure) (done + 1) total outcome.source).run s₁).2)
    have hquiet : s₁.told = s.told := by rwa [List.append_nil] at hquiet
    -- What is told of this item comes before what is told of the rest.
    dsimp only at hrest
    rw [htold, hquiet, List.append_assoc] at hrest
    exact hrest

/-- A batch is told item by item, whoever listens: each failure comes right before the progress of
its item. Sources, causes and counts are those of the report, and neither the outcomes nor the files
depend on who listens. -/
theorem told_normalizeBatch (filter : Log.Filter) (settings : ScreenshotSettings)
    (files : List Path) (s : Session) (progress failure : Bool) :
    let run := (normalizeBatch (host filter) (observing progress failure) settings files).run s
    (run.1.outcomes.map (·.source) = files ∧ run.1.total = files.length ∧
      run.1.succeeded + run.1.failed = files.length ∧ run.1.failed = run.1.failures.length) ∧
    (run.2.told = s.told ++
      run.1.outcomes.zipIdx.flatMap (ItemOutcome.events progress failure files.length)) ∧
    (run.2.told.filterMap Event.progress? = s.told.filterMap Event.progress? ++
      if progress then files.zipIdx.map (fun f => (f.2 + 1, files.length, f.1)) else []) ∧
    (run.2.told.filterMap Event.failure? = s.told.filterMap Event.failure? ++
      if failure then run.1.failures else []) ∧
    ∀ progress' failure',
      let other := (normalizeBatch (host filter) (observing progress' failure') settings files).run s
      other.1.outcomes = run.1.outcomes ∧ other.2.tree = run.2.tree := by
  intro run
  have hlook := lookOn_observing progress failure
  have hsources : run.1.outcomes.map (·.source) = files := by
    rw [outcomes_normalizeBatch filter s hlook, BatchState.map_source_course]
  have htotal : run.1.total = files.length := by
    rw [BatchReport.total, ← hsources, List.length_map]
  have htold : run.2.told = s.told ++
      run.1.outcomes.zipIdx.flatMap (ItemOutcome.events progress failure files.length) :=
    told_normalizeItems filter progress failure settings files.length files 0 [] s
  refine ⟨⟨hsources, htotal, ?_, run.1.length_failures.symm⟩, htold, ?_, ?_, ?_⟩
  · rw [BatchReport.failed, Nat.add_sub_of_le run.1.succeeded_le_total, htotal]
  · rw [htold, List.filterMap_append, ItemOutcome.filterMap_progress?_events]
    have hplaces : files.zipIdx =
        run.1.outcomes.zipIdx.map fun o => (o.1.source, o.2) := by
      rw [← hsources, List.zipIdx_map]
      rfl
    rw [hplaces, List.map_map]
    rfl
  · rw [htold, List.filterMap_append, ItemOutcome.filterMap_failure?_events, List.zipIdx_map_fst]
    rfl
  · intro progress' failure'
    have hlook' := lookOn_observing progress' failure'
    constructor
    · rw [outcomes_normalizeBatch filter s hlook', outcomes_normalizeBatch filter s hlook]
    · rw [tree_normalizeBatch filter s hlook', tree_normalizeBatch filter s hlook]

end Session
end Storefront
