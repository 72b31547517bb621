import Storefront.Proofs.Batch.Course

/-! Machines that remember the paths they are asked to write. A batch does on them what it does
without, and they are asked for at most one write an item, of the output that it has claimed. -/

namespace Storefront

variable {σ α β : Type}

def aside (x : StateM σ α) : StateM (σ × List Path) α := fun s =>
  ((x.run s.1).1, (x.run s.1).2, s.2)

namespace Host

/-- The machine, with the paths of all writes it is asked for in their order. -/
def recording (host : Host (StateM σ)) : Host (StateM (σ × List Path)) where
  read p := aside (host.read p)
  write p content := do
    modify fun s => (s.1, s.2 ++ [p])
    aside (host.write p content)
  createDir p := aside (host.createDir p)
  isDirectory p := aside (host.isDirectory p)
  holds p := aside (host.holds p)
  entries p := aside (host.entries p)
  now := aside host.now
  log r := aside (host.log r)
  print text := aside (host.print text)

end Host

def Observers.recording (observers : Observers (StateM σ)) :
    Observers (StateM (σ × List Path)) where
  progress := observers.progress.map fun tell done total path => aside (tell done total path)
  failure := observers.failure.map fun tell path cause => aside (tell path cause)

/-- `x` does what `y` does, and asks for writes of some of `ps`, in their order. -/
def Records (x : StateM (σ × List Path) α) (y : StateM σ α) (ps : List Path) : Prop :=
  ∀ s ws, ∃ us : List Path, us.Sublist ps ∧ x.run (s, ws) = ((y.run s).1, (y.run s).2, ws ++ us)

namespace Records

variable {x : StateM (σ × List Path) α} {y : StateM σ α} {ps qs : List Path}

theorem mono (h : Records x y ps) (hps : ps.Sublist qs) : Records x y qs := by
  intro s ws
  obtain ⟨us, hus, hx⟩ := h s ws
  exact ⟨us, hus.trans hps, hx⟩

theorem none (h : Records x y []) (ps : List Path) : Records x y ps :=
  h.mono (List.nil_sublist ps)

theorem pure (a : α) : Records (σ := σ) (pure a) (pure a) [] :=
  fun s ws => ⟨[], .refl [], by rw [List.append_nil]; rfl⟩

theorem aside (y : StateM σ α) : Records (aside y) y [] :=
  fun s ws => ⟨[], .refl [], by rw [List.append_nil]; rfl⟩

theorem bind {f : α → StateM (σ × List Path) β} {g : α → StateM σ β} (hx : Records x y ps)
    (hf : ∀ a, Records (f a) (g a) qs) : Records (x >>= f) (y >>= g) (ps ++ qs) := by
  intro s ws
  obtain ⟨us, hus, hx⟩ := hx s ws
  obtain ⟨vs, hvs, hf⟩ := hf (y.run s).1 (y.run s).2 (ws ++ us)
  refine ⟨us ++ vs, hus.append hvs, ?_⟩
  rw [StateT.run_bind, hx, ← List.append_assoc]
  exact hf

theorem quiet_bind {f : α → StateM (σ × List Path) β} {g : α → StateM σ β} (hx : Records x y [])
    (hf : ∀ a, Records (f a) (g a) qs) : Records (x >>= f) (y >>= g) qs :=
  hx.bind hf

theorem bind_quiet {f : α → StateM (σ × List Path) β} {g : α → StateM σ β} (hx : Records x y ps)
    (hf : ∀ a, Records (f a) (g a) []) : Records (x >>= f) (y >>= g) ps := by
  have h := hx.bind hf
  rwa [List.append_nil] at h

theorem writes_eq (h : Records x y []) (s : σ) (ws : List Path) : (x.run (s, ws)).2.2 = ws := by
  obtain ⟨us, hus, hx⟩ := h s ws
  rw [hx, List.sublist_nil.1 hus, List.append_nil]

variable (host : Host (StateM σ))

theorem write (p : Path) (content : ByteArray) :
    Records (host.recording.write p content) (host.write p content) [p] :=
  fun _ _ => ⟨[p], .refl [p], rfl⟩

theorem forM_log (rs : List Log.Record) :
    Records (rs.forM host.recording.log) (rs.forM host.log) [] := by
  induction rs with
  | nil => exact .pure ()
  | cons r rs ih => exact (aside (host.log r)).quiet_bind fun _ => ih

theorem reportFailure (observers : Observers (StateM σ)) (outcome : ItemOutcome) :
    Records (reportFailure host.recording observers.recording outcome)
      (reportFailure host observers outcome) [] := by
  unfold Storefront.reportFailure
  split
  · exact .pure ()
  · apply (aside (host.log _)).quiet_bind
    intro _
    unfold Observers.recording
    rcases observers.failure with - | tell
    · exact .pure ()
    · exact aside _

theorem tellProgress (observers : Observers (StateM σ)) (done total : Nat) (src : Path) :
    Records (tellProgress observers.recording done total src)
      (tellProgress observers done total src) [] := by
  unfold Storefront.tellProgress Observers.recording
  rcases observers.progress with - | tell
  · exact .pure ()
  · exact aside _

variable [Codecs]

theorem normalizeFile (c : Canvas) (src dst : Path) :
    Records (normalizeFile host.recording c src dst) (normalizeFile host c src dst) [dst] := by
  unfold Storefront.normalizeFile
  apply (aside (host.read src)).quiet_bind
  intro content
  split
  · exact (Records.pure _).none _
  · split
    · exact (Records.pure _).none _
    · apply (forM_log host _).quiet_bind
      intro _
      split
      · exact (Records.pure _).none _
      · apply (write host dst _).bind_quiet
        intro written
        split <;> exact .pure _

theorem normalizeItem (c : Canvas) (src output : Path) :
    Records (normalizeItem host.recording c src output) (normalizeItem host c src output)
      [output] := by
  unfold Storefront.normalizeItem
  apply (aside (host.log _)).quiet_bind
  intro _
  apply (normalizeFile host c src output).bind_quiet
  intro result
  rcases result with e | n
  · exact .pure _
  · apply (aside (host.log _)).quiet_bind
    intro _
    have hsaved : Records
        (do
          host.recording.log (.of .info .batch
            ("Saved " ++ output.text ++ " (" ++ c.target.display ++ ", 24-bit RGB)"))
          Pure.pure (ItemOutcome.normalized src output n.sourceSize n.placement n.flattenedAlpha))
        (do
          host.log (.of .info .batch
            ("Saved " ++ output.text ++ " (" ++ c.target.display ++ ", 24-bit RGB)"))
          Pure.pure (ItemOutcome.normalized src output n.sourceSize n.placement n.flattenedAlpha))
        [] := (aside (host.log _)).quiet_bind fun _ => .pure _
    -- The line on the alpha channel is logged or not; the rest is the same.
    show Records (if n.flattenedAlpha = true then _ else _) (if n.flattenedAlpha = true then _ else _) _
    split
    · exact (aside (host.log _)).quiet_bind fun _ => hsaved
    · exact hsaved

theorem runItem (settings : ScreenshotSettings) (claims : Claims) (src : Path) :
    Records (runItem host.recording settings claims src) (runItem host settings claims src)
      (Claims.granted settings.outputDir claims [src]) := by
  unfold Storefront.runItem Claims.granted
  rcases claims.claim src settings.outputDir with fault | ⟨output, claims'⟩
  · exact .pure _
  · exact normalizeItem host settings.canvas src output

theorem normalizeItems (observers : Observers (StateM σ)) (settings : ScreenshotSettings)
    (total : Nat) (files : List Path) (done : Nat) (claims : Claims) :
    Records (normalizeItems host.recording observers.recording settings total files done claims)
      (normalizeItems host observers settings total files done claims)
      (Claims.granted settings.outputDir claims files) := by
  induction files generalizing done claims with
  | nil => exact .pure _
  | cons src files ih =>
    -- What the item itself may write comes first, and nothing is written between the items.
    rw [normalizeItems_cons, normalizeItems_cons, Claims.granted_cons]
    apply (runItem host settings claims src).bind
    intro outcome
    apply (reportFailure host observers outcome).quiet_bind
    intro _
    apply (tellProgress observers (done + 1) total src).quiet_bind
    intro _
    exact (ih (done + 1) _).bind_quiet fun rest => .pure (outcome :: rest)

theorem normalizeBatch (observers : Observers (StateM σ)) (settings : ScreenshotSettings)
    (files : List Path) :
    Records (normalizeBatch host.recording observers.recording settings files)
      (normalizeBatch host observers settings files)
      (Claims.granted settings.outputDir [] files) := by
  unfold Storefront.normalizeBatch
  apply (aside host.now).quiet_bind
  intro startedAt
  apply (normalizeItems host observers settings files.length files 0 []).bind_quiet
  intro outcomes
  exact (aside host.now).bind_quiet fun finishedAt => .pure _

end Records
end Storefront
