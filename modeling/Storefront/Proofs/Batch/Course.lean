import Storefront.Proofs.Batch.Claims
import Storefront.Session

/-! The course of a batch as a function of the tree: each item takes the claims and the tree that
the items before it left. What is logged and told on the way changes neither. -/

namespace Storefront

namespace Session

/-- Run from a session, the action gives `a` and leaves the tree `t`. -/
def Yields {α : Type} (x : StateM Session α) (s : Session) (a : α) (t : FileTree) : Prop :=
  (x.run s).1 = a ∧ (x.run s).2.tree = t

namespace Yields

variable {α β : Type} {x : StateM Session α} {s : Session} {a : α} {b : β} {t u : FileTree}

theorem pure (a : α) (h : s.tree = t) : Yields (pure a) s a t := ⟨rfl, h⟩

theorem bind {f : α → StateM Session β} (hx : Yields x s a t)
    (hf : ∀ s' : Session, s'.tree = t → Yields (f a) s' b u) : Yields (x >>= f) s b u := by
  have h := hf (x.run s).2 hx.2
  rw [← hx.1] at h
  exact h

end Yields

variable (filter : Log.Filter) (s : Session)

theorem yields_log (r : Log.Record) : Yields ((host filter).log r) s () s.tree := by
  refine ⟨rfl, ?_⟩
  show (if filter.allows r then s.tell (.line r.line) else s).tree = s.tree
  split <;> rfl

theorem yields_forM_log (rs : List Log.Record) : Yields (rs.forM (host filter).log) s () s.tree := by
  induction rs generalizing s with
  | nil => exact .pure () rfl
  | cons r rs ih => exact .bind (yields_log filter s r) fun s' hs => hs ▸ ih s'

theorem yields_read (p : Path) : Yields ((host filter).read p) s (s.tree.read p) s.tree := ⟨rfl, rfl⟩

theorem yields_change_ok (f : FileTree → Except FileError FileTree) {t : FileTree}
    (h : f s.tree = .ok t) : Yields (fun s => change (f s.tree) s) s (.ok ()) t := by
  unfold Yields
  constructor <;> simp [StateT.run, change, h]

theorem yields_change_error (f : FileTree → Except FileError FileTree) {e : FileError}
    (h : f s.tree = .error e) : Yields (fun s => change (f s.tree) s) s (.error e) s.tree := by
  unfold Yields
  constructor <;> simp [StateT.run, change, h]

theorem yields_write_ok {p : Path} {content : ByteArray} {t : FileTree}
    (h : s.tree.write p content = .ok t) :
    Yields ((host filter).write p content) s (.ok ()) t :=
  yields_change_ok s (·.write p content) h

theorem yields_write_error {p : Path} {content : ByteArray} {e : FileError}
    (h : s.tree.write p content = .error e) :
    Yields ((host filter).write p content) s (.error e) s.tree :=
  yields_change_error s (·.write p content) h

end Session

/-- Observers that only look on: what they do leaves the files as they are. -/
structure Observers.LookOn (observers : Observers (StateM Session)) : Prop where
  progress : ∀ tell, observers.progress = some tell →
    ∀ done total path s, Session.Yields (tell done total path) s () s.tree
  failure : ∀ tell, observers.failure = some tell →
    ∀ path cause s, Session.Yields (tell path cause) s () s.tree

theorem Observers.LookOn.none : Observers.LookOn {} where
  progress _ h := by simp at h
  failure _ h := by simp at h

theorem Session.lookOn_observers : Session.observers.LookOn where
  progress tell h done total path s := by
    obtain rfl := Option.some.inj h
    exact ⟨rfl, rfl⟩
  failure tell h path cause s := by
    obtain rfl := Option.some.inj h
    exact ⟨rfl, rfl⟩

def ItemOutcome.output? : ItemOutcome → Option Path
  | .normalized _ output .. => some output
  | .failed .. => none

def ItemOutcome.ofResult (src output : Path) : Except ImageError Normalized → ItemOutcome
  | .error e => .failed src e.message
  | .ok n => .normalized src output n.sourceSize n.placement n.flattenedAlpha

structure BatchState where
  claims : Claims
  tree : FileTree

variable [Codecs]

section

variable {m : Type → Type} [Monad m]

def runItem (host : Host m) (settings : ScreenshotSettings) (claims : Claims) (src : Path) :
    m ItemOutcome :=
  match claims.claim src settings.outputDir with
  | .error fault => pure (.failed src fault.message)
  | .ok (output, _) => normalizeItem host settings.canvas src output

def tellProgress (observers : Observers m) (done total : Nat) (src : Path) : m Unit :=
  match observers.progress with
  | some tell => tell done total src
  | none => pure ()

theorem normalizeItems_cons [LawfulMonad m] (host : Host m) (observers : Observers m)
    (settings : ScreenshotSettings) (total : Nat) (src : Path) (files : List Path) (done : Nat)
    (claims : Claims) :
    normalizeItems host observers settings total (src :: files) done claims = do
      let outcome ← runItem host settings claims src
      reportFailure host observers outcome
      tellProgress observers (done + 1) total src
      return outcome :: (← normalizeItems host observers settings total files (done + 1)
        (claims.next src settings.outputDir)) := by
  -- A refused item and one that is run differ in their outcome and in the claims, not in what
  -- follows.
  rw [normalizeItems, runItem, tellProgress, Claims.next]
  rcases claims.claim src settings.outputDir with fault | ⟨output, claims'⟩ <;>
    rcases observers.progress with - | tell <;> simp

end

def preparePicture (c : Canvas) (src : Path) (content : Except FileError ByteArray) :
    Except ImageError (Normalized × ByteArray) :=
  match openPicture src content with
  | .error e => .error (.decode e)
  | .ok p =>
    match p.normalize c with
    | .error e => .error e
    | .ok n =>
      match pngFile n.image with
      | .error e => .error e
      | .ok file => .ok (n, file)

theorem preparePicture_eq_ok_iff {c : Canvas} {src : Path} {content : Except FileError ByteArray}
    {n : Normalized} {file : ByteArray} :
    preparePicture c src content = .ok (n, file) ↔
      ∃ p, openPicture src content = .ok p ∧ p.normalize c = .ok n ∧ pngFile n.image = .ok file := by
  unfold preparePicture
  constructor
  · intro h
    split at h
    · simp at h
    next p hp =>
      split at h
      · simp at h
      next n' hn =>
        split at h
        · simp at h
        next file' hf =>
          simp only [Except.ok.injEq, Prod.mk.injEq] at h
          obtain ⟨rfl, rfl⟩ := h
          exact ⟨p, hp, hn, hf⟩
  · rintro ⟨p, hp, hn, hf⟩
    rw [hp]
    simp only [hn, hf]

theorem openPicture_error (p : Path) (e : FileError) (picture : Picture) :
    openPicture p (.error e) ≠ .ok picture := by
  intro h
  unfold openPicture at h
  split at h
  next he => simp at he
  next =>
    rcases hf : imageFormat p with e' | f <;> simp [hf, bind, Except.bind, throw, throwThe,
      MonadExceptOf.throw] at h
  next => simp at h

theorem content_of_preparePicture {c : Canvas} {src : Path} {read : Except FileError ByteArray}
    {n : Normalized} {file : ByteArray} (h : preparePicture c src read = .ok (n, file)) :
    ∃ content p, read = .ok content ∧ openPicture src (.ok content) = .ok p ∧
      p.normalize c = .ok n ∧ Png.encode n.image = .ok file := by
  obtain ⟨p, hp, hn, hf⟩ := preparePicture_eq_ok_iff.1 h
  rcases read with e | content
  · exact absurd hp (openPicture_error src e p)
  · refine ⟨content, p, rfl, hp, hn, ?_⟩
    unfold pngFile at hf
    rcases he : Png.encode n.image with e | file'
    · rw [he] at hf
      contradiction
    · rw [he] at hf
      exact congrArg Except.ok (Except.ok.inj hf)

def FileTree.putPicture (t : FileTree) (c : Canvas) (src dst : Path) :
    Except ImageError Normalized × FileTree :=
  match preparePicture c src (t.read src) with
  | .error e => (.error e, t)
  | .ok (n, file) =>
    match t.write dst file with
    | .error e => (.error (.io e), t)
    | .ok t' => (.ok n, t')

namespace BatchState

def step (settings : ScreenshotSettings) (b : BatchState) (src : Path) : ItemOutcome × BatchState :=
  match b.claims.claim src settings.outputDir with
  | .error fault => (.failed src fault.message, b)
  | .ok (output, claims) =>
    let r := b.tree.putPicture settings.canvas src output
    (.ofResult src output r.1, ⟨claims, r.2⟩)

def course (settings : ScreenshotSettings) : BatchState → List Path → List ItemOutcome × BatchState
  | b, [] => ([], b)
  | b, src :: files =>
    let r := course settings (b.step settings src).2 files
    ((b.step settings src).1 :: r.1, r.2)

def after (settings : ScreenshotSettings) (b : BatchState) (files : List Path) : BatchState :=
  (b.course settings files).2

variable {settings : ScreenshotSettings} {b : BatchState} {src : Path}

/-- All that an item can do: it is refused, it fails on the way, or its file is written. -/
theorem step_cases (settings : ScreenshotSettings) (b : BatchState) (src : Path) :
    (∃ fault, b.claims.claim src settings.outputDir = .error fault ∧
      b.step settings src = (.failed src fault.message, b)) ∨
    (∃ output claims e, b.claims.claim src settings.outputDir = .ok (output, claims) ∧
      b.step settings src = (.failed src (ImageError.message e), ⟨claims, b.tree⟩)) ∨
    (∃ output claims n file t, b.claims.claim src settings.outputDir = .ok (output, claims) ∧
      preparePicture settings.canvas src (b.tree.read src) = .ok (n, file) ∧
      b.tree.write output file = .ok t ∧
      b.step settings src =
        (.normalized src output n.sourceSize n.placement n.flattenedAlpha, ⟨claims, t⟩)) := by
  rcases hc : b.claims.claim src settings.outputDir with fault | ⟨output, claims⟩
  · exact .inl ⟨fault, rfl, by rw [step, hc]⟩
  · rcases hp : preparePicture settings.canvas src (b.tree.read src) with e | ⟨n, file⟩
    · refine .inr (.inl ⟨output, claims, e, rfl, ?_⟩)
      simp only [step, hc, FileTree.putPicture, hp, ItemOutcome.ofResult]
    · rcases hw : b.tree.write output file with e | t
      · refine .inr (.inl ⟨output, claims, .io e, rfl, ?_⟩)
        simp only [step, hc, FileTree.putPicture, hp, hw, ItemOutcome.ofResult]
      · refine .inr (.inr ⟨output, claims, n, file, t, rfl, rfl, hw, ?_⟩)
        simp only [step, hc, FileTree.putPicture, hp, hw, ItemOutcome.ofResult]

theorem claims_step (settings : ScreenshotSettings) (b : BatchState) (src : Path) :
    (b.step settings src).2.claims = b.claims.next src settings.outputDir := by
  unfold step Claims.next
  rcases b.claims.claim src settings.outputDir with fault | ⟨output, claims⟩ <;> rfl

@[simp] theorem course_nil (settings : ScreenshotSettings) (b : BatchState) :
    b.course settings [] = ([], b) := rfl

theorem course_append (settings : ScreenshotSettings) (b : BatchState) (xs ys : List Path) :
    b.course settings (xs ++ ys) =
      ((b.course settings xs).1 ++ ((b.after settings xs).course settings ys).1,
        ((b.after settings xs).course settings ys).2) := by
  induction xs generalizing b with
  | nil => rfl
  | cons x xs ih => simp only [List.cons_append, course, ih, after]

@[simp] theorem after_nil (settings : ScreenshotSettings) (b : BatchState) :
    b.after settings [] = b := rfl

theorem after_cons (settings : ScreenshotSettings) (b : BatchState) (src : Path) (files : List Path) :
    b.after settings (src :: files) = (b.step settings src).2.after settings files := rfl

theorem after_append (settings : ScreenshotSettings) (b : BatchState) (xs ys : List Path) :
    b.after settings (xs ++ ys) = (b.after settings xs).after settings ys := by
  rw [after, course_append]
  rfl

theorem length_course (settings : ScreenshotSettings) (b : BatchState) (files : List Path) :
    (b.course settings files).1.length = files.length := by
  induction files generalizing b with
  | nil => rfl
  | cons src files ih => simp only [course, List.length_cons, ih]

theorem getElem?_course (settings : ScreenshotSettings) (b : BatchState) (files : List Path) (i : Nat) :
    (b.course settings files).1[i]? =
      files[i]?.map fun src => ((b.after settings (files.take i)).step settings src).1 := by
  induction files generalizing b i with
  | nil => simp
  | cons src files ih =>
    cases i with
    | zero => rfl
    | succ i =>
      simp only [course, List.getElem?_cons_succ, ih, List.take_succ_cons, after_cons]

theorem after_take_succ (settings : ScreenshotSettings) (b : BatchState) {files : List Path} {i : Nat}
    (hi : files[i]? = some src) :
    b.after settings (files.take (i + 1)) =
      ((b.after settings (files.take i)).step settings src).2 := by
  rw [List.take_add_one, hi, Option.toList_some, after_append]
  rfl

theorem source_step (settings : ScreenshotSettings) (b : BatchState) (src : Path) :
    (b.step settings src).1.source = src := by
  obtain ⟨fault, -, hs⟩ | ⟨o, claims, e, -, hs⟩ | ⟨o, claims, n, file, t, -, -, -, hs⟩ :=
    step_cases settings b src <;> rw [hs] <;> rfl

theorem map_source_course (settings : ScreenshotSettings) (b : BatchState) (files : List Path) :
    (b.course settings files).1.map (·.source) = files := by
  induction files generalizing b with
  | nil => rfl
  | cons src files ih => rw [course, List.map_cons, source_step, ih]

theorem split_of_course (src : Path) {i : Nat} {files : List Path} {outcome : ItemOutcome}
    (h : (b.course settings files).1[i]? = some outcome) (hs : outcome.source = src) :
    files[i]? = some src ∧
      outcome = ((b.after settings (files.take i)).step settings src).1 ∧
      b.after settings files =
        ((b.after settings (files.take i)).step settings src).2.after settings
          (files.drop (i + 1)) := by
  rw [getElem?_course] at h
  obtain ⟨src', hsrc, rfl⟩ := Option.map_eq_some_iff.1 h
  obtain rfl : src' = src := by rwa [source_step] at hs
  refine ⟨hsrc, rfl, ?_⟩
  rw [← after_take_succ settings b hsrc, ← after_append, List.take_append_drop]

end BatchState

namespace Session

variable (filter : Log.Filter) (s : Session)

theorem yields_normalizeFile (c : Canvas) (src dst : Path) :
    Yields (normalizeFile (host filter) c src dst) s
      (s.tree.putPicture c src dst).1 (s.tree.putPicture c src dst).2 := by
  unfold normalizeFile
  refine .bind (yields_read filter s src) fun s₁ h₁ => ?_
  -- The cases are the ways out of the action, in their order.
  rcases hp : openPicture src (s.tree.read src) with e | p
  · simp only [FileTree.putPicture, preparePicture, hp]
    exact Yields.pure _ h₁
  · rcases hn : p.normalize c with e | n
    · simp only [FileTree.putPicture, preparePicture, hp, hn]
      exact Yields.pure _ h₁
    · simp only [hn]
      refine .bind (yields_forM_log filter s₁ _) fun s₂ h₂ => ?_
      have h₂ : s₂.tree = s.tree := h₂.trans h₁
      rcases hf : pngFile n.image with e | file
      · simp only [FileTree.putPicture, preparePicture, hp, hn, hf]
        exact Yields.pure _ h₂
      · rcases hw : s.tree.write dst file with e | t
        · simp only [FileTree.putPicture, preparePicture, hp, hn, hf, hw]
          exact .bind (yields_write_error filter s₂ (h₂ ▸ hw)) fun s₃ h₃ =>
            Yields.pure _ (h₃.trans h₂)
        · simp only [FileTree.putPicture, preparePicture, hp, hn, hf, hw]
          exact .bind (yields_write_ok filter s₂ (h₂ ▸ hw)) fun s₃ h₃ =>
            Yields.pure _ h₃

theorem yields_normalizeItem (c : Canvas) (src output : Path) :
    Yields (normalizeItem (host filter) c src output) s
      (.ofResult src output (s.tree.putPicture c src output).1)
      (s.tree.putPicture c src output).2 := by
  unfold normalizeItem
  refine .bind (yields_log filter s _) fun s₁ h₁ => ?_
  have hfile := yields_normalizeFile filter s₁ c src output
  rw [h₁] at hfile
  refine .bind hfile fun s₂ h₂ => ?_
  rcases (s.tree.putPicture c src output).1 with e | n
  · exact Yields.pure _ h₂
  · refine .bind (yields_log filter s₂ _) fun s₃ h₃ => ?_
    have h₃ := h₃.trans h₂
    have hsaved (s₄ : Session) (h₄ : s₄.tree = (s.tree.putPicture c src output).2) :
        Yields (do
          (host filter).log (.of .info .batch
            ("Saved " ++ output.text ++ " (" ++ c.target.display ++ ", 24-bit RGB)"))
          Pure.pure (ItemOutcome.normalized src output n.sourceSize n.placement n.flattenedAlpha)) s₄
          (.ofResult src output (.ok n)) (s.tree.putPicture c src output).2 := by
      refine .bind (yields_log filter s₄ _) fun s₅ h₅ => ?_
      exact Yields.pure _ (h₅.trans h₄)
    -- The line on the alpha channel is logged or not; the rest is the same.
    show Yields (if n.flattenedAlpha = true then _ else _) s₃ _ _
    split
    · exact .bind (yields_log filter s₃ _) fun s₄ h₄ => hsaved s₄ (h₄.trans h₃)
    · exact hsaved s₃ h₃

omit [Codecs] in
theorem yields_reportFailure {observers : Observers (StateM Session)} (ho : observers.LookOn)
    (outcome : ItemOutcome) :
    Yields (reportFailure (host filter) observers outcome) s () s.tree := by
  unfold reportFailure
  split
  · exact .pure () rfl
  · refine .bind (yields_log filter s _) fun s₁ h₁ => ?_
    split
    next tell htell => exact h₁ ▸ ho.failure tell htell _ _ s₁
    next => exact Yields.pure () h₁

theorem yields_runItem (settings : ScreenshotSettings) (claims : Claims) (src : Path) :
    Yields (runItem (host filter) settings claims src) s
      (BatchState.step settings ⟨claims, s.tree⟩ src).1
      (BatchState.step settings ⟨claims, s.tree⟩ src).2.tree := by
  unfold runItem BatchState.step
  rcases claims.claim src settings.outputDir with fault | ⟨output, claims'⟩
  · exact .pure _ rfl
  · exact yields_normalizeItem filter s settings.canvas src output

omit [Codecs] in
theorem yields_tellProgress {observers : Observers (StateM Session)} (ho : observers.LookOn)
    (done total : Nat) (src : Path) : Yields (tellProgress observers done total src) s () s.tree := by
  unfold tellProgress
  split
  next tell htell => exact ho.progress tell htell _ _ _ s
  next => exact .pure () rfl

/-- The items of a batch take the course that the claims and the tree prescribe. -/
theorem yields_normalizeItems {observers : Observers (StateM Session)} (ho : observers.LookOn)
    (settings : ScreenshotSettings) (total : Nat) (files : List Path) (done : Nat) (claims : Claims) :
    Yields (normalizeItems (host filter) observers settings total files done claims) s
      (BatchState.course settings ⟨claims, s.tree⟩ files).1
      (BatchState.after settings ⟨claims, s.tree⟩ files).tree := by
  induction files generalizing s done claims with
  | nil => exact .pure _ rfl
  | cons src files ih =>
    rw [normalizeItems_cons]
    rw [← BatchState.claims_step settings ⟨claims, s.tree⟩ src]
    refine .bind (yields_runItem filter s settings claims src) fun s₁ h₁ => ?_
    refine .bind (yields_reportFailure filter s₁ ho _) fun s₂ h₂ => ?_
    refine .bind (yields_tellProgress s₂ ho _ _ _) fun s₃ h₃ => ?_
    -- Observers and log have left the tree alone, so the rest starts from what the item left.
    have hrest := ih s₃ (done + 1) (BatchState.step settings ⟨claims, s.tree⟩ src).2.claims
    rw [h₃.trans (h₂.trans h₁)] at hrest
    refine .bind hrest fun s₄ h₄ => ?_
    exact Yields.pure _ h₄

theorem outcomes_normalizeBatch {observers : Observers (StateM Session)} (ho : observers.LookOn)
    (settings : ScreenshotSettings) (files : List Path) :
    ((normalizeBatch (host filter) observers settings files).run s).1.outcomes =
      (BatchState.course settings ⟨[], s.tree⟩ files).1 :=
  (yields_normalizeItems filter s ho settings files.length files 0 []).1

theorem tree_normalizeBatch {observers : Observers (StateM Session)} (ho : observers.LookOn)
    (settings : ScreenshotSettings) (files : List Path) :
    ((normalizeBatch (host filter) observers settings files).run s).2.tree =
      (BatchState.after settings ⟨[], s.tree⟩ files).tree :=
  (yields_normalizeItems filter s ho settings files.length files 0 []).2

end Session
end Storefront
