import Storefront.Proofs.Batch.Lossless
import Storefront.Proofs.Batch.Messages
import Storefront.Proofs.Image.FixedPoint

/-! What can become of a file: it fails for the machine, for its content or for a size without pixels.
A canvas is always encoded, and no size that reaches the scaling divides by zero. -/

namespace Storefront

inductive ImageError.Arises : ImageError → Prop
  | io (e : FileError) : Arises (.io e)
  | decode (e : DecodeError) : Arises (.decode e)
  | invalidDimensions {d : Dimensions} (h : d.isEmpty = true) : Arises (.invalidDimensions d)

theorem Picture.arises_of_normalize {p : Picture} {c : Canvas} {e : ImageError}
    (h : p.normalize c = .error e) : e.Arises := by
  obtain ⟨hempty, rfl⟩ | ⟨-, hempty, rfl⟩ := normalize_eq_error_iff.1 h
  · exact .invalidDimensions hempty
  · exact .invalidDimensions hempty

theorem Picture.normalize_ne_arithmetic (p : Picture) (c : Canvas) (e : ArithmeticError) :
    p.normalize c ≠ .error (.arithmetic e) := by
  intro h
  have harises := arises_of_normalize h
  contradiction

/-- Why an item is told to have failed. -/
inductive IsCause (cause : String) : Prop
  | refused (f : ItemFault) (h : cause = f.message)
  | failed (e : ImageError) (harises : e.Arises) (h : cause = e.message)

section

variable [Codecs] {τ : Type} (host : Host (StateM τ))

theorem arises_normalizeFile (c : Canvas) (src dst : Path) :
    Gives (normalizeFile host c src dst) (∀ e, · = .error e → e.Arises) := by
  unfold normalizeFile
  apply Gives.bind
  intro content
  rcases openPicture src content with e | p
  · exact .pure fun e' he => Except.error.inj he ▸ .decode e
  simp only
  rcases hn : p.normalize c with e | n
  · exact .pure fun e' he => Except.error.inj he ▸ Picture.arises_of_normalize hn
  apply Gives.bind
  intro _
  obtain ⟨hsize, htarget⟩ := Picture.size_normalize hn
  obtain ⟨hempty, -⟩ | ⟨-, file, hfile, -⟩ := pngFile_cases n.image
  · rw [hsize, htarget] at hempty
    contradiction
  rw [hfile]
  apply Gives.bind
  intro written
  rcases written with e | u
  · exact .pure fun e' he => Except.error.inj he ▸ .io e
  · exact .pure fun e' he => by contradiction

theorem causes_runItem (settings : ScreenshotSettings) (claims : Claims) (src : Path) :
    Gives (runItem host settings claims src)
      (∀ src' cause, · = .failed src' cause → IsCause cause) := by
  intro t src' cause h
  rcases hclaim : claims.claim src settings.outputDir with fault | ⟨output, claims'⟩
  · rw [runItem_refused hclaim] at h
    exact .refused fault (ItemOutcome.failed.inj h).2.symm
  · obtain ⟨t', hresult⟩ : ∃ t', ((runItem host settings claims src).run t).1 =
        .ofResult src output ((normalizeFile host settings.canvas src output).run t').1 :=
      runItem_result hclaim t
    have harises := arises_normalizeFile host settings.canvas src output t'
    rw [hresult] at h
    rcases hfile : ((normalizeFile host settings.canvas src output).run t').1 with e | n
    · rw [hfile] at h
      exact .failed e (harises e hfile) (ItemOutcome.failed.inj h).2.symm
    · rw [hfile] at h
      contradiction

theorem causes_normalizeBatch (observers : Observers (StateM τ)) (settings : ScreenshotSettings)
    (files : List Path) : Gives (normalizeBatch host observers settings files) fun report =>
      ∀ outcome ∈ report.outcomes, ∀ src cause, outcome = .failed src cause → IsCause cause := by
  unfold normalizeBatch
  apply Gives.bind
  intro startedAt
  refine Gives.bind_of (q := fun outcomes => ∀ outcome ∈ outcomes, ∀ src cause,
    outcome = .failed src cause → IsCause cause) ?_ fun outcomes h => .bind fun _ => .pure h
  intro t outcome houtcome
  obtain ⟨j, hj⟩ := List.mem_iff_getElem?.1 houtcome
  have hitem := getElem?_runItems host observers settings files.length files t j
  obtain ⟨src, -, rfl⟩ := Option.map_eq_some_iff.1 (hitem.symm.trans hj)
  exact causes_runItem host settings _ src _

end

theorem IsCause.ne_divisionByZero {cause : String} (h : IsCause cause) :
    cause ≠ "attempt to divide by zero" := by
  intro hcause
  obtain ⟨f, hfault⟩ | ⟨e, harises, hmessage⟩ := h
  · exact ImageError.message_ne_fault (.arithmetic .divisionByZero) f (hcause.symm.trans hfault)
  · obtain rfl : e = .arithmetic .divisionByZero :=
      ImageError.eq_arithmetic (hmessage.symm.trans hcause)
    contradiction

/-- The words of a fit are wide enough for all sizes, and it divides by zero for some of those without
a height. Pictures that come on a canvas have none of these, so no file and no item of a batch fails
in that way. -/
theorem undivided_normalizeBatch [Codecs] :
    (∀ source target : Dimensions, source.FitsInWords target) ∧
    (∀ (p : Picture) (c : Canvas) (e : ArithmeticError), p.normalize c ≠ .error (.arithmetic e)) ∧
    ∀ {τ : Type} (host : Host (StateM τ)),
      (∀ (c : Canvas) (src dst : Path) (e : ArithmeticError),
        Gives (normalizeFile host c src dst) (· ≠ .error (.arithmetic e))) ∧
      ∀ (observers : Observers (StateM τ)) (settings : ScreenshotSettings) (files : List Path),
        Gives (normalizeBatch host observers settings files) fun report =>
          ∀ outcome ∈ report.outcomes, ∀ src,
            outcome ≠ .failed src "attempt to divide by zero" := by
  refine ⟨Dimensions.fitsInWords, Picture.normalize_ne_arithmetic, fun host => ⟨?_, ?_⟩⟩
  · intro c src dst e t h
    have harises := arises_normalizeFile host c src dst t _ h
    contradiction
  · intro observers settings files t outcome houtcome src h
    have hcause := causes_normalizeBatch host observers settings files t outcome houtcome src _ h
    exact hcause.ne_divisionByZero rfl

end Storefront
