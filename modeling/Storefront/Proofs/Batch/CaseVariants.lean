import Mathlib.Data.List.Nodup
import Storefront.Proofs.Batch.Collision
import Storefront.Proofs.Batch.EndState
import Storefront.Proofs.Text.Variants

/-! Items of a batch whose outputs differ in letter case only. The later one is refused, unless the
variant of a letter, such as the long s or the final sigma, tells the two outputs apart. -/

namespace Storefront

/-- What two outputs with the same upper case, `p` of item `i` and `q` of the later item `j`,
decide about a batch, told by its outcomes and by the paths that its first `k` items ask to
write. -/
structure VariantsDecide (dir : Path) (files : List Path) (outcomes : List ItemOutcome)
    (writes : Nat → List Path) (i j : Nat) (p q : Path) : Prop where
  key_iff : collisionKey p = collisionKey q ↔ SameVariants p.text q.text
  plain : (∀ c ∈ p.text.toList ++ q.text.toList, c ≠ 'Σ' ∧ c ∉ LowerCase.variants) →
    collisionKey p = collisionKey q
  refused : SameVariants p.text q.text → ∃ k src first, FirstClaim dir files k j ∧
    files[j]? = some src ∧ files[k]? = some first ∧
    outcomes[j]? = some (.failed src ("output name collides with " ++ first.displayName))
  unwritten : SameVariants p.text q.text → writes (j + 1) = writes j
  once : SameVariants p.text q.text → (writes files.length).countP (fun w => w = p ∨ w = q) ≤ 1
  apart : ¬SameVariants p.text q.text →
    ((∃ src name, outcomes[j]? = some (.failed src ("output name collides with " ++ name))) ↔
      ∃ h < j, h ≠ i ∧ SameKey dir files h j)

section

variable {dir : Path} {files : List Path} {outcomes : List ItemOutcome} {writes : Nat → List Path}
  {i j : Nat} {a b p q : Path}

theorem sameKey_iff_collisionKey (ha : files[i]? = some a) (hb : files[j]? = some b)
    (hp : outputPath? a dir = some p) (hq : outputPath? b dir = some q) :
    SameKey dir files i j ↔ collisionKey p = collisionKey q := by
  rw [sameKey_iff (keyAt?_eq_some hb hq), keyAt?_eq_some ha hp, Option.some.injEq]

theorem NameCollisions.variantsDecide (hn : NameCollisions dir files outcomes writes) (hij : i < j)
    (ha : files[i]? = some a) (hb : files[j]? = some b) (hp : outputPath? a dir = some p)
    (hq : outputPath? b dir = some q) (hcase : SameUpToCase p.text q.text) :
    VariantsDecide dir files outcomes writes i j p q := by
  have hkey : collisionKey p = collisionKey q ↔ SameVariants p.text q.text := lowerCase_eq_iff hcase
  have hsame : SameKey dir files i j ↔ SameVariants p.text q.text :=
    (sameKey_iff_collisionKey ha hb hp hq).trans hkey
  have hrefused (h : SameVariants p.text q.text) : ∃ src name,
      outcomes[j]? = some (.failed src ("output name collides with " ++ name)) :=
    (hn.refused_iff j).2 ⟨i, hij, hsame.2 h⟩
  refine ⟨hkey, fun hplain => hkey.2 (hcase.sameVariants hplain), fun h => ?_, fun h => ?_,
    fun h => ?_, fun h => ?_⟩
  · obtain ⟨src, name, ho⟩ := hrefused h
    obtain ⟨k, first, hk, hsrc, hfirst, rfl⟩ := (hn.claimant j src name).1 ho
    exact ⟨k, src, first, hk, hsrc, hfirst, ho⟩
  · obtain ⟨src, name, ho⟩ := hrefused h
    exact hn.unwritten j src name ho
  · -- Both outputs have the key of `p`, and no key is asked for twice.
    have hcount := List.nodup_iff_count_le_one.1 hn.once (collisionKey p)
    rw [List.count, List.countP_map] at hcount
    refine Nat.le_trans (List.countP_mono_left fun w _ hw => ?_) hcount
    rw [Function.comp_apply, beq_iff_eq]
    rcases of_decide_eq_true hw with rfl | rfl
    · rfl
    · exact (hkey.2 h).symm
  · rw [hn.refused_iff j]
    constructor
    · rintro ⟨k, hk, hkj⟩
      refine ⟨k, hk, ?_, hkj⟩
      rintro rfl
      exact h (hsame.1 hkj)
    · rintro ⟨k, hk, -, hkj⟩
      exact ⟨k, hk, hkj⟩

end

section

variable [Codecs] {τ : Type} (host : Host (StateM τ)) (observers : Observers (StateM τ))
  (settings : ScreenshotSettings) (files : List Path)

/-- On every machine and with all observers: of two items whose outputs differ in letter case only
the later one is refused and nothing is written for it, if the outputs have the same variants, and
otherwise neither is in the way of the other. -/
theorem variantsDecide_normalizeBatch (s : τ) {i j : Nat} {a b p q : Path} (hij : i < j)
    (ha : files[i]? = some a) (hb : files[j]? = some b)
    (hp : outputPath? a settings.outputDir = some p)
    (hq : outputPath? b settings.outputDir = some q) (hcase : SameUpToCase p.text q.text) :
    VariantsDecide settings.outputDir files
        ((normalizeBatch host observers settings files).run s).1.outcomes
        (writesUpTo host observers files.length (host.now.run s).2 settings files) i j p q ∧
      ((normalizeBatch host.recording observers.recording settings files).run (s, [])).2.2 =
        writesUpTo host observers files.length (host.now.run s).2 settings files files.length := by
  refine ⟨?_, ?_⟩
  · exact (nameCollisions_runItems host observers settings files files.length
      (host.now.run s).2).variantsDecide hij ha hb hp hq hcase
  · unfold writesUpTo
    rw [List.take_length]
    rfl

end

namespace FileTree

def greekNames : FileTree where
  workDir := ["work"]
  entries :=
    [(["work"], .directory), (["in", "work"], .directory), (["out", "work"], .directory),
     (["ΑΣ.png", "in", "work"], .file (Png.pack (Png.fileParts (.ofFn ⟨1, 1⟩ fun _ _ => ⟨10, 20, 30⟩)))),
     (["ας.png", "in", "work"], .file (Png.pack (Png.fileParts (.ofFn ⟨1, 1⟩ fun _ _ => ⟨40, 50, 60⟩))))]

end FileTree

/-- In front of the extension a capital sigma does not end a word: the name in capitals and the same
name in small letters, with its final sigma, are both granted their output and written. -/
theorem normalized_greekNames :
    let files := [⟨"in/ΑΣ.png"⟩, ⟨"in/ας.png"⟩]
    let outputs := [⟨"out/ΑΣ.png"⟩, ⟨"out/ας.png"⟩]
    SameUpToCase "out/ΑΣ.png" "out/ας.png" ∧
      collisionKey ⟨"out/ΑΣ.png"⟩ ≠ collisionKey ⟨"out/ας.png"⟩ ∧
      ((normalizeBatch (Session.host []) Session.observers twoPicturesSettings files).run
        (Session.start FileTree.greekNames)).1.outcomes.map (·.output?) = outputs.map some ∧
      ((normalizeBatch (Session.host []).recording Session.observers.recording twoPicturesSettings
        files).run (Session.start FileTree.greekNames, [])).2.2 = outputs := by
  decide +kernel

/-- In front of a space it does: the two forms of the name collide. -/
theorem variantsDecide_greekNames :
    let files := [⟨"in/ΑΣ 1.png"⟩, ⟨"in/ας 1.png"⟩]
    let s := Session.start FileTree.greekNames
    SameUpToCase "out/ΑΣ 1.png" "out/ας 1.png" ∧
      collisionKey ⟨"out/ΑΣ 1.png"⟩ = collisionKey ⟨"out/ας 1.png"⟩ ∧
      VariantsDecide ⟨"out"⟩ files
        ((normalizeBatch (Session.host []) Session.observers twoPicturesSettings files).run s).1.outcomes
        (writesUpTo (Session.host []) Session.observers 2 s twoPicturesSettings files) 0 1
        ⟨"out/ΑΣ 1.png"⟩ ⟨"out/ας 1.png"⟩ := by
  have hcase : SameUpToCase "out/ΑΣ 1.png" "out/ας 1.png" := by decide +kernel
  refine ⟨hcase, by decide +kernel, ?_⟩
  exact (variantsDecide_normalizeBatch (Session.host []) Session.observers twoPicturesSettings _
    (Session.start FileTree.greekNames) Nat.zero_lt_one rfl rfl (by decide +kernel)
    (by decide +kernel) hcase).1

end Storefront
