import Mathlib.Data.List.Induction
import Storefront.Proofs.Batch.EndState
import Storefront.Proofs.Batch.Recording
import Storefront.Proofs.Text.LetterCase

/-! Which items of a batch are refused because an earlier one has claimed their output. The names
of the sources alone decide that, whatever becomes of the items and whatever the machine does. -/

namespace Storefront

section

variable [Codecs] {m : Type → Type} [Monad m] [LawfulMonad m]

theorem normalizeItems_append (host : Host m) (observers : Observers m)
    (settings : ScreenshotSettings) (total : Nat) (xs ys : List Path) (done : Nat)
    (claims : Claims) :
    normalizeItems host observers settings total (xs ++ ys) done claims = do
      let front ← normalizeItems host observers settings total xs done claims
      let rest ← normalizeItems host observers settings total ys (done + xs.length)
        (Claims.after settings.outputDir claims xs)
      return front ++ rest := by
  induction xs generalizing done claims with
  | nil => simp [normalizeItems, Claims.after]
  | cons src xs ih =>
    have hdone : done + 1 + xs.length = done + (src :: xs).length := by
      rw [List.length_cons]
      omega
    rw [List.cons_append, normalizeItems_cons, normalizeItems_cons]
    simp only [ih, hdone, bind_assoc, pure_bind, List.cons_append, Claims.after]

end

def Gives {τ α : Type} (x : StateM τ α) (p : α → Prop) : Prop :=
  ∀ s, p (x.run s).1

namespace Gives

variable {τ α β : Type} {p : β → Prop}

theorem pure {b : β} (h : p b) : Gives (pure b : StateM τ β) p := fun _ => h

theorem bind {x : StateM τ α} {f : α → StateM τ β} (h : ∀ a, Gives (f a) p) : Gives (x >>= f) p :=
  fun s => h (x.run s).1 (x.run s).2

theorem bind_of {x : StateM τ α} {f : α → StateM τ β} {q : α → Prop} (hx : Gives x q)
    (hf : ∀ a, q a → Gives (f a) p) : Gives (x >>= f) p :=
  fun s => hf (x.run s).1 (hx s) (x.run s).2

end Gives

section

variable [Codecs] {τ : Type} (host : Host (StateM τ)) (observers : Observers (StateM τ))
  (settings : ScreenshotSettings) (total : Nat)

def runItems (files : List Path) (s : τ) : List ItemOutcome × τ :=
  (normalizeItems host observers settings total files 0 []).run s

theorem runItems_concat (files : List Path) (src : Path) (s : τ) :
    runItems host observers settings total (files ++ [src]) s =
      let before := runItems host observers settings total files s
      let item := (runItem host settings (Claims.after settings.outputDir [] files) src).run before.2
      let told := (reportFailure host observers item.1).run item.2
      (before.1 ++ [item.1],
        ((tellProgress observers (files.length + 1) total src).run told.2).2) := by
  unfold runItems
  rw [normalizeItems_append, normalizeItems_cons, Nat.zero_add]
  rfl

theorem length_runItems (files : List Path) (s : τ) :
    (runItems host observers settings total files s).1.length = files.length := by
  induction files using List.reverseRecOn with
  | nil => rfl
  | append_singleton files src ih =>
    rw [runItems_concat, List.length_append, List.length_append, ih]
    rfl

theorem getElem?_runItems (files : List Path) (s : τ) (j : Nat) :
    (runItems host observers settings total files s).1[j]? =
      files[j]?.map fun src =>
        ((runItem host settings (Claims.after settings.outputDir [] (files.take j)) src).run
          (runItems host observers settings total (files.take j) s).2).1 := by
  -- From the end of the list: the last item runs with the claims of all others.
  induction files using List.reverseRecOn with
  | nil => rfl
  | append_singleton files src ih =>
    have hlength := length_runItems host observers settings total files s
    rw [runItems_concat]
    rcases Nat.lt_trichotomy j files.length with hj | rfl | hj
    · rw [List.getElem?_append_left (by omega), List.getElem?_append_left hj,
        List.take_append_of_le_length (by omega)]
      exact ih
    · rw [List.getElem?_append_right (by omega), List.getElem?_append_right (by omega), hlength,
        Nat.sub_self, List.take_left]
      rfl
    · rw [List.getElem?_eq_none (by rw [List.length_append, hlength]; exact hj),
        List.getElem?_eq_none (by rw [List.length_append]; exact hj)]
      rfl

variable {host settings}

theorem runItem_refused {claims : Claims} {src : Path} {fault : ItemFault}
    (h : claims.claim src settings.outputDir = .error fault) (s : τ) :
    (runItem host settings claims src).run s = (.failed src fault.message, s) := by
  rw [runItem, h]
  rfl

theorem normalizeItem_result (c : Canvas) (src output : Path) :
    Gives (normalizeItem host c src output)
      (∃ t, · = .ofResult src output ((normalizeFile host c src output).run t).1) := by
  have hfile : Gives (normalizeFile host c src output)
      (∃ t, · = ((normalizeFile host c src output).run t).1) := fun t => ⟨t, rfl⟩
  unfold normalizeItem
  apply Gives.bind
  intro _
  refine hfile.bind_of fun r hr => ?_
  obtain ⟨t, ht⟩ := hr
  rcases r with e | n
  · exact .pure ⟨t, by rw [← ht]; rfl⟩
  · apply Gives.bind
    intro _
    have hsaved : Gives
        (do
          host.log (.of .info .batch
            ("Saved " ++ output.text ++ " (" ++ c.target.display ++ ", 24-bit RGB)"))
          pure (ItemOutcome.normalized src output n.sourceSize n.placement n.flattenedAlpha))
        (∃ t, · = .ofResult src output ((normalizeFile host c src output).run t).1) :=
      .bind fun _ => .pure ⟨t, by rw [← ht]; rfl⟩
    show Gives (if n.flattenedAlpha = true then _ else _) _
    split
    · exact .bind fun _ => hsaved
    · exact hsaved

theorem runItem_result {claims claims' : Claims} {src output : Path}
    (h : claims.claim src settings.outputDir = .ok (output, claims')) (s : τ) :
    ∃ t, ((runItem host settings claims src).run s).1 =
      .ofResult src output ((normalizeFile host settings.canvas src output).run t).1 := by
  rw [runItem, h]
  exact normalizeItem_result settings.canvas src output s

theorem runItem_granted {claims claims' : Claims} {src output : Path}
    (h : claims.claim src settings.outputDir = .ok (output, claims')) (s : τ) :
    ∃ r, ((runItem host settings claims src).run s).1 = .ofResult src output r := by
  obtain ⟨t, ht⟩ := runItem_result h s
  exact ⟨_, ht⟩

end

theorem head?_append {s : String} {c : Char} (h : s.toList.head? = some c) (t : String) :
    (s ++ t).toList.head? = some c := by
  rw [String.toList_append, List.head?_append, h]
  rfl

theorem ImageError.message_ne (e : ImageError) (name : String) :
    e.message ≠ "output name collides with " ++ name := by
  -- The first letters tell them apart.
  have hne : e.message.toList.head? ≠ some 'o' := by
    cases e with
    | io e =>
      show ("I/O error: " ++ e.message).toList.head? ≠ some 'o'
      rw [head?_append (c := 'I') (by decide)]
      decide
    | decode e =>
      show ("Decode error: " ++ e.message).toList.head? ≠ some 'o'
      rw [head?_append (c := 'D') (by decide)]
      decide
    | encode e =>
      show ("Encode error: " ++ e.message).toList.head? ≠ some 'o'
      rw [head?_append (c := 'E') (by decide)]
      decide
    | invalidDimensions d =>
      show ("Invalid dimensions " ++ d.display).toList.head? ≠ some 'o'
      rw [head?_append (c := 'I') (by decide)]
      decide
    | arithmetic e =>
      cases e
      decide
  intro h
  rw [h] at hne
  exact hne (head?_append (by decide) name)

def keyAt? (dir : Path) (files : List Path) (i : Nat) : Option String :=
  files[i]?.bind (outputKey? · dir)

def SameKey (dir : Path) (files : List Path) (i j : Nat) : Prop :=
  ∃ key, keyAt? dir files i = some key ∧ keyAt? dir files j = some key

/-- An item has the first of all outputs with the key of a later one. -/
structure FirstClaim (dir : Path) (files : List Path) (i j : Nat) : Prop where
  before : i < j
  same : SameKey dir files i j
  first : ∀ h < i, ¬SameKey dir files h j

section

variable {dir : Path} {files : List Path} {key : String} {i j : Nat}

theorem keyAt?_eq_some {src output : Path} (hsrc : files[j]? = some src)
    (ho : outputPath? src dir = some output) :
    keyAt? dir files j = some (collisionKey output) := by
  rw [keyAt?, hsrc]
  exact outputKey?_eq_some_iff.2 ⟨output, ho, rfl⟩

theorem sameKey_iff (hj : keyAt? dir files j = some key) :
    SameKey dir files i j ↔ keyAt? dir files i = some key := by
  constructor
  · rintro ⟨k, hi, hk⟩
    obtain rfl := Option.some.inj (hj.symm.trans hk)
    exact hi
  · intro hi
    exact ⟨key, hi, hj⟩

theorem sameKey_iff_lowerCase : SameKey dir files i j ↔
    ∃ a b p q, files[i]? = some a ∧ files[j]? = some b ∧ outputPath? a dir = some p ∧
      outputPath? b dir = some q ∧ lowerCase p.text = lowerCase q.text := by
  constructor
  · rintro ⟨key, hi, hj⟩
    obtain ⟨a, ha, hkey⟩ := Option.bind_eq_some_iff.1 hi
    obtain ⟨b, hb, hkey'⟩ := Option.bind_eq_some_iff.1 hj
    obtain ⟨p, hp, hpkey⟩ := outputKey?_eq_some_iff.1 hkey
    obtain ⟨q, hq, hqkey⟩ := outputKey?_eq_some_iff.1 hkey'
    exact ⟨a, b, p, q, ha, hb, hp, hq, hpkey.trans hqkey.symm⟩
  · rintro ⟨a, b, p, q, ha, hb, hp, hq, hcase⟩
    have hkey : collisionKey p = collisionKey q := hcase
    exact ⟨collisionKey q, hkey ▸ keyAt?_eq_some ha hp, keyAt?_eq_some hb hq⟩

theorem SameKey.exists_firstClaim (h : SameKey dir files i j) (hij : i < j) :
    ∃ i, FirstClaim dir files i j := by
  induction i using Nat.strongRecOn with
  | ind i ih =>
    by_cases hfirst : ∃ h < i, SameKey dir files h j
    · obtain ⟨k, hk, hsame⟩ := hfirst
      exact ih k hk hsame (Nat.lt_trans hk hij)
    · exact ⟨i, hij, h, fun k hk hsame => hfirst ⟨k, hk, hsame⟩⟩

theorem lookup_take_iff {first : Path} (hj : keyAt? dir files j = some key) :
    (Claims.after dir [] (files.take j)).lookup key = some first ↔
      ∃ i, FirstClaim dir files i j ∧ files[i]? = some first := by
  rw [Claims.lookup_after, List.lookup_nil, Option.none_or, List.find?_eq_some_iff_getElem]
  constructor
  · rintro ⟨hkey, i, hi, hfirst, hnone⟩
    rw [List.length_take] at hi
    rw [List.getElem_take] at hfirst
    have hget : files[i]? = some first := List.getElem?_eq_some_iff.2 ⟨by omega, hfirst⟩
    refine ⟨i, ⟨by omega, (sameKey_iff hj).2 ?_, fun h hh hsame => ?_⟩, hget⟩
    · rw [keyAt?, hget]
      simpa using hkey
    · have hkeyh := (sameKey_iff hj).1 hsame
      rw [keyAt?, List.getElem?_eq_getElem (by omega)] at hkeyh
      have := hnone h hh
      rw [List.getElem_take] at this
      simp [show outputKey? files[h] dir = some key from hkeyh] at this
  · rintro ⟨i, hi, hfirst⟩
    obtain ⟨hlt, hget⟩ := List.getElem?_eq_some_iff.1 hfirst
    have hkey := (sameKey_iff hj).1 hi.same
    rw [keyAt?, hfirst] at hkey
    refine ⟨by simpa using hkey, i, by rw [List.length_take]; have := hi.before; omega, ?_, ?_⟩
    · rw [List.getElem_take, hget]
    · intro h hh
      have hnot := hi.first h hh
      rw [sameKey_iff hj, keyAt?, List.getElem?_eq_getElem (by omega)] at hnot
      rw [List.getElem_take]
      simpa using hnot

theorem lookup_take_ne_none (hij : i < j) (hi : keyAt? dir files i = some key) :
    (Claims.after dir [] (files.take j)).lookup key ≠ none := by
  obtain ⟨src, hsrc, hkey⟩ := Option.bind_eq_some_iff.1 hi
  rw [Claims.lookup_after, List.lookup_nil, Option.none_or]
  intro hnone
  have hmem : src ∈ files.take j := by
    rw [List.mem_iff_getElem?]
    exact ⟨i, by rwa [List.getElem?_take_of_lt hij]⟩
  simpa [hkey] using List.find?_eq_none.1 hnone src hmem

end

section

variable [Codecs] {τ : Type} (host : Host (StateM τ)) (observers : Observers (StateM τ))
  {settings : ScreenshotSettings} (total : Nat) {files : List Path} (s : τ) {j : Nat} {src : Path}

theorem collides_iff {name : String} :
    (runItems host observers settings total files s).1[j]? =
        some (.failed src ("output name collides with " ++ name)) ↔
      files[j]? = some src ∧ ∃ first : Path, first.displayName = name ∧
        (Claims.after settings.outputDir [] (files.take j)).claim src settings.outputDir =
          .error (.collision first) := by
  rw [getElem?_runItems, Option.map_eq_some_iff]
  constructor
  · rintro ⟨src', hsrc, houtcome⟩
    rcases hc : (Claims.after settings.outputDir [] (files.take j)).claim src' settings.outputDir
      with fault | ⟨output, claims⟩
    · rw [runItem_refused hc] at houtcome
      obtain ⟨rfl, hmessage⟩ := ItemOutcome.failed.inj houtcome
      rcases fault with - | first
      · have hhead : some 's' = some 'o' := by
          have := congrArg (fun t : String => t.toList.head?) hmessage
          rwa [head?_append (s := "output name collides with ") (c := 'o') (by decide)] at this
        simp at hhead
      · exact ⟨hsrc, first, (String.append_right_inj _).1 hmessage, hc⟩
    · obtain ⟨r, hr⟩ := runItem_granted hc (runItems host observers settings total (files.take j) s).2
      -- Items that are granted their output fail with a message of their own.
      rw [hr] at houtcome
      rcases r with e | n
      · exact absurd (ItemOutcome.failed.inj houtcome).2 (e.message_ne name)
      · simp [ItemOutcome.ofResult] at houtcome
  · rintro ⟨hsrc, first, rfl, hc⟩
    refine ⟨src, hsrc, ?_⟩
    rw [runItem_refused hc]
    rfl

theorem output_runItems {outcome : ItemOutcome} {output : Path}
    (h : (runItems host observers settings total files s).1[j]? = some outcome)
    (ho : outcome.output? = some output) :
    ∃ src, files[j]? = some src ∧ outputPath? src settings.outputDir = some output ∧
      ∀ i < j, keyAt? settings.outputDir files i ≠ some (collisionKey output) := by
  rw [getElem?_runItems, Option.map_eq_some_iff] at h
  obtain ⟨src, hsrc, rfl⟩ := h
  rcases hc : (Claims.after settings.outputDir [] (files.take j)).claim src settings.outputDir
    with fault | ⟨own, claims⟩
  · rw [runItem_refused hc] at ho
    simp [ItemOutcome.output?] at ho
  · obtain ⟨r, hr⟩ := runItem_granted hc (runItems host observers settings total (files.take j) s).2
    rw [hr] at ho
    rcases r with e | n
    · simp [ItemOutcome.ofResult, ItemOutcome.output?] at ho
    · obtain rfl : own = output := Option.some.inj ho
      obtain ⟨hpath, hfree, -⟩ := Claims.claim_eq_ok_iff.1 hc
      exact ⟨src, hsrc, hpath, fun i hij hkey => lookup_take_ne_none hij hkey hfree⟩

theorem collides_iff_firstClaim {name : String} :
    (runItems host observers settings total files s).1[j]? =
        some (.failed src ("output name collides with " ++ name)) ↔
      ∃ i first, FirstClaim settings.outputDir files i j ∧ files[j]? = some src ∧
        files[i]? = some first ∧ first.displayName = name := by
  rw [collides_iff]
  constructor
  · rintro ⟨hsrc, first, hname, hc⟩
    obtain ⟨output, ho, hl⟩ := Claims.claim_eq_collision_iff.1 hc
    obtain ⟨i, hi, hfirst⟩ := (lookup_take_iff (keyAt?_eq_some hsrc ho)).1 hl
    exact ⟨i, first, hi, hsrc, hfirst, hname⟩
  · rintro ⟨i, first, hi, hsrc, hfirst, hname⟩
    obtain ⟨key, -, hkey⟩ := hi.same
    obtain ⟨src', hsrc', hout⟩ := Option.bind_eq_some_iff.1 hkey
    obtain rfl := Option.some.inj (hsrc.symm.trans hsrc')
    obtain ⟨output, ho, rfl⟩ := outputKey?_eq_some_iff.1 hout
    refine ⟨hsrc, first, hname, Claims.claim_eq_collision_iff.2 ⟨output, ho, ?_⟩⟩
    exact (lookup_take_iff hkey).2 ⟨i, hi, hfirst⟩

theorem key_ne_of_lt {i : Nat} (hij : i < j) {p q : ItemOutcome} {output output' : Path}
    (hi : (runItems host observers settings total files s).1[i]? = some p)
    (hj : (runItems host observers settings total files s).1[j]? = some q)
    (hp : p.output? = some output) (hq : q.output? = some output') :
    collisionKey output ≠ collisionKey output' := by
  intro hkey
  obtain ⟨src, hsrc, ho, -⟩ := output_runItems host observers total s hi hp
  obtain ⟨-, -, -, hfree⟩ := output_runItems host observers total s hj hq
  exact hfree i hij (hkey ▸ keyAt?_eq_some hsrc ho)

theorem key_ne {i : Nat} (hij : i ≠ j) {p q : ItemOutcome} {output output' : Path}
    (hi : (runItems host observers settings total files s).1[i]? = some p)
    (hj : (runItems host observers settings total files s).1[j]? = some q)
    (hp : p.output? = some output) (hq : q.output? = some output') :
    collisionKey output ≠ collisionKey output' := by
  rcases Nat.lt_or_gt_of_ne hij with h | h
  · exact key_ne_of_lt host observers total s h hi hj hp hq
  · exact (key_ne_of_lt host observers total s h hj hi hq hp).symm

def writesUpTo (settings : ScreenshotSettings) (files : List Path) (k : Nat) : List Path :=
  (runItems host.recording observers.recording settings total (files.take k) (s, [])).2.2

theorem writesUpTo_refused {fault : ItemFault} (hsrc : files[j]? = some src)
    (hc : (Claims.after settings.outputDir [] (files.take j)).claim src settings.outputDir =
      .error fault) :
    writesUpTo host observers total s settings files (j + 1) =
      writesUpTo host observers total s settings files j := by
  unfold writesUpTo
  rw [List.take_add_one, hsrc, Option.toList_some, runItems_concat]
  simp only [runItem_refused hc]
  rw [(Records.tellProgress observers _ _ _).writes_eq, (Records.reportFailure host _ _).writes_eq]

theorem nodup_writesUpTo (k : Nat) :
    ((writesUpTo host observers total s settings files k).map collisionKey).Nodup := by
  obtain ⟨us, hus, hrun⟩ := Records.normalizeItems host observers settings total (files.take k) 0 [] s []
  have hwrites : writesUpTo host observers total s settings files k = us := by
    unfold writesUpTo runItems
    rw [hrun, List.nil_append]
  rw [hwrites]
  exact (Claims.nodup_granted settings.outputDir [] (files.take k)).sublist (hus.map collisionKey)

end

/-- What the names of the sources decide about a batch, told by its outcomes and by the paths that
its first `k` items ask to write. -/
structure NameCollisions (dir : Path) (files : List Path) (outcomes : List ItemOutcome)
    (writes : Nat → List Path) : Prop where
  key_iff : ∀ i j, SameKey dir files i j ↔
    ∃ a b p q, files[i]? = some a ∧ files[j]? = some b ∧ outputPath? a dir = some p ∧
      outputPath? b dir = some q ∧ lowerCase p.text = lowerCase q.text
  refused_iff : ∀ j,
    (∃ src name, outcomes[j]? = some (.failed src ("output name collides with " ++ name))) ↔
      ∃ i < j, SameKey dir files i j
  claimant : ∀ j src name,
    outcomes[j]? = some (.failed src ("output name collides with " ++ name)) ↔
      ∃ i first, FirstClaim dir files i j ∧ files[j]? = some src ∧ files[i]? = some first ∧
        first.displayName = name
  unwritten : ∀ j src name,
    outcomes[j]? = some (.failed src ("output name collides with " ++ name)) →
      writes (j + 1) = writes j
  keys : ∀ (i j : Nat) (p q : ItemOutcome) (output output' : Path), i ≠ j → outcomes[i]? = some p →
    outcomes[j]? = some q → p.output? = some output → q.output? = some output' →
      lowerCase output.text ≠ lowerCase output'.text
  once : ((writes files.length).map fun output => lowerCase output.text).Nodup
  letterCase : ∀ (i j : Nat) (a b output output' : Path), i ≠ j → files[i]? = some a →
    files[j]? = some b → outputPath? a dir = some output → outputPath? b dir = some output' →
    output.text.toList.map Char.toLower = output'.text.toList.map Char.toLower →
    ∀ p q, outcomes[i]? = some p → outcomes[j]? = some q → ¬(p.isSuccess ∧ q.isSuccess)

theorem ItemOutcome.exists_output {outcome : ItemOutcome} (h : outcome.isSuccess = true) :
    ∃ output, outcome.output? = some output := by
  cases outcome with
  | normalized src output => exact ⟨output, rfl⟩
  | failed src cause => simp [isSuccess] at h

section

variable [Codecs] {τ : Type} (host : Host (StateM τ)) (observers : Observers (StateM τ))
  (settings : ScreenshotSettings) (files : List Path)

theorem nameCollisions_runItems (total : Nat) (s : τ) :
    NameCollisions settings.outputDir files (runItems host observers settings total files s).1
      (writesUpTo host observers total s settings files) where
  key_iff i j := sameKey_iff_lowerCase
  refused_iff j := by
    constructor
    · rintro ⟨src, name, h⟩
      obtain ⟨i, first, hi, -⟩ := (collides_iff_firstClaim host observers total s).1 h
      exact ⟨i, hi.before, hi.same⟩
    · rintro ⟨i, hij, hsame⟩
      obtain ⟨i, hi⟩ := hsame.exists_firstClaim hij
      obtain ⟨key, hkey, hkeyj⟩ := hi.same
      obtain ⟨first, hfirst, -⟩ := Option.bind_eq_some_iff.1 hkey
      obtain ⟨src, hsrc, -⟩ := Option.bind_eq_some_iff.1 hkeyj
      exact ⟨src, first.displayName, (collides_iff_firstClaim host observers total s).2
        ⟨i, first, hi, hsrc, hfirst, rfl⟩⟩
  claimant j src name := collides_iff_firstClaim host observers total s
  unwritten j src name h := by
    obtain ⟨hsrc, first, -, hc⟩ := (collides_iff host observers total s).1 h
    exact writesUpTo_refused host observers total s hsrc hc
  keys i j p q output output' hij hi hj hp hq := key_ne host observers total s hij hi hj hp hq
  once := nodup_writesUpTo host observers total s files.length
  letterCase := by
    intro i j a b output output' hij ha hb hoa hob hcase p q hp hq hsuccess
    obtain ⟨own, hown⟩ := ItemOutcome.exists_output hsuccess.1
    obtain ⟨own', hown'⟩ := ItemOutcome.exists_output hsuccess.2
    obtain ⟨a', ha', hoa', -⟩ := output_runItems host observers total s hp hown
    obtain ⟨b', hb', hob', -⟩ := output_runItems host observers total s hq hown'
    obtain rfl := Option.some.inj (ha.symm.trans ha')
    obtain rfl := Option.some.inj (hb.symm.trans hb')
    obtain rfl := Option.some.inj (hoa.symm.trans hoa')
    obtain rfl := Option.some.inj (hob.symm.trans hob')
    exact key_ne host observers total s hij hp hq hown hown' (lowerCase_eq_of_lowerAscii_eq hcase)

/-- On every machine and with all observers, the names of the sources decide which items of a batch
collide, and no two outputs that are written have one key. -/
theorem nameCollisions_normalizeBatch (s : τ) :
    NameCollisions settings.outputDir files
        ((normalizeBatch host observers settings files).run s).1.outcomes
        (writesUpTo host observers files.length (host.now.run s).2 settings files) ∧
      ((normalizeBatch host.recording observers.recording settings files).run (s, [])).1 =
        ((normalizeBatch host observers settings files).run s).1 ∧
      ((normalizeBatch host.recording observers.recording settings files).run (s, [])).2.2 =
        writesUpTo host observers files.length (host.now.run s).2 settings files files.length := by
  refine ⟨nameCollisions_runItems host observers settings files _ _, ?_, ?_⟩
  · obtain ⟨us, -, hrun⟩ := Records.normalizeBatch host observers settings files s []
    rw [hrun]
  · unfold writesUpTo
    rw [List.take_length]
    rfl

end

/-- The first of three items whose outputs differ in letter case only fails for its file. The other two
are refused for it all the same. -/
theorem nameCollisions_brokenFirst :
    let files := [⟨"in/b.png"⟩, ⟨"in/B.png"⟩, ⟨"in/b.PNG"⟩, ⟨"in/a.png"⟩]
    let s := Session.start FileTree.twoPictures
    let outcomes := ((normalizeBatch (Session.host []) Session.observers twoPicturesSettings
      files).run s).1.outcomes
    let writes := writesUpTo (Session.host []) Session.observers 4 s twoPicturesSettings files
    NameCollisions ⟨"out"⟩ files outcomes writes ∧
      (outcomes[0]? = some (.failed ⟨"in/b.png"⟩ "Decode error: unexpected end of file") ∧
        outcomes[3]?.bind (·.output?) = some ⟨"out/a.png"⟩ ∧ writes 4 = [⟨"out/a.png"⟩]) ∧
      outcomes[1]? = some (.failed ⟨"in/B.png"⟩ "output name collides with b.png") ∧
      outcomes[2]? = some (.failed ⟨"in/b.PNG"⟩ "output name collides with b.png") := by
  intro files s outcomes writes
  have hnames : NameCollisions ⟨"out"⟩ files outcomes writes :=
    (nameCollisions_normalizeBatch (Session.host []) Session.observers twoPicturesSettings files s).1
  have hrefused (j : Nat) (src output : Path) (hj : 0 < j) (hsrc : files[j]? = some src)
      (ho : outputPath? src ⟨"out"⟩ = some output)
      (hcase : lowerCase "out/b.png" = lowerCase output.text) :
      outcomes[j]? = some (.failed src "output name collides with b.png") := by
    have hsame : SameKey ⟨"out"⟩ files 0 j := (hnames.key_iff 0 j).2
      ⟨⟨"in/b.png"⟩, src, ⟨"out/b.png"⟩, output, rfl, hsrc, by decide +kernel, ho, hcase⟩
    exact (hnames.claimant j src "b.png").2
      ⟨0, ⟨"in/b.png"⟩, ⟨hj, hsame, by simp⟩, hsrc, rfl, rfl⟩
  refine ⟨hnames, by decide +kernel, ?_, ?_⟩
  · exact hrefused 1 ⟨"in/B.png"⟩ ⟨"out/B.png"⟩ Nat.one_pos rfl (by decide +kernel) (by decide +kernel)
  · exact hrefused 2 ⟨"in/b.PNG"⟩ ⟨"out/b.PNG"⟩ Nat.two_pos rfl (by decide +kernel) (by decide +kernel)

end Storefront
