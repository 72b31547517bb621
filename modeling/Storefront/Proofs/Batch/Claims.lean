import Storefront.Batch.Run
import Storefront.Proofs.Path.OutputName

/-! What a claim of an output asks for and what it leaves behind, for one item and for many. -/

namespace Storefront

def outputKey? (src dir : Path) : Option String :=
  (outputPath? src dir).map collisionKey

theorem outputKey?_eq_some_iff {src dir : Path} {key : String} :
    outputKey? src dir = some key ↔
      ∃ output, outputPath? src dir = some output ∧ collisionKey output = key :=
  Option.map_eq_some_iff

namespace Claims

variable {claims claims' : Claims} {src dir output first : Path}

theorem claim_eq_ok_iff : claims.claim src dir = .ok (output, claims') ↔
    outputPath? src dir = some output ∧ claims.lookup (collisionKey output) = none ∧
      claims' = (collisionKey output, src) :: claims := by
  unfold claim
  rcases ho : outputPath? src dir with - | o
  · simp
  · rcases hl : claims.lookup (collisionKey o) with - | first
    · simp only [hl, Except.ok.injEq, Prod.mk.injEq, Option.some.injEq]
      constructor
      · rintro ⟨rfl, rfl⟩
        exact ⟨rfl, hl, rfl⟩
      · rintro ⟨rfl, -, rfl⟩
        exact ⟨rfl, rfl⟩
    · simp only [hl, reduceCtorEq, Option.some.injEq, false_iff, not_and]
      rintro rfl hn
      rw [hl] at hn
      simp at hn

theorem claim_eq_collision_iff : claims.claim src dir = .error (.collision first) ↔
    ∃ output, outputPath? src dir = some output ∧
      claims.lookup (collisionKey output) = some first := by
  unfold claim
  rcases ho : outputPath? src dir with - | o
  · simp
  · rcases hl : claims.lookup (collisionKey o) with - | f <;> simp [hl]

theorem claim_eq_noFileName_iff :
    claims.claim src dir = .error .noFileName ↔ outputPath? src dir = none := by
  unfold claim
  rcases ho : outputPath? src dir with - | o
  · simp
  · rcases hl : claims.lookup (collisionKey o) with - | f <;> simp [hl]

def next (claims : Claims) (src dir : Path) : Claims :=
  match claims.claim src dir with
  | .error _ => claims
  | .ok (_, claims) => claims

theorem next_of_error {fault : ItemFault} (h : claims.claim src dir = .error fault) :
    claims.next src dir = claims := by
  rw [next, h]

theorem next_of_ok (h : claims.claim src dir = .ok (output, claims')) :
    claims.next src dir = claims' := by
  rw [next, h]

theorem lookup_of_claim {key : String} (h : claims.claim src dir = .ok (output, claims'))
    (hkey : claims.lookup key ≠ none) : claims'.lookup key ≠ none := by
  obtain ⟨-, -, rfl⟩ := claim_eq_ok_iff.1 h
  rw [List.lookup_cons]
  split
  · simp
  · exact hkey

theorem lookup_own_of_claim (h : claims.claim src dir = .ok (output, claims')) :
    claims'.lookup (collisionKey output) = some src := by
  obtain ⟨-, -, rfl⟩ := claim_eq_ok_iff.1 h
  simp

variable {files : List Path}

def after (dir : Path) : Claims → List Path → Claims
  | claims, [] => claims
  | claims, src :: files => after dir (claims.next src dir) files

theorem lookup_next (claims : Claims) (src dir : Path) (key : String) :
    (claims.next src dir).lookup key =
      (claims.lookup key).or (if outputKey? src dir = some key then some src else none) := by
  rcases hc : claims.claim src dir with fault | ⟨output, claims'⟩
  · rw [next_of_error hc]
    rcases fault with - | first
    · rw [outputKey?, claim_eq_noFileName_iff.1 hc]
      simp
    · obtain ⟨output, ho, hl⟩ := claim_eq_collision_iff.1 hc
      rw [outputKey?, ho, Option.map_some]
      split
      next hkey =>
        rw [← Option.some.inj hkey, hl]
        rfl
      next => simp
  · obtain ⟨ho, hl, rfl⟩ := claim_eq_ok_iff.1 hc
    rw [next_of_ok hc, outputKey?, ho, Option.map_some, List.lookup_cons]
    by_cases hkey : key = collisionKey output
    · rw [hkey, hl]
      simp
    · simp [beq_false_of_ne hkey, Ne.symm hkey]

theorem lookup_after (dir : Path) (claims : Claims) (files : List Path) (key : String) :
    (after dir claims files).lookup key =
      (claims.lookup key).or (files.find? fun src => outputKey? src dir = some key) := by
  induction files generalizing claims with
  | nil => simp [after]
  | cons src files ih =>
    -- The first item comes before the others in both: with its claim, and in the search.
    rw [after, ih, lookup_next, Option.or_assoc, List.find?_cons]
    congr 1
    by_cases hkey : outputKey? src dir = some key
    · simp [hkey]
    · simp [hkey]

def granted (dir : Path) : Claims → List Path → List Path
  | _, [] => []
  | claims, src :: files =>
    match claims.claim src dir with
    | .error _ => granted dir claims files
    | .ok (output, claims) => output :: granted dir claims files

theorem granted_cons (dir : Path) (claims : Claims) (src : Path) (files : List Path) :
    granted dir claims (src :: files) =
      granted dir claims [src] ++ granted dir (claims.next src dir) files := by
  simp only [granted, next]
  rcases claims.claim src dir with fault | ⟨output, claims'⟩ <;> rfl

theorem lookup_of_mem_granted {output : Path} (h : output ∈ granted dir claims files) :
    claims.lookup (collisionKey output) = none := by
  induction files generalizing claims with
  | nil => simp [granted] at h
  | cons src files ih =>
    rw [granted] at h
    rcases hc : claims.claim src dir with fault | ⟨own, claims'⟩
    · simp only [hc] at h
      exact ih h
    · simp only [hc] at h
      rcases List.mem_cons.1 h with rfl | h
      · exact (claim_eq_ok_iff.1 hc).2.1
      · rcases hl : claims.lookup (collisionKey output) with - | first
        · rfl
        · exact absurd (ih h) (lookup_of_claim hc (by simp [hl]))

theorem nodup_granted (dir : Path) (claims : Claims) (files : List Path) :
    ((granted dir claims files).map collisionKey).Nodup := by
  induction files generalizing claims with
  | nil => simp [granted]
  | cons src files ih =>
    rw [granted]
    rcases hc : claims.claim src dir with fault | ⟨output, claims'⟩
    · exact ih claims
    · simp only [List.map_cons, List.nodup_cons]
      refine ⟨fun hm => ?_, ih claims'⟩
      -- A later output with this key would have found it free.
      obtain ⟨other, ho, hkey⟩ := List.mem_map.1 hm
      have hfree := lookup_of_mem_granted ho
      rw [hkey, lookup_own_of_claim hc] at hfree
      simp at hfree

end Claims
end Storefront
