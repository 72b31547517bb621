import Mathlib.Data.List.TakeWhile
import Storefront.Text.Blank

/-! What is left of a text without the blanks around it. -/

namespace Storefront

structure Trimmed (s t : List Char) : Prop where
  padded : ∃ before after, s = before ++ (t ++ after) ∧ (∀ c ∈ before, isBlank c = true) ∧
    ∀ c ∈ after, isBlank c = true
  head : ∀ c ∈ t.head?, isBlank c = false
  last : ∀ c ∈ t.getLast?, isBlank c = false

variable {s t before after : List Char}

theorem trimStart_append (h : ∀ c ∈ before, isBlank c = true) (s : List Char) :
    trimStart (before ++ s) = trimStart s :=
  List.dropWhile_append_of_pos h

theorem trimEnd_append (h : ∀ c ∈ after, isBlank c = true) (s : List Char) :
    trimEnd (s ++ after) = trimEnd s := by
  have hreverse : ∀ c ∈ after.reverse, isBlank c = true := fun c hc => h c (List.mem_reverse.1 hc)
  rw [trimEnd, List.reverse_append, List.dropWhile_append_of_pos hreverse, trimEnd]

theorem trimEnd_of_last (h : ∀ c ∈ s.getLast?, isBlank c = false) : trimEnd s = s := by
  rcases List.eq_nil_or_concat s with rfl | ⟨init, c, rfl⟩
  · rfl
  · rw [List.concat_eq_append] at h ⊢
    exact trimEnd_concat (h c (by simp)) init

theorem trimEnd_cases (s : List Char) : ∃ after, s = trimEnd s ++ after ∧
    (∀ c ∈ after, isBlank c = true) ∧ ∀ c ∈ (trimEnd s).getLast?, isBlank c = false := by
  refine ⟨(s.reverse.takeWhile isBlank).reverse, ?_, fun c hc => ?_, fun c hc => ?_⟩
  · rw [trimEnd, ← List.reverse_append, List.takeWhile_append_dropWhile, List.reverse_reverse]
  · exact List.mem_takeWhile_imp (List.mem_reverse.1 hc)
  · rw [trimEnd, List.getLast?_reverse] at hc
    have hstop := List.head?_dropWhile_not isBlank s.reverse
    rw [Option.mem_def.1 hc] at hstop
    simpa using hstop

theorem trimStart_cases (s : List Char) : ∃ before, s = before ++ trimStart s ∧
    (∀ c ∈ before, isBlank c = true) ∧ ∀ c ∈ (trimStart s).head?, isBlank c = false := by
  refine ⟨s.takeWhile isBlank, ?_, fun c hc => List.mem_takeWhile_imp hc, fun c hc => ?_⟩
  · rw [trimStart, List.takeWhile_append_dropWhile]
  · have hstop := List.head?_dropWhile_not isBlank s
    rw [trimStart] at hc
    rw [Option.mem_def.1 hc] at hstop
    simpa using hstop

theorem trimmed_trim (s : List Char) : Trimmed s (trim s) := by
  obtain ⟨before, hs, hbefore, hhead⟩ := trimStart_cases s
  obtain ⟨after, hstart, hafter, hlast⟩ := trimEnd_cases (trimStart s)
  refine ⟨⟨before, after, ?_, hbefore, hafter⟩, fun c hc => ?_, hlast⟩
  · rw [trim, ← hstart, ← hs]
  · -- What is left begins as it did before its end was cut off.
    apply hhead
    rw [trim, Option.mem_def] at hc
    rw [hstart, List.head?_append, hc]
    rfl

theorem Trimmed.eq_trim (h : Trimmed s t) : t = trim s := by
  obtain ⟨before, after, rfl, hbefore, hafter⟩ := h.padded
  rw [trim, trimStart_append hbefore]
  cases t with
  | nil =>
    have hnil : trimStart after = [] := List.dropWhile_eq_nil_iff.2 hafter
    rw [List.nil_append, hnil]
    rfl
  | cons c t =>
    have hc : isBlank c = false := h.head c rfl
    rw [List.cons_append, trimStart_cons hc, ← List.cons_append, trimEnd_append hafter,
      trimEnd_of_last h.last]

theorem trimmed_iff : Trimmed s t ↔ t = trim s :=
  ⟨Trimmed.eq_trim, fun h => h ▸ trimmed_trim s⟩

theorem trim_eq_nil_iff : trim s = [] ↔ ∀ c ∈ s, isBlank c = true := by
  constructor
  · intro h
    obtain ⟨before, after, hs, hbefore, hafter⟩ := (trimmed_trim s).padded
    rw [h, List.nil_append] at hs
    rw [hs]
    exact fun c hc => (List.mem_append.1 hc).elim (hbefore c) (hafter c)
  · intro h
    exact (Trimmed.eq_trim ⟨⟨s, [], by simp, h, by simp⟩, by simp, by simp⟩).symm

end Storefront
