import Mathlib.Algebra.Group.Nat.Defs
import Storefront.Deflate.Intake

/-! Bits of a stream at the end of a whole byte: they are the bytes that are not yet read. -/

namespace Storefront.Deflate

def number : List UInt8 → Nat
  | [] => 0
  | c :: rest => c.toNat + 256 * number rest

theorem number_append (s rest : List UInt8) :
    number (s ++ rest) = number s + 256 ^ s.length * number rest := by
  induction s with
  | nil => simp [number]
  | cons c s ih =>
    rw [List.cons_append, number, number, ih, List.length_cons, Nat.pow_succ, Nat.mul_add,
      ← Nat.mul_assoc, Nat.mul_comm 256 (256 ^ s.length), Nat.add_assoc]

theorem number_div (s : List UInt8) (n : Nat) : number s / 2 ^ (8 * n) = number (s.drop n) := by
  induction n generalizing s with
  | zero => simp
  | succ n ih =>
    cases s with
    | nil => simp [number]
    | cons c rest =>
      have hc : (c.toNat + 256 * number rest) / 256 = number rest := by
        have := c.toNat_lt
        omega
      have hpow : 2 ^ (8 * (n + 1)) = 256 * 2 ^ (8 * n) := by
        rw [Nat.mul_add, Nat.pow_add, Nat.mul_comm]
      rw [List.drop_succ_cons, ← ih, number, hpow, ← Nat.div_div_eq_div_mul, hc]

namespace Intake

variable {b : Intake} {held input : List UInt8}

/-- The loaded bits are those of these bytes, of which there is room for no more than seven. -/
structure Holds (b : Intake) (held : List UInt8) : Prop where
  count : b.count = 8 * held.length
  bits : b.bits = number held
  short : held.length ≤ 7

def Unread (b : Intake) (input : List UInt8) : Prop :=
  ∃ held, b.Holds held ∧ input = held ++ b.rest

theorem unread_empty : empty.Unread [] :=
  ⟨[], ⟨rfl, rfl, by simp⟩, rfl⟩

theorem Unread.size (h : b.Unread input) : b.size = 8 * input.length := by
  obtain ⟨held, hb, rfl⟩ := h
  rw [Intake.size, hb.count, List.length_append]
  omega

theorem Unread.push (h : b.Unread input) (hrest : b.rest = []) (piece : List UInt8) :
    Unread { b with rest := piece } (input ++ piece) := by
  obtain ⟨held, hb, rfl⟩ := h
  refine ⟨held, ⟨hb.count, hb.bits, hb.short⟩, ?_⟩
  rw [hrest, List.append_nil]

theorem peek_eq (hb : b.Holds held) (skip n : Nat) :
    b.peek skip n = number held / 2 ^ skip % 2 ^ n := by
  rw [peek, hb.bits, Nat.shiftRight_eq_div_pow, Nat.one_shiftLeft]

theorem Holds.drop (hb : b.Holds held) {n : Nat} :
    (b.drop (8 * n)).Holds (held.drop n) where
  count := by
    rw [Intake.drop, hb.count, List.length_drop, Nat.mul_sub]
  bits := by
    rw [Intake.drop, hb.bits, Nat.shiftRight_eq_div_pow, number_div]
  short := by
    have := hb.short
    rw [List.length_drop]
    omega

theorem holds_load {bits count : Nat} (hb : Holds ⟨bits, count, []⟩ held) (bytes : List UInt8) :
    ∃ more, (load bits count bytes).Holds (held ++ more) ∧
      bytes = more ++ (load bits count bytes).rest ∧
      ((load bits count bytes).rest = [] ∨ (held ++ more).length = 7) := by
  induction bytes generalizing bits count held with
  | nil => exact ⟨[], by simpa [load] using hb, rfl, .inl rfl⟩
  | cons c rest ih =>
    unfold load
    have hcount : count = 8 * held.length := hb.count
    have hbits : bits = number held := hb.bits
    -- A byte is put above those that are held, as long as eight bits are free.
    by_cases hroom : count + 8 ≤ capacity
    · rw [if_pos hroom]
      have hone : Holds ⟨bits + c.toNat <<< count, count + 8, []⟩ (held ++ [c]) := by
        refine ⟨?_, ?_, ?_⟩
        · rw [List.length_append, hcount]
          simp
          omega
        · rw [number_append, hbits, hcount, Nat.shiftLeft_eq, Nat.pow_mul]
          simp [number, Nat.mul_comm]
        · rw [List.length_append, List.length_singleton]
          unfold capacity at hroom
          omega
      obtain ⟨more, hload, hrest, hend⟩ := ih hone
      refine ⟨c :: more, ?_, ?_, ?_⟩
      · rwa [List.append_assoc] at hload
      · rw [List.cons_append, ← hrest]
      · rwa [List.append_assoc] at hend
    · rw [if_neg hroom]
      refine ⟨[], ?_, rfl, .inr ?_⟩
      · rw [List.append_nil]
        exact ⟨hb.count, hb.bits, hb.short⟩
      have := hb.short
      unfold capacity at hroom
      rw [List.append_nil]
      omega

theorem Unread.fill (h : b.Unread input) :
    ∃ held, b.fill.Holds held ∧ input = held ++ b.fill.rest ∧
      (b.fill.rest = [] ∨ held.length = 7) := by
  obtain ⟨held, hb, rfl⟩ := h
  obtain ⟨more, hload, hrest, hend⟩ := holds_load ⟨hb.count, hb.bits, hb.short⟩ b.rest
  refine ⟨held ++ more, hload, ?_, hend⟩
  rw [List.append_assoc]
  exact congrArg (held ++ ·) hrest

theorem Unread.fill_of_lt (h : b.Unread input) {n : Nat} (hn : input.length < n) (h7 : n ≤ 7) :
    b.fill.count = 8 * input.length ∧ b.fill.rest = [] ∧ b.fill.Unread input := by
  obtain ⟨held, hb, hinput, hend⟩ := h.fill
  have hrest : b.fill.rest = [] := by
    rcases hend with hend | hend
    · exact hend
    · rw [hinput, List.length_append] at hn
      omega
  have hheld : input = held := by rw [hinput, hrest, List.append_nil]
  exact ⟨hheld ▸ hb.count, hrest, held, hb, hinput⟩

theorem Unread.fill_of_append {front tail : List UInt8} (h : b.Unread (front ++ tail))
    (h7 : front.length ≤ 7) :
    ∃ more, b.fill.Holds (front ++ more) ∧ (b.fill.drop (8 * front.length)).Unread tail := by
  obtain ⟨held, hb, hinput, hend⟩ := h.fill
  have hlength := congrArg List.length hinput
  rw [List.length_append, List.length_append] at hlength
  have hle : front.length ≤ held.length := by
    rcases hend with hend | hend
    · rw [hend, List.length_nil] at hlength
      omega
    · omega
  have hprefix : front <+: held := List.prefix_of_prefix_length_le ⟨tail, rfl⟩ ⟨_, hinput.symm⟩ hle
  obtain ⟨more, rfl⟩ := hprefix
  refine ⟨more, hb, more, ?_, ?_⟩
  · have hdrop := hb.drop (n := front.length)
    rwa [List.drop_left] at hdrop
  · rw [List.append_assoc] at hinput
    exact List.append_cancel_left hinput

theorem Unread.rest_of_nil (h : b.Unread []) : b.rest = [] := by
  obtain ⟨held, -, hinput⟩ := h
  exact (List.append_eq_nil_iff.1 hinput.symm).2

theorem next?_of_nil (h : b.Unread []) : b.next? = none := by
  obtain ⟨held, hb, hinput⟩ := h
  obtain ⟨rfl, hrest⟩ := List.append_eq_nil_iff.1 hinput.symm
  have hcount := hb.count
  rw [next?, if_neg (by rw [hcount]; simp), hrest]

theorem next?_of_cons {c : UInt8} (h : b.Unread (c :: input)) :
    ∃ b', b.next? = some (c, b') ∧ b'.Unread input := by
  obtain ⟨held, hb, hinput⟩ := h
  have hcount := hb.count
  unfold next?
  cases held with
  | nil =>
    rw [if_neg (by rw [hcount]; simp)]
    rw [List.nil_append] at hinput
    rw [← hinput]
    exact ⟨_, rfl, [], ⟨hb.count, hb.bits, hb.short⟩, rfl⟩
  | cons d held =>
    obtain ⟨rfl, rfl⟩ := List.cons.inj hinput
    rw [if_pos (by rw [hcount, List.length_cons]; omega)]
    have hbyte : (b.peek 0 8).toUInt8 = c := by
      have hmod : number (c :: held) % 2 ^ 8 = c.toNat := by
        have := c.toNat_lt
        rw [number]
        omega
      rw [peek_eq hb, Nat.pow_zero, Nat.div_one]
      exact UInt8.toNat_inj.1 (by rw [hmod]; simp)
    refine ⟨b.drop 8, by rw [hbyte], held, ?_, rfl⟩
    exact hb.drop (n := 1)

end Intake
end Storefront.Deflate
