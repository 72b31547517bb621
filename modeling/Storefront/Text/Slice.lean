/-! Parts of a text between places that count its bytes. -/

namespace Storefront.Slice

def size : List Char → Nat
  | [] => 0
  | c :: s => c.utf8Size + size s

theorem size_append (s rest : List Char) : size (s ++ rest) = size s + size rest := by
  induction s with
  | nil => simp [size]
  | cons c s ih => simp only [List.cons_append, size, ih, Nat.add_assoc]

/-- The text without its first `n` bytes, `none` when these end inside of a character or past the
end. -/
def drop? : Nat → List Char → Option (List Char)
  | 0, s => some s
  | _ + 1, [] => none
  | n + 1, c :: s => if c.utf8Size ≤ n + 1 then drop? (n + 1 - c.utf8Size) s else none

def take? : Nat → List Char → Option (List Char)
  | 0, _ => some []
  | _ + 1, [] => none
  | n + 1, c :: s =>
    if c.utf8Size ≤ n + 1 then (take? (n + 1 - c.utf8Size) s).map (c :: ·) else none

def between? (a b : Nat) (s : List Char) : Option (List Char) :=
  (drop? a s).bind (take? (b - a))

theorem drop?_add {c : Char} {s : List Char} (n : Nat) : drop? (c.utf8Size + n) (c :: s) = drop? n s := by
  have hc := c.utf8Size_pos
  rw [show c.utf8Size + n = c.utf8Size + n - 1 + 1 by omega, drop?, if_pos (by omega)]
  congr 1
  omega

theorem take?_add {c : Char} {s : List Char} (n : Nat) :
    take? (c.utf8Size + n) (c :: s) = (take? n s).map (c :: ·) := by
  have hc := c.utf8Size_pos
  rw [show c.utf8Size + n = c.utf8Size + n - 1 + 1 by omega, take?, if_pos (by omega)]
  congr 2
  omega

theorem drop?_size_append (s rest : List Char) : drop? (size s) (s ++ rest) = some rest := by
  induction s with
  | nil => simp [size, drop?]
  | cons c s ih => rw [List.cons_append, size, drop?_add, ih]

theorem take?_size_append (s rest : List Char) : take? (size s) (s ++ rest) = some s := by
  induction s with
  | nil => simp [size, take?]
  | cons c s ih => rw [List.cons_append, size, take?_add, ih, Option.map_some]

theorem between?_append (before part rest : List Char) :
    between? (size before) (size (before ++ part)) (before ++ (part ++ rest)) = some part := by
  rw [between?, drop?_size_append, size_append, Nat.add_sub_cancel_left]
  exact take?_size_append part rest

theorem size_of_ascii {s : List Char} (h : ∀ c ∈ s, c.toNat < 0x80) : size s = s.length := by
  induction s with
  | nil => rfl
  | cons c s ih =>
    obtain ⟨hc, hs⟩ := List.forall_mem_cons.1 h
    have hone : c.utf8Size = 1 := Char.utf8Size_eq_one_iff.2 (Nat.le_of_lt_succ hc)
    rw [size, hone, ih hs, List.length_cons, Nat.add_comm]

/-- No place in an ASCII text is inside of a character. -/
theorem between?_of_ascii {s : List Char} (h : ∀ c ∈ s, c.toNat < 0x80) {a b : Nat} (hab : a ≤ b)
    (hb : b ≤ s.length) : between? a b s = some ((s.drop a).take (b - a)) := by
  have hsize {part : List Char} (hpart : part.Sublist s) : size part = part.length :=
    size_of_ascii fun c hc => h c (hpart.mem hc)
  have hfront : s.take a ++ (s.drop a).take (b - a) = s.take b := by
    rw [← List.take_add, Nat.add_sub_cancel' hab]
  have hplaces := between?_append (s.take a) ((s.drop a).take (b - a)) (s.drop b)
  rwa [hfront, hsize (List.take_sublist a s), hsize (List.take_sublist b s), List.length_take,
    List.length_take, Nat.min_eq_left (Nat.le_trans hab hb), Nat.min_eq_left hb, ← List.append_assoc,
    hfront, List.take_append_drop] at hplaces

end Storefront.Slice
