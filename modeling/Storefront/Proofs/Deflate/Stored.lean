import Storefront.Deflate.Inflater
import Storefront.Deflate.Store
import Storefront.Proofs.Deflate.Held

/-! Reading streams of stored blocks in pieces. However the stream is cut and whatever room there is,
nothing is lost: what was read and what is still to come make up the content. -/

namespace Storefront.Deflate

theorem number_littleEndian (n : UInt16) (rest : List UInt8) :
    number (littleEndian n ++ rest) = n.toNat + 65536 * number rest := by
  have hn := n.toNat_lt
  simp only [littleEndian, List.cons_append, List.nil_append, number, UInt16.toNat_toUInt8,
    UInt16.toNat_shiftRight]
  have h8 : (8 : UInt16).toNat % 16 = 8 := rfl
  rw [h8, Nat.shiftRight_eq_div_pow]
  omega

/-- What is left of a stream of stored blocks, and its content, by what is read next. -/
inductive Codes : Phase → Bool → List UInt8 → List UInt8 → Prop
  | header {isLast : Bool} {ps : List (List UInt8)} {sum : List UInt8} :
    ps ≠ [] → (∀ p ∈ ps, p.length ≤ maxStored) → sum.length = 4 →
    Codes .header isLast (0x78 :: 0x01 :: ((storedBlocks ps).flatten ++ sum)) ps.flatten
  | block {isLast : Bool} {ps : List (List UInt8)} {sum : List UInt8} :
    ps ≠ [] → (∀ p ∈ ps, p.length ≤ maxStored) → sum.length = 4 →
    Codes .block isLast ((storedBlocks ps).flatten ++ sum) ps.flatten
  | inside {left : Nat} {p : List UInt8} {ps : List (List UInt8)} {sum : List UInt8} :
    p.length = left → ps ≠ [] → (∀ p ∈ ps, p.length ≤ maxStored) → sum.length = 4 →
    Codes (.stored left) false (p ++ ((storedBlocks ps).flatten ++ sum)) (p ++ ps.flatten)
  | last {left : Nat} {p sum : List UInt8} :
    p.length = left → sum.length = 4 → Codes (.stored left) true (p ++ sum) p
  | trailer {isLast : Bool} {sum : List UInt8} : sum.length = 4 → Codes .trailer isLast sum []
  | done {isLast : Bool} {input : List UInt8} : Codes .done isLast input []

namespace Codes

variable {isLast : Bool} {input data : List UInt8} {left : Nat}

theorem header_cases (h : Codes .header isLast input data) :
    ∃ tail, input = [0x78, 0x01] ++ tail ∧ Codes .block isLast tail data := by
  cases h with
  | header hps hlong hsum => exact ⟨_, rfl, .block hps hlong hsum⟩

def blockFront (last : Bool) (n : UInt16) : List UInt8 :=
  (if last then 1 else 0) :: (littleEndian n ++ littleEndian (65535 - n))

theorem length_blockFront (last : Bool) (n : UInt16) : (blockFront last n).length = 5 := rfl

theorem block_of_block (h : Codes .block isLast input data) (last : Bool) :
    Codes .block last input data := by
  cases h with
  | block hps hlong hsum => exact .block hps hlong hsum

theorem block_cases (h : Codes .block isLast input data) :
    ∃ (last : Bool) (n : UInt16) (tail : List UInt8), input = blockFront last n ++ tail ∧
      Codes (.stored n.toNat) last tail data := by
  cases h with
  | @block _ ps sum hps hlong hsum =>
    obtain ⟨p, ps, rfl⟩ := List.exists_cons_of_ne_nil hps
    have hp : p.length.toUInt16.toNat = p.length := by
      have hle : p.length ≤ 65535 := hlong p List.mem_cons_self
      rw [Nat.toUInt16_eq, UInt16.toNat_ofNat']
      omega
    cases ps with
    | nil =>
      refine ⟨true, p.length.toUInt16, p ++ sum, by simp [storedBlocks, storedBlock, blockFront], ?_⟩
      simpa using Codes.last hp.symm hsum
    | cons q ps =>
      refine ⟨false, p.length.toUInt16, p ++ ((storedBlocks (q :: ps)).flatten ++ sum), ?_, ?_⟩
      · simp [storedBlocks, storedBlock, blockFront]
      · exact .inside hp.symm (by simp) (fun r hr => hlong r (List.mem_cons_of_mem p hr)) hsum

theorem stored_cases (h : Codes (.stored left) isLast input data) :
    ∃ p tail rest, input = p ++ tail ∧ data = p ++ rest ∧ p.length = left ∧
      Codes (Inflater.afterBlock isLast) isLast tail rest := by
  cases h with
  | @inside _ p ps sum hp hps hlong hsum => exact ⟨p, _, _, rfl, rfl, hp, .block hps hlong hsum⟩
  | last hp hsum => exact ⟨data, _, [], rfl, (List.append_nil data).symm, hp, .trailer hsum⟩

theorem stored_drop (h : Codes (.stored left) isLast input data) {k : Nat} (hk : k ≤ left) :
    Codes (.stored (left - k)) isLast (input.drop k) (data.drop k) := by
  cases h with
  | @inside _ p ps sum hp hps hlong hsum =>
    rw [List.drop_append_of_le_length (by omega), List.drop_append_of_le_length (by omega)]
    exact .inside (by rw [List.length_drop, hp]) hps hlong hsum
  | last hp hsum =>
    rw [List.drop_append_of_le_length (by omega)]
    exact .last (by rw [List.length_drop, hp]) hsum

theorem trailer_cases (h : Codes .trailer isLast input data) : input.length = 4 ∧ data = [] := by
  cases h with
  | trailer hsum => exact ⟨hsum, rfl⟩

theorem done_cases (h : Codes .done isLast input data) : data = [] := by
  cases h
  rfl

end Codes

theorem cut_ne_nil {α : Type} (n : Nat) (l : List α) : cut n l ≠ [] := by
  unfold cut
  split <;> exact List.cons_ne_nil _ _

theorem flatten_flatMap_cut {α : Type} (n : Nat) (pieces : List (List α)) :
    (pieces.flatMap (cut n)).flatten = pieces.flatten := by
  induction pieces with
  | nil => rfl
  | cons p pieces ih =>
    rw [List.flatMap_cons, List.flatten_append, flatten_cut, ih, List.flatten_cons]

theorem length_of_mem_flatMap_cut (pieces : List (List UInt8)) :
    ∀ p ∈ pieces.flatMap (cut maxStored), p.length ≤ maxStored := by
  intro p hp
  obtain ⟨l, -, hp⟩ := List.mem_flatMap.1 hp
  exact length_le_of_mem_cut (by decide) hp

theorem codes_store {isLast : Bool} {pieces : List (List UInt8)} (hpieces : pieces ≠ []) :
    Codes .header isLast (store pieces).flatten pieces.flatten := by
  have hparts : pieces.flatMap (cut maxStored) ≠ [] := by
    obtain ⟨p, pieces, rfl⟩ := List.exists_cons_of_ne_nil hpieces
    rw [List.flatMap_cons]
    exact List.append_ne_nil_of_left_ne_nil (cut_ne_nil _ _) _
  have hshort := length_of_mem_flatMap_cut pieces
  have hcodes : Codes .header isLast _ _ :=
    .header hparts hshort (show (bigEndian (adler pieces)).length = 4 from rfl)
  rw [flatten_flatMap_cut] at hcodes
  simpa [store] using hcodes

theorem length_of_mem_storedBlocks {ps : List (List UInt8)} (hps : ∀ p ∈ ps, p.length ≤ maxStored)
    {block : List UInt8} (h : block ∈ storedBlocks ps) : block.length ≤ maxStored + 5 := by
  have hblock (last : Bool) (p : List UInt8) : (storedBlock last p).length = p.length + 5 := by
    simp [storedBlock, littleEndian]
  -- The last block is marked as such, so the list is taken apart by its first two parts.
  induction ps with
  | nil =>
    rw [List.mem_singleton.1 h, hblock]
    exact Nat.le_add_left _ _
  | cons p ps ih =>
    have hp := hps p List.mem_cons_self
    cases ps with
    | nil =>
      rw [List.mem_singleton.1 h, hblock]
      omega
    | cons q ps =>
      rcases List.mem_cons.1 h with rfl | h
      · rw [hblock]
        omega
      · exact ih (fun r hr => hps r (List.mem_cons_of_mem p hr)) h

theorem length_of_mem_store {pieces : List (List UInt8)} {part : List UInt8}
    (h : part ∈ store pieces) : part.length ≤ maxStored + 5 := by
  have hshort := length_of_mem_flatMap_cut pieces
  rw [store, List.mem_append, List.mem_cons, List.mem_singleton] at h
  rcases h with (rfl | h) | rfl
  · exact Nat.le_add_left _ _
  · exact length_of_mem_storedBlocks hshort h
  · exact Nat.le_add_left _ _

theorem append_cases {input future front tail : List UInt8} (h : input ++ future = front ++ tail) :
    input.length < front.length ∧ future ≠ [] ∨
      ∃ more, input = front ++ more ∧ more ++ future = tail := by
  rcases Nat.lt_or_ge input.length front.length with hn | hn
  · refine .inl ⟨hn, ?_⟩
    rintro rfl
    rw [List.append_nil] at h
    rw [h, List.length_append] at hn
    omega
  · obtain ⟨more, rfl⟩ : front <+: input := List.prefix_of_prefix_length_le ⟨tail, rfl⟩ ⟨future, h⟩ hn
    rw [List.append_assoc] at h
    exact .inr ⟨more, rfl, List.append_cancel_left h⟩

def Phase.weight : Phase → Nat
  | .stored _ => 1
  | _ => 0

theorem Phase.weight_le_one (phase : Phase) : phase.weight ≤ 1 := by
  unfold weight
  split <;> omega

namespace Inflater

variable {s s' s'' : Inflater} {future input data data' data'' : List UInt8} {limit : Nat}

def Expects (s : Inflater) (future data : List UInt8) : Prop :=
  ∃ input, s.intake.Unread input ∧ Codes s.phase s.isLast (input ++ future) data

/-- Reading has led from `s` to `s'`: what was read is there, within the limit. -/
structure Onward (future : List UInt8) (limit : Nat) (s : Inflater) (data : List UInt8)
    (s' : Inflater) (data' : List UInt8) : Prop where
  expects : s'.Expects future data'
  content : s'.out.toList ++ data' = s.out.toList ++ data
  within : s'.out.size ≤ limit
  grown : s.out.size ≤ s'.out.size
  cost : 8 * s'.out.size + s'.intake.size ≤ 8 * s.out.size + s.intake.size

/-- Why reading goes no further: the end, no more room, or no more input in this piece. -/
def Halts (limit : Nat) (future : List UInt8) (s : Inflater) : Prop :=
  s.isDone ∨ s.out.size = limit ∨ s.intake.rest = [] ∧ future ≠ []

def weight (s : Inflater) : Nat :=
  s.intake.size + s.phase.weight

theorem Onward.trans (h : Onward future limit s data s' data')
    (h' : Onward future limit s' data' s'' data'') : Onward future limit s data s'' data'' where
  expects := h'.expects
  content := h'.content.trans h.content
  within := h'.within
  grown := Nat.le_trans h.grown h'.grown
  cost := Nat.le_trans h'.cost h.cost

def Steps (future : List UInt8) (limit : Nat) (s : Inflater) (data : List UInt8) : Prop :=
  ∃ s' data', Onward future limit s data s' data' ∧
    (s.step limit = .ok (.moved s') ∧ s'.weight < s.weight ∨
      s.step limit = .ok (.paused s') ∧ s'.Halts limit future)

variable {isLast : Bool} {b : Intake} {out : Array UInt8} {given : Nat}

theorem steps_of_short {phase phase' : Phase} {isLast' : Bool} (hb : b.Unread input) {n : Nat}
    (hn : input.length < n) (h7 : n ≤ 7) (hlimit : out.size ≤ limit)
    (hcodes : Codes phase isLast' (input ++ future) data) (hfuture : future ≠ [])
    (hstep : step limit ⟨phase', isLast, b, out, given⟩ =
      .ok (.paused ⟨phase, isLast', b.fill, out, given⟩)) :
    Steps future limit ⟨phase', isLast, b, out, given⟩ data := by
  obtain ⟨-, hrest, hfill⟩ := hb.fill_of_lt hn h7
  refine ⟨⟨phase, isLast', b.fill, out, given⟩, data, ?_, .inr ⟨hstep, .inr (.inr ⟨hrest, hfuture⟩)⟩⟩
  exact
    { expects := ⟨input, hfill, hcodes⟩
      content := rfl
      within := hlimit
      grown := Nat.le_refl _
      cost := by simp [Intake.size_fill] }

theorem steps_of_front {front tail : List UInt8} {phase phase' : Phase} {isLast' : Bool}
    (hb : b.Unread (front ++ tail)) (h7 : front.length ≤ 7) (hlimit : out.size ≤ limit)
    (hcodes : Codes phase isLast' (tail ++ future) data)
    (hstep : step limit ⟨phase', isLast, b, out, given⟩ =
      .ok (.moved ⟨phase, isLast', b.fill.drop (8 * front.length), out, given⟩))
    (h2 : 2 ≤ front.length) : Steps future limit ⟨phase', isLast, b, out, given⟩ data := by
  obtain ⟨more, -, htail⟩ := hb.fill_of_append h7
  have hsize := hb.size
  have hsize' := htail.size
  rw [List.length_append] at hsize
  refine ⟨⟨phase, isLast', b.fill.drop (8 * front.length), out, given⟩, data, ?_, .inl ⟨hstep, ?_⟩⟩
  · exact
      { expects := ⟨tail, htail, hcodes⟩
        content := rfl
        within := hlimit
        grown := Nat.le_refl _
        cost := by
          show 8 * out.size + (b.fill.drop (8 * front.length)).size ≤ 8 * out.size + b.size
          omega }
  · have hone := phase.weight_le_one
    show (b.fill.drop (8 * front.length)).size + phase.weight < b.size + phase'.weight
    omega

theorem steps_header (hb : b.Unread input) (hlimit : out.size ≤ limit)
    (hcodes : Codes .header isLast (input ++ future) data) :
    Steps future limit ⟨.header, isLast, b, out, given⟩ data := by
  have hstep : step limit ⟨.header, isLast, b, out, given⟩ =
    readHeader ⟨.header, isLast, b.fill, out, given⟩ b.fill := rfl
  obtain ⟨tail, hinput, hblock⟩ := hcodes.header_cases
  rcases append_cases hinput with ⟨hn, hfuture⟩ | ⟨more, rfl, rfl⟩
  · obtain ⟨hcount, -, -⟩ := hb.fill_of_lt hn (by decide)
    apply steps_of_short hb hn (by decide) hlimit hcodes hfuture
    rw [hstep, readHeader, if_pos (by rw [hcount]; simp at hn; omega)]
    rfl
  · obtain ⟨held, hheld, -⟩ := hb.fill_of_append (by decide)
    apply steps_of_front hb (by decide) hlimit hblock ?_ (by decide)
    have hcount := hheld.count
    rw [List.length_append] at hcount
    have hmethod : b.fill.peek 0 8 = 0x78 := by
      rw [Intake.peek_eq hheld]
      simp only [List.cons_append, List.nil_append, number]
      have h1 : (0x78 : UInt8).toNat = 0x78 := rfl
      omega
    have hflags : b.fill.peek 8 8 = 0x01 := by
      rw [Intake.peek_eq hheld]
      simp only [List.cons_append, List.nil_append, number]
      have h1 : (0x78 : UInt8).toNat = 0x78 := rfl
      have h2 : (0x01 : UInt8).toNat = 0x01 := rfl
      omega
    rw [hstep, readHeader, if_neg (by simp at hcount; omega), hmethod, hflags, if_pos (by decide)]
    rfl

theorem peek_block {last : Bool} {held : List UInt8} {b : Intake}
    (hb : b.Holds ((if last then 1 else 0) :: held)) :
    (b.peek 0 1 == 1) = last ∧ b.peek 1 2 = 0 := by
  rw [Intake.peek_eq hb, Intake.peek_eq hb]
  cases last with
  | false =>
    have h0 : (0 : UInt8).toNat = 0 := rfl
    simp only [Bool.false_eq_true, if_false, number, h0]
    constructor
    · rw [beq_eq_false_iff_ne]
      omega
    · omega
  | true =>
    have h1 : (1 : UInt8).toNat = 1 := rfl
    simp only [if_true, number, h1]
    constructor
    · rw [beq_iff_eq]
      omega
    · omega

theorem peek_blockFront {last : Bool} {n : UInt16} {more : List UInt8} {b : Intake}
    (hb : b.Holds (Codes.blockFront last n ++ more)) :
    b.peek 8 16 = n.toNat ∧ b.peek 24 16 = 65535 - n.toNat := by
  have hn := n.toNat_lt
  have hsub : (65535 - n).toNat = 65535 - n.toNat := by
    rw [UInt16.toNat_sub]
    have : (65535 : UInt16).toNat = 65535 := rfl
    omega
  have hnumber : number (Codes.blockFront last n ++ more) = (if last then (1 : UInt8) else 0).toNat +
      256 * (n.toNat + 65536 * (65535 - n.toNat + 65536 * number more)) := by
    rw [Codes.blockFront, List.cons_append, number, List.append_assoc, number_littleEndian,
      number_littleEndian, hsub]
  have hflag := (if last then (1 : UInt8) else 0).toNat_lt
  have h24 : 2 ^ 24 = 16777216 := rfl
  rw [Intake.peek_eq hb, Intake.peek_eq hb, hnumber, h24]
  generalize (if last then (1 : UInt8) else 0).toNat = flag at hflag
  -- Three bits of the first byte are read as flags, the others are skipped.
  have hcheck : (flag + 256 * (n.toNat + 65536 * (65535 - n.toNat + 65536 * number more))) /
      16777216 = 65535 - n.toNat + 65536 * number more := by omega
  rw [hcheck]
  omega

theorem steps_block (hb : b.Unread input) (hlimit : out.size ≤ limit)
    (hcodes : Codes .block isLast (input ++ future) data) :
    Steps future limit ⟨.block, isLast, b, out, given⟩ data := by
  have hstep : step limit ⟨.block, isLast, b, out, given⟩ =
    readBlock ⟨.block, isLast, b.fill, out, given⟩ b.fill := rfl
  obtain ⟨last, n, tail, hinput, hstored⟩ := hcodes.block_cases
  have hfront := Codes.length_blockFront last n
  rcases append_cases hinput with ⟨hn, hfuture⟩ | ⟨more, rfl, rfl⟩
  · rw [hfront] at hn
    obtain ⟨hcount, -, held, hheld, hrest⟩ := hb.fill_of_lt hn (by decide)
    by_cases hten : input.length < 2
    · apply steps_of_short hb hten (by decide) hlimit hcodes hfuture
      rw [hstep, readBlock, if_pos (by omega)]
      rfl
    · -- Enough to see the kind of the block, not enough for its length.
      have hlength : held.length = input.length := by
        have := hheld.count
        omega
      obtain ⟨c, held, rfl⟩ : ∃ c held', held = c :: held' := by
        cases held with
        | nil => simp at hlength; omega
        | cons c held => exact ⟨c, held, rfl⟩
      obtain rfl : c = if last then 1 else 0 := by
        rw [hrest, List.append_assoc, List.cons_append, Codes.blockFront, List.cons_append] at hinput
        exact (List.cons.inj hinput).1
      obtain ⟨hlast, hkind⟩ := peek_block hheld
      apply steps_of_short hb hn (by decide) hlimit (hcodes.block_of_block last) hfuture
      rw [hstep, readBlock, if_neg (by omega), hkind]
      simp only [readStoredStart, Intake.slack, hlast]
      rw [if_pos (by omega)]
      rfl
  · obtain ⟨held, hheld, -⟩ := hb.fill_of_append (by omega)
    apply steps_of_front hb (by omega) hlimit hstored ?_ (by omega)
    have hcount := hheld.count
    rw [List.length_append, hfront] at hcount
    obtain ⟨hlast, hkind⟩ := peek_block hheld
    obtain ⟨hlength, hcheck⟩ := peek_blockFront hheld
    have hskip : 3 + b.fill.slack 3 = 8 := by
      rw [Intake.slack]
      omega
    have hn := n.toNat_lt
    rw [hstep, readBlock, if_neg (by omega), hkind]
    simp only [readStoredStart, hskip, hlast, hlength, hcheck]
    rw [if_neg (by omega), if_pos (by omega)]
    rfl

theorem moveBytes_eq (n : Nat) (out : Array UInt8) (hb : b.Unread input) :
    ∃ b', moveBytes n out b = (n - input.length, out ++ (input.take n).toArray, b') ∧
      b'.Unread (input.drop n) := by
  induction n generalizing out b input with
  | zero => exact ⟨b, by simp [moveBytes], hb⟩
  | succ n ih =>
    cases input with
    | nil =>
      refine ⟨b, ?_, hb⟩
      rw [moveBytes, Intake.next?_of_nil hb]
      simp
    | cons c input =>
      obtain ⟨b₁, hnext, hb₁⟩ := Intake.next?_of_cons hb
      obtain ⟨b', hmove, hb'⟩ := ih (out.push c) hb₁
      refine ⟨b', ?_, hb'⟩
      rw [moveBytes, hnext]
      simp only [hmove]
      refine Prod.ext (by simp) (Prod.ext ?_ rfl)
      apply Array.toList_inj.1
      simp

theorem take_of_append_eq {p tail : List UInt8} {n : Nat} (h : input ++ future = p ++ tail)
    (hn : n ≤ p.length) : input.take n = p.take (min n input.length) := by
  have htake := congrArg (List.take (min n input.length)) h
  rw [List.take_append_of_le_length (Nat.min_le_right _ _),
    List.take_append_of_le_length (Nat.le_trans (Nat.min_le_left _ _) hn)] at htake
  rw [← htake, ← List.take_eq_take_min]

theorem drop_of_append_eq {p tail : List UInt8} (n : Nat) (h : input ++ future = p ++ tail) :
    input.drop n ++ future = (p ++ tail).drop (min n input.length) := by
  rw [← h, List.drop_append_of_le_length (Nat.min_le_right _ _), ← List.drop_eq_drop_min]

theorem size_append_take (out : Array UInt8) (input : List UInt8) (n : Nat) :
    (out ++ (input.take n).toArray).size = out.size + min n input.length := by
  simp

section

variable {p tail rest : List UInt8} {b' : Intake} {n : Nat}

theorem onward_stored {phase : Phase} (hb : b.Unread input) (hb' : b'.Unread (input.drop n))
    (hinput : input ++ future = p ++ tail) (hn : n ≤ p.length) (hroom : out.size + n ≤ limit)
    (hcodes : Codes phase isLast (input.drop n ++ future) ((p ++ rest).drop (min n input.length))) :
    Onward future limit ⟨.stored p.length, isLast, b, out, given⟩ (p ++ rest)
      ⟨phase, isLast, b', out ++ (input.take n).toArray, given⟩
      ((p ++ rest).drop (min n input.length)) := by
  have hsize := size_append_take out input n
  exact
    { expects := ⟨_, hb', hcodes⟩
      content := by
        have hle : min n input.length ≤ p.length := Nat.le_trans (Nat.min_le_left _ _) hn
        rw [take_of_append_eq hinput hn, List.drop_append_of_le_length hle, Array.toList_append,
          List.append_assoc, ← List.append_assoc (List.take _ p), List.take_append_drop]
      within := by
        show (out ++ (input.take n).toArray).size ≤ limit
        omega
      grown := by
        show out.size ≤ (out ++ (input.take n).toArray).size
        omega
      cost := by
        have hcost := hb.size
        have hcost' := hb'.size
        rw [List.length_drop] at hcost'
        show 8 * (out ++ (input.take n).toArray).size + b'.size ≤ 8 * out.size + b.size
        omega }

theorem halts_stored {phase : Phase} (hb' : b'.Unread (input.drop n))
    (hinput : input ++ future = p ++ tail) (hroom : n = min p.length (limit - out.size))
    (hlimit : out.size ≤ limit) (hinside : min n input.length < p.length) :
    Halts limit future ⟨phase, isLast, b', out ++ (input.take n).toArray, given⟩ := by
  have hsize := size_append_take out input n
  by_cases hfull : min n input.length = limit - out.size
  · refine .inr (.inl ?_)
    show (out ++ (input.take n).toArray).size = limit
    omega
  · refine .inr (.inr ⟨?_, ?_⟩)
    · rw [List.drop_eq_nil_of_le (by omega)] at hb'
      exact hb'.rest_of_nil
    · rintro rfl
      have hlength := congrArg List.length hinput
      rw [List.append_nil, List.length_append] at hlength
      omega

end

theorem step_stored {left short : Nat} {out' : Array UInt8} {b' : Intake}
    (hmove : moveBytes (min left (limit - out.size)) out b = (short, out', b')) :
    step limit ⟨.stored left, isLast, b, out, given⟩ =
      if left - (min left (limit - out.size) - short) = 0 then
        .ok (.moved ⟨afterBlock isLast, isLast, b', out', given⟩)
      else .ok (.paused ⟨.stored (left - (min left (limit - out.size) - short)), isLast, b', out',
        given⟩) := by
  unfold step
  simp only [hmove]
  generalize left - (min left (limit - out.size) - short) = k
  cases k with
  | zero => rfl
  | succ k => rfl

theorem weight_afterBlock (isLast : Bool) : (afterBlock isLast).weight = 0 := by
  cases isLast <;> rfl

theorem steps_stored {left : Nat} (hb : b.Unread input) (hlimit : out.size ≤ limit)
    (hcodes : Codes (.stored left) isLast (input ++ future) data) :
    Steps future limit ⟨.stored left, isLast, b, out, given⟩ data := by
  obtain ⟨p, tail, rest, hinput, rfl, rfl, hafter⟩ := hcodes.stored_cases
  obtain ⟨n, hn⟩ : ∃ n, n = min p.length (limit - out.size) := ⟨_, rfl⟩
  obtain ⟨b', hmove, hb'⟩ := moveBytes_eq n out hb
  have hleft : p.length - (n - (n - input.length)) = p.length - min n input.length := by omega
  have hstep : step limit ⟨.stored p.length, isLast, b, out, given⟩ = _ :=
    step_stored (hn ▸ hmove)
  rw [← hn, hleft] at hstep
  have hdrop := drop_of_append_eq n hinput
  rcases Nat.eq_zero_or_pos (p.length - min n input.length) with hk | hk
  · rw [if_pos hk] at hstep
    have hall : min n input.length = p.length := by omega
    have hnext : Codes (afterBlock isLast) isLast (input.drop n ++ future)
        ((p ++ rest).drop (min n input.length)) := by
      rw [hdrop, hall, List.drop_left, List.drop_left]
      exact hafter
    refine ⟨_, _, onward_stored hb hb' hinput (by omega) (by omega) hnext, .inl ⟨hstep, ?_⟩⟩
    have hcost := hb.size
    have hcost' := hb'.size
    rw [List.length_drop] at hcost'
    show b'.size + (afterBlock isLast).weight < b.size + 1
    rw [weight_afterBlock]
    omega
  · have hnext : Codes (.stored (p.length - min n input.length)) isLast (input.drop n ++ future)
        ((p ++ rest).drop (min n input.length)) := by
      rw [hdrop, ← hinput]
      exact hcodes.stored_drop (by omega)
    refine ⟨_, _, onward_stored hb hb' hinput (by omega) (by omega) hnext, .inr ⟨?_, ?_⟩⟩
    · rw [hstep, if_neg (Nat.ne_of_gt hk)]
    · exact halts_stored hb' hinput hn hlimit (by omega)

theorem steps_trailer (hb : b.Unread input) (hlimit : out.size ≤ limit)
    (hcodes : Codes .trailer isLast (input ++ future) data) :
    Steps future limit ⟨.trailer, isLast, b, out, given⟩ data := by
  have hstep : step limit ⟨.trailer, isLast, b, out, given⟩ =
    readTrailer ⟨.trailer, isLast, b.fill, out, given⟩ b.fill := rfl
  obtain ⟨hsum, rfl⟩ := hcodes.trailer_cases
  rw [List.length_append] at hsum
  rcases Nat.lt_or_ge input.length 4 with hn | hn
  · obtain ⟨hcount, -, -⟩ := hb.fill_of_lt hn (by decide)
    have hfuture : future ≠ [] := by
      rintro rfl
      rw [List.length_nil] at hsum
      omega
    apply steps_of_short hb hn (by decide) hlimit hcodes hfuture
    have hskip : b.fill.count < b.fill.slack 0 + 32 := by
      rw [Intake.slack]
      omega
    rw [hstep, readTrailer, if_pos hskip]
    rfl
  -- The four bytes of the sum are the last ones, so nothing is to come.
  · obtain rfl : future = [] := List.length_eq_zero_iff.1 (by omega)
    rw [← List.append_nil input] at hb
    obtain ⟨held, hheld, -⟩ := hb.fill_of_append (by omega)
    have hcount := hheld.count
    rw [List.length_append] at hcount
    have hdone : Codes .done isLast ([] ++ []) [] := .done
    apply steps_of_front hb (by omega) hlimit hdone ?_ (by omega)
    have hskip : b.fill.slack 0 = 0 := by
      rw [Intake.slack]
      omega
    rw [hstep, readTrailer, if_neg (by omega), hskip, show 0 + 32 = 8 * input.length by omega]
    rfl

theorem steps_done (hb : b.Unread input) (hlimit : out.size ≤ limit)
    (hcodes : Codes .done isLast (input ++ future) data) :
    Steps future limit ⟨.done, isLast, b, out, given⟩ data := by
  obtain ⟨held, hheld, hinput, -⟩ := hb.fill
  refine ⟨⟨.done, isLast, b.fill, out, given⟩, data, ?_, .inr ⟨rfl, .inl rfl⟩⟩
  exact
    { expects := ⟨input, ⟨held, hheld, hinput⟩, hcodes⟩
      content := rfl
      within := hlimit
      grown := Nat.le_refl _
      cost := by simp [Intake.size_fill] }

theorem steps_of_expects (h : s.Expects future data) (hlimit : s.out.size ≤ limit) :
    Steps future limit s data := by
  obtain ⟨phase, isLast, b, out, given⟩ := s
  obtain ⟨input, hb, hcodes⟩ := h
  cases phase with
  | header => exact steps_header hb hlimit hcodes
  | block => exact steps_block hb hlimit hcodes
  | stored left => exact steps_stored hb hlimit hcodes
  | trailer => exact steps_trailer hb hlimit hcodes
  | done => exact steps_done hb hlimit hcodes
  | smallLengths | lengths | symbols => nomatch hcodes

theorem advance_of_expects (h : s.Expects future data) (hlimit : s.out.size ≤ limit) {fuel : Nat}
    (hfuel : s.weight < fuel) :
    ∃ s' data', advance limit fuel s = .ok s' ∧ Onward future limit s data s' data' ∧
      s'.Halts limit future := by
  induction fuel generalizing s data with
  | zero => omega
  | succ fuel ih =>
    rw [advance]
    -- A step that moves on takes weight, of which there is less than fuel.
    obtain ⟨s₁, data₁, h₁, ⟨hstep, hweight⟩ | ⟨hstep, hhalts⟩⟩ := steps_of_expects h hlimit
    · rw [hstep]
      obtain ⟨s₂, data₂, hrest, h₂, hhalts⟩ := ih h₁.expects h₁.within (by omega)
      exact ⟨s₂, data₂, hrest, h₁.trans h₂, hhalts⟩
    · rw [hstep]
      exact ⟨s₁, data₁, rfl, h₁, hhalts⟩

/-- Reading up to a limit never fails, and halts for a reason. -/
theorem read_of_expects (h : s.Expects future data) (hlimit : s.out.size ≤ limit) :
    ∃ s' data', s.read limit = .ok s' ∧ Onward future limit s data s' data' ∧
      s'.given = s'.out.size ∧ s'.Halts limit future := by
  have hfuel : s.weight < s.intake.size + 2 := by
    have := s.phase.weight_le_one
    rw [weight]
    omega
  obtain ⟨s₁, data₁, hadvance, h₁, hhalts⟩ := advance_of_expects h hlimit hfuel
  refine ⟨{ s₁ with given := min limit s₁.out.size }, data₁, ?_, ?_, Nat.min_eq_right h₁.within, hhalts⟩
  · rw [read, if_neg (by omega), hadvance]
    rfl
  · exact ⟨h₁.expects, h₁.content, h₁.within, h₁.grown, h₁.cost⟩

theorem expects_start {pieces : List (List UInt8)} (hpieces : pieces ≠ []) :
    start.Expects (store pieces).flatten pieces.flatten :=
  ⟨[], Intake.unread_empty, codes_store hpieces⟩

end Inflater
end Storefront.Deflate
