import Storefront.Png.ImageData
import Storefront.Proofs.Deflate.Stored
import Storefront.Proofs.Png.Chunks

/-! Image data read from a stream of stored blocks: all of it arrives, whatever the chunks and parts
of the file it comes in, when no row has a fault. -/

namespace Storefront.Png

open Deflate

namespace Rows

/-- The rows from `place` on: `count` of them of `length` bytes are the rest of the data. -/
structure Ahead (p : Preface) (content : List UInt8) (length count place : Nat) : Prop where
  total : place + count * length = content.length
  clean : ∀ i < count, fault? p (content.getD (place + i * length) 0) = none

variable {p : Preface} {content future piece data : List UInt8} {length count place available : Nat}
  {out : Array UInt8} {r : Rows}

theorem Ahead.next (h : Ahead p content length (count + 1) place) :
    Ahead p content length count (place + length) where
  total := by
    have := h.total
    rw [Nat.succ_mul] at this
    omega
  clean i hi := by
    have hnext := h.clean (i + 1) (by omega)
    rwa [Nat.succ_mul, Nat.add_comm (i * length), ← Nat.add_assoc] at hnext

theorem Ahead.place_add_le (h : Ahead p content length (count + 1) place) :
    place + length ≤ content.length := by
  have := h.total
  rw [Nat.succ_mul] at this
  omega

theorem getD_of_append {data : List UInt8} (hout : out.toList ++ data = content) {i : Nat}
    (hi : i < out.size) : out.getD i 0 = content.getD i 0 := by
  rw [← hout, Array.getD_eq_getD_getElem?, List.getD_eq_getElem?_getD, List.getElem?_append_left
    (by simpa using hi), Array.getElem?_toList]

theorem checkGroup_of_ahead (hlength : 0 < length) (hout : out.toList ++ data = content)
    (h : Ahead p content length count place) (hcount : 0 < count) (havailable : available ≤ out.size) :
    ∃ count' place', checkGroup p out available length count place = .ok (count', place') ∧
      (count' = 0 ∧ content.length ≤ available ∨
        available < content.length ∧ 0 < count' ∧ Ahead p content length count' place') := by
  induction count generalizing place with
  | zero => omega
  | succ count ih =>
    have hplace := h.place_add_le
    rw [checkGroup]
    by_cases hshort : available < place + length
    · rw [if_pos hshort]
      exact ⟨count + 1, place, rfl, .inr ⟨by omega, hcount, h⟩⟩
    · have hclean := h.clean 0 hcount
      rw [Nat.zero_mul, Nat.add_zero, ← getD_of_append hout (by omega)] at hclean
      rw [if_neg hshort, hclean]
      cases count with
      | zero =>
        have htotal := h.next.total
        rw [Nat.zero_mul, Nat.add_zero] at htotal
        exact ⟨0, place + length, rfl, .inl ⟨rfl, by omega⟩⟩
      | succ n => exact ih h.next (Nat.succ_pos n)

def Open (p : Preface) (content : List UInt8) (length : Nat) (r : Rows) : Prop :=
  ∃ count, r.ahead = [(count, length)] ∧ 0 < count ∧ Ahead p content length count r.place

theorem Open.isComplete (h : Open p content length r) : r.isComplete = false := by
  obtain ⟨count, hahead, -⟩ := h
  rw [Rows.isComplete, hahead]
  rfl

theorem isComplete_of_ahead (h : r.ahead = []) : r.isComplete = true := by
  rw [Rows.isComplete, h]
  rfl

theorem check_of_open (hlength : 0 < length) (hout : r.stream.out.toList ++ data = content)
    (h : Open p content length r) (havailable : available ≤ r.stream.out.size) :
    ∃ r', r.check p available = .ok r' ∧ r'.stream = r.stream ∧
      (r'.ahead = [] ∧ content.length ≤ available ∨
        available < content.length ∧ Open p content length r') := by
  obtain ⟨count, hahead, hcount, h⟩ := h
  obtain ⟨count', place', hcheck, hend⟩ := checkGroup_of_ahead hlength hout h hcount havailable
  rw [check, hahead, checkGroups, hcheck]
  cases count' with
  | zero =>
    rcases hend with ⟨-, hend⟩ | ⟨-, hzero, -⟩
    · exact ⟨{ r with ahead := [], place := place' }, rfl, rfl, .inl ⟨rfl, hend⟩⟩
    · omega
  | succ n =>
    rcases hend with ⟨hzero, -⟩ | ⟨hend, hpos, h'⟩
    · omega
    · exact ⟨{ r with ahead := [(n + 1, length)], place := place' }, rfl, rfl,
        .inr ⟨hend, n + 1, rfl, hpos, h'⟩⟩

/-- The image data are read, or the rest of them comes from the stream. -/
inductive Reads (p : Preface) (content : List UInt8) (length : Nat) (future : List UInt8)
    (r : Rows) : Prop
  | complete : r.ahead = [] → r.stream.out.toList = content → Reads p content length future r
  | inside {data : List UInt8} : Open p content length r → r.stream.Expects future data →
    r.stream.out.toList ++ data = content → r.stream.out.size < content.length →
    r.stream.given = r.stream.out.size → Reads p content length future r

def Ready (p : Preface) (content : List UInt8) (length : Nat) (future : List UInt8)
    (r : Rows) : Prop :=
  Reads p content length future r ∧ (r.isComplete ∨ r.stream.intake.rest = [])

theorem isDone_of_expects {s : Inflater} (h : s.Expects future data)
    (hout : s.out.toList ++ data = content) (hsize : s.out.size < content.length) :
    s.isDone = false := by
  obtain ⟨phase, isLast, b, out, given⟩ := s
  obtain ⟨input, -, hcodes⟩ := h
  cases phase with
  | done =>
    obtain rfl := hcodes.done_cases
    rw [← hout, List.append_nil, Array.length_toList] at hsize
    exact absurd hsize (Nat.lt_irrefl _)
  | header | block | smallLengths | lengths | symbols | stored | trailer => rfl

theorem toList_eq_of_size {data : List UInt8} (hout : out.toList ++ data = content)
    (hsize : content.length ≤ out.size) : out.toList = content := by
  have hlength := congrArg List.length hout
  rw [List.length_append, Array.length_toList] at hlength
  obtain rfl : data = [] := List.length_eq_zero_iff.1 (by omega)
  rwa [List.append_nil] at hout

/-- What was just read is looked at as far as it is settled: all of it, or not to the end. -/
theorem check_settled (hlength : 0 < length) (hroom : p.header.dataRoom = content.length)
    (h : Open p content length r) (hexpects : r.stream.Expects future data)
    (hout : r.stream.out.toList ++ data = content) (hgiven : r.stream.given = r.stream.out.size) :
    ∃ r', r.check p (r.settled p.header) = .ok r' ∧ r'.stream = r.stream ∧
      Reads p content length future r' ∧ (r.stream.out.size < content.length ∨ r'.isComplete) := by
  have hsettled : r.settled p.header ≤ r.stream.out.size := by
    unfold settled
    split <;> omega
  obtain ⟨r', hcheck, hstream, hend⟩ := check_of_open hlength hout h hsettled
  refine ⟨r', hcheck, hstream, ?_⟩
  rcases hend with ⟨hahead, hend⟩ | ⟨hend, hopen⟩
  · have hall := toList_eq_of_size hout (Nat.le_trans hend hsettled)
    exact ⟨.complete hahead (by rw [hstream, hall]), .inr (isComplete_of_ahead hahead)⟩
  · have hsize : r.stream.out.size < content.length := by
      unfold settled at hend
      split at hend
      · omega
      · next hmore =>
        simp only [Bool.or_eq_true, decide_eq_true_eq, not_or] at hmore
        omega
    rw [← hstream] at hexpects hout hsize hgiven
    refine ⟨.inside hopen hexpects hout hsize hgiven, .inl ?_⟩
    rwa [hstream] at hsize

theorem drain_of_complete (h : r.isComplete) (fuel : Nat) : r.drain p fuel = .ok r := by
  cases fuel with
  | zero => rfl
  | succ fuel => rw [drain, if_pos (by rw [h]; rfl)]

theorem lt_limit (hroom : p.header.dataRoom = content.length)
    (hsize : r.stream.out.size < content.length) (hgiven : r.stream.given = r.stream.out.size) :
    r.stream.out.size < r.limit p.header := by
  rw [limit, hroom, hgiven, portion]
  omega

theorem drain_of_reads (hlength : 0 < length) (hroom : p.header.dataRoom = content.length)
    (h : Reads p content length future r) {fuel : Nat} (hfuel : r.stream.intake.size < fuel) :
    ∃ r', r.drain p fuel = .ok r' ∧ Ready p content length future r' := by
  induction fuel generalizing r with
  | zero => omega
  | succ fuel ih =>
    cases h with
    | complete hahead hout =>
      have hcomplete := isComplete_of_ahead hahead
      exact ⟨r, drain_of_complete hcomplete _, .complete hahead hout, .inl hcomplete⟩
    | @inside data hopen hexpects hout hsize hgiven =>
      have hlimit := lt_limit hroom hsize hgiven
      obtain ⟨s, data', hread, honward, hgiven', hhalts⟩ :=
        Inflater.read_of_expects hexpects (Nat.le_of_lt hlimit)
      have hout' := honward.content.trans hout
      obtain ⟨r', hcheck, rfl, hreads, hend⟩ :=
        check_settled (r := { r with stream := s }) hlength hroom hopen honward.expects hout' hgiven'
      have hdrain : r.drain p (fuel + 1) =
          if r'.stream.isDrained then .ok r' else drain p fuel r' := by
        rw [drain, hopen.isComplete, isDone_of_expects hexpects hout hsize]
        simp only [Bool.or_self, Bool.false_eq_true, if_false, hread]
        rw [show check p _ _ = _ from hcheck]
      rw [hdrain]
      by_cases hdrained : r'.stream.isDrained
      · rw [if_pos hdrained]
        exact ⟨r', rfl, hreads, .inr (List.isEmpty_iff.1 hdrained)⟩
      · rw [if_neg hdrained]
        rcases hend with hless | hcomplete
        · -- The room for this call was used up, and so some of the input.
          have hfull : r'.stream.out.size = r.limit p.header := by
            rcases hhalts with hdone | hfull | ⟨hrest, -⟩
            · rw [isDone_of_expects honward.expects hout' hless] at hdone
              contradiction
            · exact hfull
            · exact absurd (List.isEmpty_iff.2 hrest) hdrained
          have hcost := honward.cost
          exact ih hreads (by omega)
        · exact ⟨r', drain_of_complete hcomplete _, hreads, .inl hcomplete⟩

theorem expects_push {s : Inflater} (h : s.Expects (piece ++ future) data)
    (hrest : s.intake.rest = []) : (s.push piece).Expects future data := by
  obtain ⟨input, hinput, hcodes⟩ := h
  exact ⟨input ++ piece, hinput.push hrest piece, by rwa [List.append_assoc]⟩

theorem push_of_ready (hlength : 0 < length) (hroom : p.header.dataRoom = content.length)
    (h : Ready p content length (piece ++ future) r) :
    ∃ r', r.push p piece = .ok r' ∧ Ready p content length future r' := by
  have hreads : Reads p content length future { r with stream := r.stream.push piece } := by
    obtain ⟨hreads, hdrained⟩ := h
    cases hreads with
    | complete hahead hout => exact .complete hahead hout
    | inside hopen hexpects hout hsize hgiven =>
      rw [hopen.isComplete] at hdrained
      have hrest := hdrained.resolve_left (by decide)
      exact .inside hopen (expects_push hexpects hrest) hout hsize hgiven
  exact drain_of_reads hlength hroom hreads (by omega)

theorem foldlM_push (hlength : 0 < length) (hroom : p.header.dataRoom = content.length)
    {pieces : List (List UInt8)} (h : Ready p content length (pieces.flatten ++ future) r) :
    ∃ r', pieces.foldlM (push p) r = .ok r' ∧ Ready p content length future r' := by
  induction pieces generalizing r with
  | nil => exact ⟨r, rfl, h⟩
  | cons piece pieces ih =>
    rw [List.flatten_cons, List.append_assoc] at h
    obtain ⟨r₁, hpush, h₁⟩ := push_of_ready hlength hroom h
    obtain ⟨r₂, hrest, h₂⟩ := ih h₁
    refine ⟨r₂, ?_, h₂⟩
    rw [List.foldlM_cons, hpush]
    exact hrest

theorem readEnd_of_expects (hroom : p.header.dataRoom = content.length)
    (hexpects : r.stream.Expects [] data) (hout : r.stream.out.toList ++ data = content)
    (hsize : r.stream.out.size < content.length) (hgiven : r.stream.given = r.stream.out.size)
    (hrest : r.stream.intake.rest = []) :
    ∃ s, r.stream.readEnd (r.limit p.header) = .ok s ∧ s.out.toList = content ∧
      s.given = s.out.size := by
  have hlimit := lt_limit hroom hsize hgiven
  obtain ⟨s, data', hread, honward, hgiven', hhalts⟩ :=
    Inflater.read_of_expects hexpects (Nat.le_of_lt hlimit)
  have hhalts : s.isDone ∨ s.out.size = r.limit p.header := by
    rcases hhalts with hdone | hfull | ⟨-, hfuture⟩
    · exact .inl hdone
    · exact .inr hfull
    · contradiction
  have hout' := honward.content.trans hout
  refine ⟨s, ?_, toList_eq_of_size hout' ?_, hgiven'⟩
  · have hend : s.isDone || s.given = r.limit p.header := by
      rwa [hgiven', Bool.or_eq_true, decide_eq_true_eq]
    rw [Inflater.readEnd, hread]
    show (if s.isDone || s.given = r.limit p.header then Except.ok s else _) = _
    rw [if_pos hend]
  · rcases Nat.lt_or_ge s.out.size content.length with hless | hall
    · -- Not done, so there would be more than the few bytes that are loaded.
      rw [isDone_of_expects honward.expects hout' hless] at hhalts
      have hfull := hhalts.resolve_left (by decide)
      obtain ⟨input, ⟨held, hheld, -⟩, -⟩ := hexpects
      have hcost := honward.cost
      have hcount := hheld.count
      have hshort := hheld.short
      simp only [Intake.size, hrest, List.length_nil] at hcost
      rw [limit, hroom, hgiven, portion] at hfull
      omega
    · exact hall

theorem finish_of_ready (hlength : 0 < length) (hroom : p.header.dataRoom = content.length)
    (h : Ready p content length [] r) : ∃ out, r.finish p = .ok out ∧ out.toList = content := by
  obtain ⟨hreads, hdrained⟩ := h
  cases hreads with
  | complete hahead hout =>
    refine ⟨r.stream.out, ?_, hout⟩
    rw [finish, isComplete_of_ahead hahead]
    simp only [Bool.true_or, if_true]
    show (if r.isComplete then Except.ok r.stream.out else _) = _
    rw [if_pos (isComplete_of_ahead hahead)]
  | @inside data hopen hexpects hout hsize hgiven =>
    rw [hopen.isComplete] at hdrained
    have hrest := hdrained.resolve_left (by decide)
    obtain ⟨s, hread, hall, hgiven'⟩ := readEnd_of_expects hroom hexpects hout hsize hgiven hrest
    have hsize' : s.out.size = content.length := by rw [← hall, Array.length_toList]
    have hout' : s.out.toList ++ [] = content := by rwa [List.append_nil]
    obtain ⟨r', hcheck, hstream, hrows⟩ :=
      check_of_open (r := { r with stream := s }) hlength hout' hopen (Nat.le_refl _)
    have hahead : r'.ahead = [] := by
      rcases hrows with ⟨hahead, -⟩ | ⟨hless, -⟩
      · exact hahead
      · exact absurd hsize' (Nat.ne_of_lt hless)
    have hcheckAll : checkAll p { r with stream := s } = .ok r' := by
      rw [checkAll, hgiven']
      exact hcheck
    refine ⟨s.out, ?_, hall⟩
    rw [finish, hopen.isComplete, isDone_of_expects hexpects hout hsize, hread]
    simp only [Bool.or_self, Bool.false_eq_true, if_false, hcheckAll]
    show (if r'.isComplete then Except.ok r'.stream.out else _) = _
    rw [if_pos (isComplete_of_ahead hahead), hstream]

theorem ready_start {pieces : List (List UInt8)} (hpieces : pieces ≠ [])
    (hgroups : p.header.rowGroups = [(count, length)]) (hcount : 0 < count) (hlength : 0 < length)
    (h : Ahead p pieces.flatten length count 0) :
    Ready p pieces.flatten length (store pieces).flatten (.start p.header) := by
  have hpos := Nat.mul_pos hcount hlength
  have htotal := h.total
  refine ⟨.inside ⟨count, hgroups, hcount, h⟩ (Inflater.expects_start hpieces) rfl ?_ rfl, .inr rfl⟩
  show 0 < _
  omega

end Rows

namespace ImageData

variable {p : Preface} {content future part : List UInt8} {length : Nat} {r : Rows}

theorem readContent_of_ready (hlength : 0 < length) (hroom : p.header.dataRoom = content.length)
    (h : Rows.Ready p content length (part ++ future) r) (offset : Nat) (bytes : List UInt8) :
    ∃ r', readContent p offset part.length (Chunk.body Chunk.imageData part ++ bytes) r = .ok r' ∧
      Rows.Ready p content length future r' := by
  rw [← flatten_pieces offset part] at h
  obtain ⟨r', hfold, h'⟩ := Rows.foldlM_push hlength hroom h
  refine ⟨r', ?_, h'⟩
  have hempty : (Chunk.body Chunk.imageData part ++ bytes).isEmpty = false := by
    rw [List.isEmpty_eq_false_iff]
    exact List.append_ne_nil_of_left_ne_nil (Chunk.body_ne_nil _ part) bytes
  rw [readContent, hempty, Chunk.body, List.append_assoc, List.take_left]
  exact hfold

theorem readChunks_body (hlength : 0 < length) (hroom : p.header.dataRoom = content.length)
    (h : Rows.Ready p content length (part ++ future) r) (offset fuel : Nat) (bytes : List UInt8) :
    ∃ r', Rows.Ready p content length future r' ∧
      readChunks p (fuel + 1) offset part.length (Chunk.body Chunk.imageData part ++ bytes) r =
        match readStart bytes with
        | .error _ => .error (r'.breakOff p)
        | .ok (next, kind, bytes) =>
          if kind = Chunk.imageData then readChunks p fuel (offset + part.length + 12) next bytes r'
          else r'.finish p := by
  obtain ⟨r', hcontent, h'⟩ := readContent_of_ready hlength hroom h offset bytes
  refine ⟨r', h', ?_⟩
  rw [readChunks, hcontent]
  simp only [Png.readContent_body]
  rfl

theorem readChunks_of_ready (hlength : 0 < length) (hroom : p.header.dataRoom = content.length)
    {parts : List (List UInt8)} (hparts : ∀ q ∈ parts, q.length < 2 ^ 32)
    (h : Rows.Ready p content length (part ++ parts.flatten) r) (offset : Nat) {fuel : Nat}
    (hfuel : parts.length < fuel) :
    ∃ out, readChunks p fuel offset part.length (Chunk.body Chunk.imageData part ++
      ((parts.map (Chunk.write Chunk.imageData)).flatten ++ Chunk.write Chunk.last [])) r = .ok out ∧
      out.toList = content := by
  induction parts generalizing part offset r fuel with
  | nil =>
    obtain ⟨fuel, rfl⟩ := Nat.exists_eq_succ_of_ne_zero (Nat.ne_of_gt hfuel)
    obtain ⟨r', h', hchunk⟩ := readChunks_body hlength hroom h offset fuel _
    obtain ⟨out, hfinish, hout⟩ := Rows.finish_of_ready hlength hroom h'
    refine ⟨out, ?_, hout⟩
    rw [hchunk, List.map_nil, List.flatten_nil, List.nil_append, ← List.append_nil (Chunk.write _ _),
      readStart_write rfl (by decide)]
    exact hfinish
  | cons q parts ih =>
    obtain ⟨fuel, rfl⟩ := Nat.exists_eq_succ_of_ne_zero (Nat.ne_of_gt (Nat.zero_lt_of_lt hfuel))
    obtain ⟨r', h', hchunk⟩ := readChunks_body hlength hroom h offset fuel _
    have hq := hparts q List.mem_cons_self
    obtain ⟨out, hrest, hout⟩ := ih
      (fun q' hq' => hparts q' (List.mem_cons_of_mem q hq')) h' (offset + part.length + 12) (Nat.lt_of_succ_lt_succ hfuel)
    refine ⟨out, ?_, hout⟩
    rw [hchunk, List.map_cons, List.flatten_cons, List.append_assoc, readStart_write rfl hq]
    exact hrest

/-- All data come back from the chunks that they were written to. -/
theorem read_store {pieces : List (List UInt8)} (hpieces : pieces ≠ []) {count : Nat}
    (hgroups : p.header.rowGroups = [(count, length)]) (hcount : 0 < count) (hlength : 0 < length)
    (hroom : p.header.dataRoom = pieces.flatten.length)
    (h : Rows.Ahead p pieces.flatten length count 0) {parts : List (List UInt8)}
    (hstore : store pieces = part :: parts) (offset : Nat) {fuel : Nat} (hfuel : parts.length < fuel) :
    read p fuel offset part.length (Chunk.body Chunk.imageData part ++
      ((parts.map (Chunk.write Chunk.imageData)).flatten ++ Chunk.write Chunk.last [])) =
      .ok pieces.flatten := by
  have hready := Rows.ready_start hpieces hgroups hcount hlength h
  rw [hstore, List.flatten_cons] at hready
  have hparts : ∀ q ∈ parts, q.length < 2 ^ 32 := by
    intro q hq
    have hshort := length_of_mem_store (hstore ▸ List.mem_cons_of_mem part hq)
    rw [maxStored] at hshort
    omega
  obtain ⟨out, hread, hout⟩ := readChunks_of_ready hlength hroom hparts hready offset hfuel
  rw [read, hread, ← hout]
  rfl

end ImageData
end Storefront.Png
