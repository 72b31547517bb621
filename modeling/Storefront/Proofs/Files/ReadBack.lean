import Mathlib.Data.List.Forall2
import Storefront.Proofs.Files.Creation

/-! A file is read back by the path that it was written by, also through links: writing and reading
take the same way, and a file that is written lies on it at the end only. -/

namespace Storefront

def Place.location : Place → Location
  | .entry l => l
  | .vacant dir name => name :: dir

namespace FileTree

variable {t t' : FileTree} {cur d k l : Location} {piece target name : String}
variable {rest ps qs : List String} {c : ByteArray} {place : Place}

def IsOpenAt (t : FileTree) (k : Location) : Prop :=
  ∀ n, t.node? k = some n → ∃ c, n = .file c

theorem IsOpenAt.not_isDirectoryAt (h : t.IsOpenAt k) : ¬t.IsDirectoryAt k := by
  intro hdir
  obtain ⟨c, hc⟩ := h _ hdir
  contradiction

theorem IsOpenAt.node?_ne_link (h : t.IsOpenAt k) : t.node? k ≠ some (.link target) := by
  intro hn
  obtain ⟨c, hc⟩ := h _ hn
  contradiction

theorem IsOpenAt.ne_nil (h : t.IsOpenAt k) : k ≠ [] := by
  rintro rfl
  exact h.not_isDirectoryAt (node?_nil t)

theorem IsOpenAt.node?_put (h : t.IsOpenAt k) : (t.put k (.file c)).node? k = some (.file c) := by
  rw [FileTree.node?_put t h.ne_nil, if_pos rfl]

theorem IsOpenAt.node?_put_of_ne (h : t.IsOpenAt k) (hl : l ≠ k) :
    (t.put k (.file c)).node? l = t.node? l := by
  rw [FileTree.node?_put t h.ne_nil, if_neg hl]

def Grounded (t : FileTree) : Prop :=
  ∀ name dir, t.node? (name :: dir) ≠ none → t.IsDirectoryAt dir

theorem WellFormed.grounded (h : t.WellFormed) : t.Grounded := by
  intro name dir hn
  obtain ⟨n, hn⟩ := Option.ne_none_iff_exists'.1 hn
  rw [node?, if_neg (List.cons_ne_nil _ _)] at hn
  obtain ⟨before, after, he, -⟩ := List.lookup_eq_some_iff.1 hn
  obtain ⟨name', dir', hk, -, hdir⟩ := h.named (name :: dir, n) (by simp [he])
  obtain ⟨-, rfl⟩ := List.cons.inj hk
  exact hdir

theorem StepsTo.isDirectoryAt (hg : t.Grounded) (hcur : t.IsDirectoryAt cur)
    (h : t.StepsTo cur piece d) : t.IsDirectoryAt d := by
  cases h with
  | still => exact hcur
  | up =>
    cases cur with
    | nil => exact hcur
    | cons name dir => exact hg name dir (by rw [hcur]; simp)
  | down _ _ _ hn => exact hn

theorem StepsTo.put (hk : t.IsOpenAt k) (h : t.StepsTo cur piece d) :
    (t.put k (.file c)).StepsTo cur piece d := by
  cases h with
  | still hdot => exact .still hdot
  | up hdot hup => exact .up hdot hup
  | down hdot hup hlong hn =>
    refine .down hdot hup hlong ?_
    rwa [hk.node?_put_of_ne]
    rintro rfl
    exact hk.not_isDirectoryAt hn

structure Names (piece : String) : Prop where
  not_dot : ¬(piece = "." ∨ piece = "")
  ne_up : piece ≠ ".."
  short : ¬maxName < piece.utf8ByteSize

theorem walk_write_cases (t : FileTree) (cur : Location) (piece : String) (rest : List String) :
    (∃ e, t.walk .write cur (piece :: rest) = .fault e) ∨
    (∃ d, t.StepsTo cur piece d ∧
      t.walk .write cur (piece :: rest) = t.walk .write d rest) ∨
    (Names piece ∧ rest = [] ∧ t.IsOpenAt (piece :: cur) ∧
      t.walk .write cur (piece :: rest) = .place (t.placeAt cur piece)) ∨
    (∃ target, Names piece ∧ t.node? (piece :: cur) = some (.link target) ∧
      t.walk .write cur (piece :: rest) = .link cur target rest) := by
  rw [walk]
  by_cases hdot : piece = "." ∨ piece = ""
  · rw [if_pos hdot]
    exact .inr (.inl ⟨cur, .still hdot, rfl⟩)
  by_cases hup : piece = ".."
  · rw [if_neg hdot, if_pos hup]
    exact .inr (.inl ⟨cur.tail, .up hdot hup, rfl⟩)
  rw [if_neg hdot, if_neg hup]
  by_cases hslash : Purpose.write = .write ∧ rest = [""]
  · rw [if_pos hslash]
    exact .inl ⟨_, rfl⟩
  by_cases hlong : maxName < piece.utf8ByteSize
  · rw [if_neg hslash, if_pos hlong]
    exact .inl ⟨_, rfl⟩
  rw [if_neg hslash, if_neg hlong]
  have hnames : Names piece := ⟨hdot, hup, hlong⟩
  rcases hn : t.node? (piece :: cur) with - | - | content | target
  · by_cases hrest : rest = []
    · refine .inr (.inr (.inl ⟨hnames, hrest, by simp [IsOpenAt, hn], ?_⟩))
      rw [placeAt, if_pos hn]
      exact if_pos hrest
    · exact .inl ⟨.notFound, if_neg hrest⟩
  · exact .inr (.inl ⟨piece :: cur, .down hdot hup hlong hn, rfl⟩)
  · by_cases hrest : rest = []
    · have hplace : t.placeAt cur piece = .entry (piece :: cur) := if_neg (by simp [hn])
      refine .inr (.inr (.inl ⟨hnames, hrest, by simp [IsOpenAt, hn], ?_⟩))
      rw [hplace]
      exact if_pos hrest
    · exact .inl ⟨.notDirectory, if_neg hrest⟩
  · exact .inr (.inr (.inr ⟨target, hnames, rfl, if_neg (by simp)⟩))

theorem location_placeAt (t : FileTree) (dir : Location) (name : String) :
    (t.placeAt dir name).location = name :: dir := by
  unfold placeAt
  split <;> rfl

theorem walk_follow_file (hnames : Names piece) (hn : t.node? (piece :: cur) = some (.file c)) :
    t.walk .follow cur [piece] = .place (.entry (piece :: cur)) := by
  rw [walk, if_neg hnames.not_dot, if_neg hnames.ne_up, if_neg (by simp), if_neg hnames.short, hn]
  rfl

theorem walk_follow_link (hnames : Names piece) (hn : t.node? (piece :: cur) = some (.link target)) :
    t.walk .follow cur (piece :: rest) = .link cur target rest := by
  rw [walk, if_neg hnames.not_dot, if_neg hnames.ne_up, if_neg (by simp), if_neg hnames.short, hn]
  exact if_neg (by simp)

/-- Steps for reading in the place of steps for writing: the slash after a link's target is a dot. -/
abbrev Accords (ps qs : List String) : Prop :=
  List.Forall₂ (fun a b => a = b ∨ a = "" ∧ b = ".") ps qs

theorem Accords.refl (ps : List String) : Accords ps ps :=
  List.forall₂_same.2 fun _ _ => .inl rfl

theorem accords_targetSteps (target : String) :
    Accords (targetSteps .write target) (targetSteps .follow target) := by
  refine List.rel_append (Accords.refl _) ?_
  split
  · exact .cons (.inr ⟨rfl, rfl⟩) .nil
  · exact .nil

/-- After a file was put at the end of the way of writing, reading takes the same way. -/
theorem walk_follow_put (hg : t.Grounded) (hk : t.IsOpenAt k) (hcur : t.IsDirectoryAt cur)
    (h : Accords ps qs) :
    (∀ place, t.walk .write cur ps = .place place → place.location = k →
      (t.put k (.file c)).walk .follow cur qs = .place (.entry k)) ∧
    (∀ d target rest, t.walk .write cur ps = .link d target rest → t.IsDirectoryAt d ∧
      ∃ rest', Accords rest rest' ∧
        (t.put k (.file c)).walk .follow cur qs = .link d target rest') := by
  induction h generalizing cur with
  | nil =>
    refine ⟨?_, by simp [walk]⟩
    rintro place hplace rfl
    obtain rfl := Reach.place.inj hplace
    exact absurd hcur hk.not_isDirectoryAt
  | @cons piece other rest rest' hpiece hrest ih =>
    obtain ⟨e, hwalk⟩ | ⟨d, hstep, hwalk⟩ | ⟨hnames, rfl, hopen, hwalk⟩ |
      ⟨target, hnames, hn, hwalk⟩ := t.walk_write_cases cur piece rest
    · rw [hwalk]
      exact ⟨by simp, by simp⟩
    · have hother : (t.put k (.file c)).StepsTo cur other d := by
        rcases hpiece with rfl | ⟨rfl, rfl⟩
        · exact hstep.put hk
        · cases hstep with
          | still => exact .still (.inl rfl)
          | up hdot | down hdot => exact absurd (.inr rfl) hdot
      rw [hwalk, hother.walk (by simp)]
      exact ih (hstep.isDirectoryAt hg hcur)
    · obtain rfl : piece = other := hpiece.resolve_right fun h => hnames.not_dot (.inr h.1)
      obtain rfl := List.forall₂_nil_left_iff.1 hrest
      refine ⟨?_, by rw [hwalk]; simp⟩
      rintro place hplace rfl
      obtain rfl := Reach.place.inj (hwalk.symm.trans hplace)
      rw [location_placeAt] at hk ⊢
      exact walk_follow_file hnames hk.node?_put
    · obtain rfl : piece = other := hpiece.resolve_right fun h => hnames.not_dot (.inr h.1)
      refine ⟨by rw [hwalk]; simp, ?_⟩
      intro d' target' rest'' hlink
      obtain ⟨rfl, rfl, rfl⟩ := Reach.link.inj (hwalk.symm.trans hlink)
      refine ⟨hcur, rest', hrest, walk_follow_link hnames ?_⟩
      rwa [hk.node?_put_of_ne]
      rintro rfl
      exact hk.node?_ne_link hn

theorem isDirectoryAt_start (hcur : t.IsDirectoryAt cur) (text : String) :
    t.IsDirectoryAt (start cur text) := by
  unfold start
  split
  · exact node?_nil t
  · exact hcur

theorem walk_write_slash (hg : t.Grounded) (hcur : t.IsDirectoryAt cur) (ps : List String) :
    (∀ place, t.walk .write cur (ps ++ [""]) = .place place → t.IsDirectoryAt place.location) ∧
    (∀ d target rest, t.walk .write cur (ps ++ [""]) = .link d target rest → t.IsDirectoryAt d ∧
      ∃ rest', rest = rest' ++ [""]) := by
  induction ps generalizing cur with
  | nil =>
    have hwalk : t.walk .write cur [""] = .place (.entry cur) := by simp [walk]
    refine ⟨?_, by simp [hwalk]⟩
    intro place hplace
    obtain rfl := Reach.place.inj (hwalk.symm.trans hplace)
    exact hcur
  | cons piece ps ih =>
    rw [List.cons_append]
    obtain ⟨e, hwalk⟩ | ⟨d, hstep, hwalk⟩ | ⟨-, hrest, -⟩ | ⟨target, -, -, hwalk⟩ :=
      t.walk_write_cases cur piece (ps ++ [""])
    · rw [hwalk]
      exact ⟨by simp, by simp⟩
    · rw [hwalk]
      exact ih (hstep.isDirectoryAt hg hcur)
    · simp at hrest
    · refine ⟨by rw [hwalk]; simp, ?_⟩
      intro d' target' rest' hlink
      obtain ⟨rfl, rfl, rfl⟩ := Reach.link.inj (hwalk.symm.trans hlink)
      exact ⟨hcur, ps, rfl⟩

theorem endsInSlash_of_locate (hg : t.Grounded) (hdir : t.IsDirectoryAt t.workDir) {p : Path}
    (h : t.locate .write p = .ok place) (hplace : ¬t.IsDirectoryAt place.location) :
    endsInSlash p.text = false := by
  by_contra hslash
  rw [Bool.not_eq_false] at hslash
  rw [(admissible_of_locate h).locate, pathSteps, if_pos ⟨rfl, hslash⟩] at h
  obtain ⟨cur, _, ⟨hcur, ps, rfl⟩, hwalk⟩ := exists_walk_of_resolve
    (P := fun cur ps => t.IsDirectoryAt cur ∧ ∃ qs, ps = qs ++ [""])
    (by
      rintro cur _ d target rest ⟨hcur, ps, rfl⟩ hwalk
      obtain ⟨hd, rest', rfl⟩ := (walk_write_slash hg hcur ps).2 d target rest hwalk
      exact ⟨isDirectoryAt_start hd target, targetSteps .write target ++ rest', by simp⟩)
    ⟨isDirectoryAt_start hdir p.text, steps p.text, rfl⟩ h
  exact hplace ((walk_write_slash hg hcur ps).1 place hwalk)

theorem resolve_follow_put (hg : t.Grounded) (hk : t.IsOpenAt k) {links : Nat}
    (hcur : t.IsDirectoryAt cur) (h : Accords ps qs)
    (hplace : t.resolve .write links cur ps = .ok place) (hlocation : place.location = k) :
    (t.put k (.file c)).resolve .follow links cur qs = .ok (.entry k) := by
  induction links generalizing cur ps qs with
  | zero =>
    obtain hwalk | ⟨fewer, d, target, rest, hlinks, -⟩ := resolve_cases hplace
    · exact resolve_of_place _ ((walk_follow_put hg hk hcur h).1 place hwalk hlocation)
    · contradiction
  | succ links ih =>
    obtain hwalk | ⟨fewer, d, target, rest, hlinks, htarget, hwalk, hrest⟩ := resolve_cases hplace
    · exact resolve_of_place _ ((walk_follow_put hg hk hcur h).1 place hwalk hlocation)
    · obtain rfl := Nat.succ.inj hlinks
      obtain ⟨hd, rest', haccords, hwalk'⟩ := (walk_follow_put hg hk hcur h).2 d target rest hwalk
      rw [resolve_of_link _ htarget hwalk']
      exact ih (isDirectoryAt_start hd target)
        (List.rel_append (accords_targetSteps target) haccords) hrest

theorem write_cases {p : Path} (h : t.write p c = .ok t') :
    ∃ place, t.locate .write p = .ok place ∧ t.IsOpenAt place.location ∧
      t' = t.put place.location (.file c) := by
  unfold write at h
  rcases hloc : t.locate .write p with e | place
  · simp [hloc, bind, Except.bind] at h
  · refine ⟨place, rfl, ?_⟩
    cases place with
    | vacant d name =>
      have hn := node?_of_locate_vacant hloc
      refine ⟨by simp [IsOpenAt, Place.location, hn], ?_⟩
      simpa [hloc, bind, Except.bind, Place.location] using h.symm
    | entry l =>
      rcases hn : t.node? l with - | - | content | target
      · simp [hloc, bind, Except.bind, hn] at h
      · simp [hloc, bind, Except.bind, hn] at h
      · refine ⟨by simp [IsOpenAt, Place.location, hn], ?_⟩
        simpa [hloc, bind, Except.bind, hn, Place.location] using h.symm
      · simp [hloc, bind, Except.bind, hn] at h

/-- What is written by a path is read by it, whatever links it leads through. -/
theorem read_of_write (hwf : t.WellFormed) (hdir : t.IsDirectoryAt t.workDir) {p : Path}
    (h : t.write p c = .ok t') : t'.read p = .ok c := by
  obtain ⟨place, hloc, hopen, rfl⟩ := write_cases h
  have hg := hwf.grounded
  have hadmissible := admissible_of_locate hloc
  have hslash := endsInSlash_of_locate hg hdir hloc hopen.not_isDirectoryAt
  have hsteps (purpose : Purpose) : pathSteps purpose p.text = steps p.text := by
    simp [pathSteps, hslash]
  rw [hadmissible.locate, hsteps] at hloc
  have hfollow : (t.put place.location (.file c)).locate .follow p = .ok (.entry place.location) := by
    rw [hadmissible.locate, hsteps]
    exact resolve_follow_put hg hopen (isDirectoryAt_start hdir p.text) (Accords.refl _) hloc rfl
  have hn : (t.put place.location (.file c)).node? place.location = some (.file c) :=
    hopen.node?_put
  simp only [read, lookup, hfollow, hn, hslash, bind, Except.bind, Bool.false_eq_true, if_false]

end FileTree
end Storefront
