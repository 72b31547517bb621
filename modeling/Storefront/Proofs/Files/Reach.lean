import Storefront.Proofs.Path.Join

/-! Walks in trees without links. The way to a name in a directory is the way to the directory,
which leads through directories alone, and one more step. -/

namespace Storefront.FileTree

variable {t t' : FileTree}

theorem LinkFree.node?_ne (h : t.LinkFree) (l : Location) (target : String) :
    t.node? l ≠ some (.link target) := by
  intro hn
  unfold node? at hn
  split at hn
  · simp at hn
  · obtain ⟨before, after, he, -⟩ := List.lookup_eq_some_iff.1 hn
    exact h (l, .link target) (by simp [he]) target rfl

/-- Where steps lead through directories alone. A link counts as the end of the way. -/
def enter (t : FileTree) (cur : Location) : List String → Except FileError Location
  | [] => .ok cur
  | piece :: rest =>
    if piece = "." ∨ piece = "" then t.enter cur rest
    else if piece = ".." then t.enter cur.tail rest
    else if maxName < piece.utf8ByteSize then .error .nameTooLong
    else match t.node? (piece :: cur) with
      | none => .error .notFound
      | some .directory => t.enter (piece :: cur) rest
      | some (.file _) => .error .notDirectory
      | some (.link _) => .error .tooManyLinks

def folder (t : FileTree) (dir : Path) : Except FileError Location :=
  t.enter (start t.workDir dir.text) (steps dir.text)

def placeAt (t : FileTree) (dir : Location) (name : String) : Place :=
  if t.node? (name :: dir) = none then .vacant dir name else .entry (name :: dir)

theorem location_of_placeAt {dir l : Location} {name : String}
    (h : t.placeAt dir name = .entry l) : name :: dir = l := by
  unfold placeAt at h
  split at h
  · contradiction
  · exact Place.entry.inj h

theorem node?_of_placeAt {dir l : Location} {piece name : String}
    (h : t.placeAt dir piece = .vacant l name) : t.node? (name :: l) = none := by
  unfold placeAt at h
  split at h
  next hn =>
    obtain ⟨rfl, rfl⟩ := Place.vacant.inj h
    exact hn
  · contradiction

inductive StepsTo (t : FileTree) (cur : Location) (piece : String) : Location → Prop
  | still : piece = "." ∨ piece = "" → StepsTo t cur piece cur
  | up : ¬(piece = "." ∨ piece = "") → piece = ".." → StepsTo t cur piece cur.tail
  | down : ¬(piece = "." ∨ piece = "") → piece ≠ ".." → ¬maxName < piece.utf8ByteSize →
    t.node? (piece :: cur) = some .directory → StepsTo t cur piece (piece :: cur)

section

variable {cur d l : Location} {piece : String} {rest : List String} {purpose : Purpose} {p : Place}

theorem StepsTo.enter (h : t.StepsTo cur piece d) :
    t.enter cur (piece :: rest) = t.enter d rest := by
  rw [FileTree.enter]
  cases h with
  | still hdot => rw [if_pos hdot]
  | up hdot hup => rw [if_neg hdot, if_pos hup]
  | down hdot hup hlong hn => rw [if_neg hdot, if_neg hup, if_neg hlong, hn]

theorem StepsTo.walk (h : t.StepsTo cur piece d) (hpurpose : purpose ≠ .write) :
    t.walk purpose cur (piece :: rest) = t.walk purpose d rest := by
  rw [FileTree.walk]
  cases h with
  | still hdot => rw [if_pos hdot]
  | up hdot hup => rw [if_neg hdot, if_pos hup]
  | down hdot hup hlong hn =>
    have hslash : ¬(purpose = .write ∧ rest = [""]) := fun h => hpurpose h.1
    rw [if_neg hdot, if_neg hup, if_neg hslash, if_neg hlong, hn]

theorem enter_cases (h : t.enter cur (piece :: rest) = .ok l) :
    ∃ d, t.StepsTo cur piece d ∧ t.enter d rest = .ok l := by
  rw [enter] at h
  by_cases hdot : piece = "." ∨ piece = ""
  · rw [if_pos hdot] at h
    exact ⟨cur, .still hdot, h⟩
  by_cases hup : piece = ".."
  · rw [if_neg hdot, if_pos hup] at h
    exact ⟨cur.tail, .up hdot hup, h⟩
  by_cases hlong : maxName < piece.utf8ByteSize
  · rw [if_neg hdot, if_neg hup, if_pos hlong] at h
    contradiction
  rw [if_neg hdot, if_neg hup, if_neg hlong] at h
  rcases hn : t.node? (piece :: cur) with - | - | content | target
  · rw [hn] at h
    contradiction
  · rw [hn] at h
    exact ⟨piece :: cur, .down hdot hup hlong hn, h⟩
  · rw [hn] at h
    contradiction
  · rw [hn] at h
    contradiction

theorem walk_cases (h : t.walk purpose cur (piece :: rest) = .place p) :
    (∃ d, t.StepsTo cur piece d ∧ t.walk purpose d rest = .place p) ∨
      (¬(piece = "." ∨ piece = "") ∧ piece ≠ ".." ∧ t.node? (piece :: cur) ≠ some .directory ∧
        p = t.placeAt cur piece) := by
  rw [walk] at h
  by_cases hdot : piece = "." ∨ piece = ""
  · rw [if_pos hdot] at h
    exact .inl ⟨cur, .still hdot, h⟩
  by_cases hup : piece = ".."
  · rw [if_neg hdot, if_pos hup] at h
    exact .inl ⟨cur.tail, .up hdot hup, h⟩
  -- From here on the piece is a name below the directory.
  by_cases hslash : purpose = .write ∧ rest = [""]
  · rw [if_neg hdot, if_neg hup, if_pos hslash] at h
    contradiction
  by_cases hlong : maxName < piece.utf8ByteSize
  · rw [if_neg hdot, if_neg hup, if_neg hslash, if_pos hlong] at h
    contradiction
  rw [if_neg hdot, if_neg hup, if_neg hslash, if_neg hlong] at h
  rcases hn : t.node? (piece :: cur) with - | - | content | target
  · rw [hn] at h
    dsimp only at h
    split at h
    · exact .inr ⟨hdot, hup, by simp, (Reach.place.inj h).symm.trans (if_pos hn).symm⟩
    · contradiction
  · rw [hn] at h
    exact .inl ⟨piece :: cur, .down hdot hup hlong hn, h⟩
  · rw [hn] at h
    dsimp only at h
    split at h
    · refine .inr ⟨hdot, hup, by simp, (Reach.place.inj h).symm.trans (if_neg ?_).symm⟩
      simp [hn]
    · contradiction
  · rw [hn] at h
    dsimp only at h
    split at h
    · refine .inr ⟨hdot, hup, by simp, (Reach.place.inj h).symm.trans (if_neg ?_).symm⟩
      simp [hn]
    · contradiction

end

theorem walk_concat (hlf : t.LinkFree) (purpose : Purpose) (cur : Location) (ps : List String)
    {name : String} (h : IsEntryName name) :
    t.walk purpose cur (ps ++ [name]) =
      match t.enter cur ps with
      | .error e => .fault e
      | .ok dir =>
        if maxName < name.utf8ByteSize then .fault .nameTooLong
        else .place (t.placeAt dir name) := by
  induction ps generalizing cur with
  | nil =>
    have hdot : ¬(name = "." ∨ name = "") := not_or.2 ⟨h.2.1, h.1⟩
    simp only [List.nil_append, enter, walk, hdot, h.2.2.1, if_false]
    rw [if_neg (by simp)]
    split
    · rfl
    · rcases hn : t.node? (name :: cur) with - | n
      · simp [placeAt, hn]
      · have hplace : t.placeAt cur name = .entry (name :: cur) := if_neg (by simp [hn])
        rcases n with - | c | target
        · rw [hplace]
        · rw [hplace]
          exact if_pos trivial
        · exact absurd hn (hlf.node?_ne _ target)
  | cons piece rest ih =>
    have hne : rest ++ [name] ≠ [] := by simp
    -- The name is not empty, so the way does not end in a slash.
    have hslash : rest ++ [name] ≠ [""] := by
      intro he
      rcases List.append_eq_singleton_iff.1 he with ⟨-, hn⟩ | ⟨-, hn⟩
      · exact h.1 (List.singleton_inj.1 hn)
      · simp at hn
    simp only [List.cons_append, walk, enter, ih, hne, hslash, and_false, false_and, if_false]
    split
    · rfl
    · split
      · rfl
      · split
        · rfl
        · rcases hn : t.node? (piece :: cur) with - | n
          · rfl
          · rcases n with - | - | target
            · rfl
            · rfl
            · exact absurd hn (hlf.node?_ne _ target)

theorem resolve_of_place {purpose : Purpose} {cur : Location} {pieces : List String} {p : Place}
    (links : Nat) (h : t.walk purpose cur pieces = .place p) :
    t.resolve purpose links cur pieces = .ok p := by
  unfold resolve
  simp only [h]

theorem resolve_of_fault {purpose : Purpose} {cur : Location} {pieces : List String} {e : FileError}
    (links : Nat) (h : t.walk purpose cur pieces = .fault e) :
    t.resolve purpose links cur pieces = .error e := by
  unfold resolve
  simp only [h]

section

variable {purpose : Purpose} {links : Nat} {cur d : Location} {target : String}
  {ps rest : List String} {place : Place}

theorem resolve_cases
    (h : t.resolve purpose links cur ps = .ok place) :
    t.walk purpose cur ps = .place place ∨
      ∃ fewer d target rest, links = fewer + 1 ∧ target ≠ "" ∧
        t.walk purpose cur ps = .link d target rest ∧
        t.resolve purpose fewer (start d target) (targetSteps purpose target ++ rest) = .ok place := by
  rw [resolve] at h
  rcases hwalk : t.walk purpose cur ps with place' | ⟨d, target, rest⟩ | e
  · simp only [hwalk, Except.ok.injEq] at h
    exact .inl (congrArg _ h)
  · cases links with
    | zero => simp [hwalk] at h
    | succ fewer =>
      by_cases hempty : target = ""
      · simp [hwalk, hempty] at h
      · simp only [hwalk, hempty, if_false] at h
        exact .inr ⟨fewer, d, target, rest, rfl, hempty, rfl, h⟩
  · simp [hwalk] at h

theorem resolve_of_link (links : Nat) (htarget : target ≠ "")
    (h : t.walk purpose cur ps = .link d target rest) :
    t.resolve purpose (links + 1) cur ps =
      t.resolve purpose links (start d target) (targetSteps purpose target ++ rest) := by
  rw [resolve]
  simp only [h, htarget, if_false]

/-- The way to a place ends with a walk, and what holds before each link holds before that walk. -/
theorem exists_walk_of_resolve {P : Location → List String → Prop}
    (hlink : ∀ cur ps d target rest, P cur ps → t.walk purpose cur ps = .link d target rest →
      P (start d target) (targetSteps purpose target ++ rest))
    (hP : P cur ps) (h : t.resolve purpose links cur ps = .ok place) :
    ∃ cur' ps', P cur' ps' ∧ t.walk purpose cur' ps' = .place place := by
  induction links generalizing cur ps with
  | zero =>
    obtain hwalk | ⟨fewer, d, target, rest, hlinks, -⟩ := resolve_cases h
    · exact ⟨cur, ps, hP, hwalk⟩
    · contradiction
  | succ links ih =>
    obtain hwalk | ⟨fewer, d, target, rest, hlinks, -, hwalk, hrest⟩ := resolve_cases h
    · exact ⟨cur, ps, hP, hwalk⟩
    · obtain rfl := Nat.succ.inj hlinks
      exact ih (hlink cur ps d target rest hP hwalk) hrest

end

structure Admissible (p : Path) : Prop where
  ne_empty : p.text ≠ ""
  noNul : '\x00' ∉ p.text.toList
  short : p.text.utf8ByteSize ≤ maxPath

theorem Admissible.locate {p : Path} (h : Admissible p) (t : FileTree) (purpose : Purpose) :
    t.locate purpose p =
      t.resolve purpose maxLinks (start t.workDir p.text) (pathSteps purpose p.text) := by
  unfold FileTree.locate
  rw [if_neg h.ne_empty, if_neg (by simpa using h.noNul), if_neg (Nat.not_lt_of_le h.short)]

theorem admissible_of_locate {purpose : Purpose} {p : Path} {place : Place}
    (h : t.locate purpose p = .ok place) : Admissible p := by
  unfold locate at h
  by_cases hempty : p.text = ""
  · rw [if_pos hempty] at h
    contradiction
  by_cases hnul : p.text.toList.contains '\x00'
  · rw [if_neg hempty, if_pos hnul] at h
    contradiction
  by_cases hlong : maxPath < p.text.utf8ByteSize
  · rw [if_neg hempty, if_neg hnul, if_pos hlong] at h
    contradiction
  exact ⟨hempty, by simpa using hnul, Nat.le_of_not_lt hlong⟩

/-- A path puts a name below the directory at `l`, and nothing about its text forbids that. -/
structure Leads (t : FileTree) (dir : Path) (name : String) (l : Location) : Prop where
  folder : t.folder dir = .ok l
  noNul : '\x00' ∉ (dir.join name).text.toList
  short : (dir.join name).text.utf8ByteSize ≤ maxPath
  shortName : name.utf8ByteSize ≤ maxName

variable {dir : Path} {name : String} {l : Location}

theorem pathSteps_join (purpose : Purpose) (dir : Path) (h : IsEntryName name) :
    pathSteps purpose (dir.join name).text = steps dir.text ++ [name] := by
  rw [pathSteps, Path.steps_join dir h, Path.endsInSlash_join dir h]
  simp

def joinFault? (dir : Path) (name : String) : Option FileError :=
  if (dir.join name).text.toList.contains '\x00' then some .nulByte
  else if maxPath < (dir.join name).text.utf8ByteSize ∨ maxName < name.utf8ByteSize then
    some .nameTooLong
  else none

theorem leads_iff : t.Leads dir name l ↔ t.folder dir = .ok l ∧ joinFault? dir name = none := by
  unfold joinFault?
  constructor
  · intro hl
    have hlong : ¬(maxPath < (dir.join name).text.utf8ByteSize ∨ maxName < name.utf8ByteSize) :=
      not_or.2 ⟨Nat.not_lt_of_le hl.short, Nat.not_lt_of_le hl.shortName⟩
    rw [if_neg (by simpa using hl.noNul), if_neg hlong]
    exact ⟨hl.folder, rfl⟩
  · rintro ⟨hf, hnone⟩
    by_cases hnul : (dir.join name).text.toList.contains '\x00'
    · rw [if_pos hnul] at hnone
      contradiction
    by_cases hlong : maxPath < (dir.join name).text.utf8ByteSize ∨ maxName < name.utf8ByteSize
    · rw [if_neg hnul, if_pos hlong] at hnone
      contradiction
    obtain ⟨hpath, hname⟩ := not_or.1 hlong
    exact ⟨hf, by simpa using hnul, Nat.le_of_not_lt hpath, Nat.le_of_not_lt hname⟩

theorem locate_join_of_folder (hlf : t.LinkFree) (purpose : Purpose) (h : IsEntryName name)
    (hf : t.folder dir = .ok l) :
    t.locate purpose (dir.join name) =
      match joinFault? dir name with
      | some e => .error e
      | none => .ok (t.placeAt l name) := by
  have hwalk := walk_concat hlf purpose (start t.workDir dir.text) (steps dir.text) h
  rw [← folder, hf] at hwalk
  unfold locate joinFault?
  rw [if_neg (Path.text_join_ne_empty dir h), Path.start_join _ dir h, pathSteps_join purpose dir h]
  by_cases hnul : (dir.join name).text.toList.contains '\x00'
  · rw [if_pos hnul, if_pos hnul]
  rw [if_neg hnul, if_neg hnul]
  by_cases hlong : maxPath < (dir.join name).text.utf8ByteSize
  · rw [if_pos hlong, if_pos (.inl hlong)]
  rw [if_neg hlong]
  by_cases hname : maxName < name.utf8ByteSize
  · simp only [hname, if_true] at hwalk
    rw [if_pos (.inr hname), resolve_of_fault _ hwalk]
  · simp only [hname, if_false] at hwalk
    rw [if_neg (not_or.2 ⟨hlong, hname⟩), resolve_of_place _ hwalk]

theorem locate_join_of_folder_error (hlf : t.LinkFree) (purpose : Purpose) (h : IsEntryName name)
    {e : FileError} (hf : t.folder dir = .error e) :
    ∃ e', t.locate purpose (dir.join name) = .error e' := by
  have hwalk := walk_concat hlf purpose (start t.workDir dir.text) (steps dir.text) h
  rw [← folder, hf] at hwalk
  unfold locate
  rw [if_neg (Path.text_join_ne_empty dir h), Path.start_join _ dir h, pathSteps_join purpose dir h]
  split
  · exact ⟨_, rfl⟩
  · split
    · exact ⟨_, rfl⟩
    · exact ⟨e, resolve_of_fault _ hwalk⟩

/-- A path to a name in a directory leads to its place there, or cannot be followed at all. -/
theorem locate_join_eq_ok_iff (hlf : t.LinkFree) (purpose : Purpose) (h : IsEntryName name)
    {p : Place} :
    t.locate purpose (dir.join name) = .ok p ↔ ∃ l, t.Leads dir name l ∧ p = t.placeAt l name := by
  constructor
  · intro hp
    rcases hf : t.folder dir with e | l
    · obtain ⟨e', he'⟩ := locate_join_of_folder_error hlf purpose h hf
      rw [he'] at hp
      contradiction
    · rw [locate_join_of_folder hlf purpose h hf] at hp
      rcases hj : joinFault? dir name with - | e
      · rw [hj] at hp
        exact ⟨l, leads_iff.2 ⟨hf, hj⟩, (Except.ok.inj hp).symm⟩
      · rw [hj] at hp
        contradiction
  · rintro ⟨l, hl, rfl⟩
    obtain ⟨hf, hj⟩ := leads_iff.1 hl
    rw [locate_join_of_folder hlf purpose h hf, hj]

theorem Leads.locate (hlf : t.LinkFree) (purpose : Purpose) (h : IsEntryName name)
    (hl : t.Leads dir name l) : t.locate purpose (dir.join name) = .ok (t.placeAt l name) :=
  (locate_join_eq_ok_iff hlf purpose h).2 ⟨l, hl, rfl⟩

theorem Leads.lookup (hlf : t.LinkFree) (h : IsEntryName name) (hl : t.Leads dir name l) :
    t.lookup (dir.join name) =
      match t.node? (name :: l) with
      | none => .error .notFound
      | some n => .ok (name :: l, n) := by
  unfold FileTree.lookup
  rw [hl.locate hlf .follow h, placeAt]
  rcases hn : t.node? (name :: l) with - | n
  · rfl
  · rcases n with - | c | target <;> simp [hn, bind, Except.bind, Path.endsInSlash_join dir h]

theorem Leads.read (hlf : t.LinkFree) (h : IsEntryName name) (hl : t.Leads dir name l)
    {c : ByteArray} (hn : t.node? (name :: l) = some (.file c)) :
    t.read (dir.join name) = .ok c := by
  rw [FileTree.read, hl.lookup hlf h, hn]
  rfl

theorem read_join_eq_ok_iff (hlf : t.LinkFree) (h : IsEntryName name) {c : ByteArray} :
    t.read (dir.join name) = .ok c ↔
      ∃ l, t.Leads dir name l ∧ t.node? (name :: l) = some (.file c) := by
  constructor
  · intro hr
    rcases hloc : t.locate .follow (dir.join name) with e | p
    · simp [FileTree.read, FileTree.lookup, hloc, bind, Except.bind] at hr
    · obtain ⟨l, hl, -⟩ := (locate_join_eq_ok_iff hlf .follow h).1 hloc
      refine ⟨l, hl, ?_⟩
      rw [FileTree.read, hl.lookup hlf h] at hr
      rcases hn : t.node? (name :: l) with - | n
      · simp [hn, bind, Except.bind] at hr
      · rcases n with - | c' | target
        · simp [hn, bind, Except.bind] at hr
        · simpa [hn, bind, Except.bind] using hr
        · exact absurd hn (hlf.node?_ne _ target)
  · rintro ⟨l, hl, hn⟩
    exact hl.read hlf h hn

theorem Leads.write (hlf : t.LinkFree) (h : IsEntryName name) (hl : t.Leads dir name l)
    (hdir : ¬t.IsDirectoryAt (name :: l)) (c : ByteArray) :
    t.write (dir.join name) c = .ok (t.put (name :: l) (.file c)) := by
  unfold FileTree.write
  rw [hl.locate hlf .write h, placeAt]
  rcases hn : t.node? (name :: l) with - | n
  · simp [bind, Except.bind]
  · rcases n with - | c' | target
    · exact absurd hn hdir
    · simp [hn, bind, Except.bind]
    · exact absurd hn (hlf.node?_ne _ target)

theorem Leads.write_directory (hlf : t.LinkFree) (h : IsEntryName name) (hl : t.Leads dir name l)
    (hdir : t.IsDirectoryAt (name :: l)) (c : ByteArray) :
    t.write (dir.join name) c = .error .isDirectory := by
  unfold FileTree.write
  rw [hl.locate hlf .write h, placeAt]
  have hn : t.node? (name :: l) = some .directory := hdir
  simp [hn, bind, Except.bind]

theorem write_join_eq_ok_iff (hlf : t.LinkFree) (h : IsEntryName name) {c : ByteArray} :
    t.write (dir.join name) c = .ok t' ↔
      ∃ l, t.Leads dir name l ∧ ¬t.IsDirectoryAt (name :: l) ∧
        t' = t.put (name :: l) (.file c) := by
  constructor
  · intro hw
    rcases hloc : t.locate .write (dir.join name) with e | p
    · simp [FileTree.write, hloc, bind, Except.bind] at hw
    · obtain ⟨l, hl, -⟩ := (locate_join_eq_ok_iff hlf .write h).1 hloc
      by_cases hdir : t.IsDirectoryAt (name :: l)
      · simp [hl.write_directory hlf h hdir] at hw
      · rw [hl.write hlf h hdir] at hw
        exact ⟨l, hl, hdir, (Except.ok.inj hw).symm⟩
  · rintro ⟨l, hl, hdir, rfl⟩
    exact hl.write hlf h hdir c

end Storefront.FileTree
