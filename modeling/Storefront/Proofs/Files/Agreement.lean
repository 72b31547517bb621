import Storefront.Proofs.Files.Reach

/-! Trees that agree where a path leads. A path leads through the same directories in a tree that
keeps them, and reading it gives the same in a tree that agrees on all that the path comes by. -/

namespace Storefront.FileTree

variable {t t' t'' : FileTree} {dir : Path} {name : String} {l : Location}

/-- Every directory of `t` is one of `t'`, and relative paths start at the same place. -/
structure KeepsDirs (t t' : FileTree) : Prop where
  workDir : t'.workDir = t.workDir
  isDirectoryAt : ∀ l, t.IsDirectoryAt l → t'.IsDirectoryAt l

theorem KeepsDirs.refl (t : FileTree) : t.KeepsDirs t := ⟨rfl, fun _ h => h⟩

theorem KeepsDirs.trans (h : t.KeepsDirs t') (h' : t'.KeepsDirs t'') : t.KeepsDirs t'' :=
  ⟨h'.workDir.trans h.workDir, fun l hl => h'.isDirectoryAt l (h.isDirectoryAt l hl)⟩

theorem KeepsDirs.stepsTo (h : t.KeepsDirs t') {cur d : Location} {piece : String}
    (hstep : t.StepsTo cur piece d) : t'.StepsTo cur piece d := by
  cases hstep with
  | still hdot => exact .still hdot
  | up hdot hup => exact .up hdot hup
  | down hdot hup hlong hn => exact .down hdot hup hlong (h.isDirectoryAt _ hn)

theorem KeepsDirs.enter (h : t.KeepsDirs t') {cur : Location} {ps : List String}
    (he : t.enter cur ps = .ok l) : t'.enter cur ps = .ok l := by
  induction ps generalizing cur with
  | nil => exact he
  | cons piece rest ih =>
    obtain ⟨d, hstep, hrest⟩ := enter_cases he
    rw [(h.stepsTo hstep).enter]
    exact ih hrest

theorem KeepsDirs.folder (h : t.KeepsDirs t') (hf : t.folder dir = .ok l) :
    t'.folder dir = .ok l := by
  unfold FileTree.folder at hf ⊢
  rw [h.workDir]
  exact h.enter hf

theorem KeepsDirs.leads (h : t.KeepsDirs t') (hl : t.Leads dir name l) : t'.Leads dir name l :=
  ⟨h.folder hl.folder, hl.noNul, hl.short, hl.shortName⟩

/-- The same directories: files may have come, gone or changed. -/
def SameDirs (t t' : FileTree) : Prop :=
  t.KeepsDirs t' ∧ t'.KeepsDirs t

theorem SameDirs.refl (t : FileTree) : t.SameDirs t := ⟨.refl t, .refl t⟩

theorem SameDirs.trans (h : t.SameDirs t') (h' : t'.SameDirs t'') : t.SameDirs t'' :=
  ⟨h.1.trans h'.1, h'.2.trans h.2⟩

theorem SameDirs.leads_iff (h : t.SameDirs t') : t'.Leads dir name l ↔ t.Leads dir name l :=
  ⟨h.2.leads, h.1.leads⟩

theorem isDirectoryAt_put_file {k : Location} (hk : k ≠ []) (hdir : ¬t.IsDirectoryAt k)
    (c : ByteArray) (l : Location) :
    (t.put k (.file c)).IsDirectoryAt l ↔ t.IsDirectoryAt l := by
  unfold IsDirectoryAt
  rw [node?_put t hk]
  by_cases hlk : l = k
  · subst hlk
    exact iff_of_false (by simp) hdir
  · rw [if_neg hlk]

theorem sameDirs_put_file {k : Location} (hk : k ≠ []) (hdir : ¬t.IsDirectoryAt k) (c : ByteArray) :
    t.SameDirs (t.put k (.file c)) :=
  ⟨⟨rfl, fun l => (isDirectoryAt_put_file hk hdir c l).2⟩,
    ⟨rfl, fun l => (isDirectoryAt_put_file hk hdir c l).1⟩⟩

/-- The locations that steps come by. The last of them need not hold an entry. -/
def trailFrom (t : FileTree) (cur : Location) : List String → List Location
  | [] => [cur]
  | piece :: rest =>
    cur :: if piece = "." ∨ piece = "" then t.trailFrom cur rest
      else if piece = ".." then t.trailFrom cur.tail rest
      else match t.node? (piece :: cur) with
        | some .directory => t.trailFrom (piece :: cur) rest
        | _ => [piece :: cur]

def trail (t : FileTree) (p : Path) : List Location :=
  t.trailFrom (start t.workDir p.text) (pathSteps .follow p.text)

theorem walk_congr (purpose : Purpose) {cur : Location} {ps : List String}
    (h : ∀ l ∈ t.trailFrom cur ps, t'.node? l = t.node? l) :
    t'.walk purpose cur ps = t.walk purpose cur ps := by
  induction ps generalizing cur with
  | nil => rfl
  | cons piece rest ih =>
    simp only [trailFrom] at h
    simp only [walk]
    split
    next hdot =>
      rw [if_pos hdot] at h
      exact ih fun l hl => h l (List.mem_cons_of_mem cur hl)
    next hdot =>
      rw [if_neg hdot] at h
      split
      next hup =>
        rw [if_pos hup] at h
        exact ih fun l hl => h l (List.mem_cons_of_mem cur hl)
      next hup =>
        rw [if_neg hup] at h
        -- The entry is on the trail whatever it is.
        have hnode : t'.node? (piece :: cur) = t.node? (piece :: cur) := by
          refine h _ (List.mem_cons_of_mem cur ?_)
          split
          · cases rest <;> simp [trailFrom]
          · simp
        rw [hnode]
        rcases hn : t.node? (piece :: cur) with - | n
        · rfl
        · rcases n with - | c | target
          · rw [hn] at h
            rw [ih fun l hl => h l (List.mem_cons_of_mem cur hl)]
          · rfl
          · rfl

theorem StepsTo.trailFrom {cur d : Location} {piece : String} {rest : List String}
    (h : t.StepsTo cur piece d) :
    t.trailFrom cur (piece :: rest) = cur :: t.trailFrom d rest := by
  rw [FileTree.trailFrom]
  cases h with
  | still hdot => rw [if_pos hdot]
  | up hdot hup => rw [if_neg hdot, if_pos hup]
  | down hdot hup _ hn => rw [if_neg hdot, if_neg hup, hn]

theorem mem_trailFrom_of_walk {purpose : Purpose} {cur : Location} {ps : List String}
    (h : t.walk purpose cur ps = .place (.entry l)) : l ∈ t.trailFrom cur ps := by
  induction ps generalizing cur with
  | nil =>
    obtain rfl : cur = l := by simpa [walk] using h
    simp [trailFrom]
  | cons piece rest ih =>
    rcases walk_cases h with ⟨d, hstep, hrest⟩ | ⟨hdot, hup, hn, hplace⟩
    · rw [hstep.trailFrom]
      exact List.mem_cons_of_mem cur (ih hrest)
    · obtain rfl := location_of_placeAt hplace.symm
      rw [trailFrom, if_neg hdot, if_neg hup]
      split
      · contradiction
      · simp

theorem LinkFree.walk_ne_link (hlf : t.LinkFree) (purpose : Purpose) (cur : Location)
    (ps : List String) (d : Location) (target : String) (rest : List String) :
    t.walk purpose cur ps ≠ .link d target rest := by
  induction ps generalizing cur with
  | nil => simp [walk]
  | cons piece ps ih =>
    simp only [walk]
    split
    · exact ih cur
    · split
      · exact ih cur.tail
      · split
        · simp
        · split
          · simp
          · split
            · split <;> simp
            · exact ih _
            · split <;> simp
            next hn => exact absurd hn (hlf.node?_ne _ _)

theorem locate_congr (hlf : t.LinkFree) {p : Path} (hdir : t'.workDir = t.workDir)
    (h : ∀ l ∈ t.trail p, t'.node? l = t.node? l) : t'.locate .follow p = t.locate .follow p := by
  have hwalk := walk_congr .follow h
  unfold locate
  rw [hdir]
  rcases hw : t.walk .follow (start t.workDir p.text) (pathSteps .follow p.text)
    with place | ⟨d, target, rest⟩ | e
  · rw [hw] at hwalk
    rw [resolve_of_place _ hwalk, resolve_of_place _ hw]
  · exact (hlf.walk_ne_link _ _ _ _ _ _ hw).elim
  · rw [hw] at hwalk
    rw [resolve_of_fault _ hwalk, resolve_of_fault _ hw]

theorem walk_of_locate (hlf : t.LinkFree) {purpose : Purpose} {p : Path} {place : Place}
    (h : t.locate purpose p = .ok place) :
    t.walk purpose (start t.workDir p.text) (pathSteps purpose p.text) = .place place := by
  rw [(admissible_of_locate h).locate] at h
  rcases hw : t.walk purpose (start t.workDir p.text) (pathSteps purpose p.text)
    with place' | ⟨d, target, rest⟩ | e
  · rw [resolve_of_place _ hw] at h
    rw [Except.ok.inj h]
  · exact (hlf.walk_ne_link _ _ _ _ _ _ hw).elim
  · rw [resolve_of_fault _ hw] at h
    contradiction

theorem mem_trail_of_locate (hlf : t.LinkFree) {p : Path}
    (h : t.locate .follow p = .ok (.entry l)) : l ∈ t.trail p :=
  mem_trailFrom_of_walk (walk_of_locate hlf h)

theorem lookup_congr (hlf : t.LinkFree) {p : Path} (hdir : t'.workDir = t.workDir)
    (h : ∀ l ∈ t.trail p, t'.node? l = t.node? l) : t'.lookup p = t.lookup p := by
  unfold lookup
  rw [locate_congr hlf hdir h]
  rcases hloc : t.locate .follow p with e | place
  · rfl
  · cases place with
    | vacant d n => rfl
    | entry l =>
      have hn := h l (mem_trail_of_locate hlf hloc)
      simp only [bind, Except.bind, hn]

theorem read_congr {p : Path} (h : t'.lookup p = t.lookup p) : t'.read p = t.read p := by
  unfold read
  rw [h]

theorem lookup_join_congr (hlf : t.LinkFree) (hlf' : t'.LinkFree) (h : IsEntryName name)
    (hf : t.folder dir = .ok l) (hf' : t'.folder dir = .ok l)
    (hn : t'.node? (name :: l) = t.node? (name :: l)) :
    t'.lookup (dir.join name) = t.lookup (dir.join name) := by
  have hplace : t'.placeAt l name = t.placeAt l name := by rw [placeAt, placeAt, hn]
  unfold lookup
  rw [locate_join_of_folder hlf' .follow h hf', locate_join_of_folder hlf .follow h hf, hplace]
  rcases joinFault? dir name with - | e
  · by_cases hnone : t.node? (name :: l) = none
    · simp only [placeAt, if_pos hnone]
      rfl
    · simp only [placeAt, if_neg hnone, bind, Except.bind, hn]
  · rfl

def target? (t : FileTree) (p : Path) : Option Location :=
  match t.locate .write p with
  | .error _ => none
  | .ok (.entry l) => some l
  | .ok (.vacant dir name) => some (name :: dir)

theorem target?_join_eq_some_iff (hlf : t.LinkFree) (h : IsEntryName name) {k : Location} :
    t.target? (dir.join name) = some k ↔ ∃ l, t.Leads dir name l ∧ k = name :: l := by
  have htarget (l : Location) (hl : t.Leads dir name l) :
      t.target? (dir.join name) = some (name :: l) := by
    unfold target?
    rw [hl.locate hlf .write h, placeAt]
    by_cases hn : t.node? (name :: l) = none
    · rw [if_pos hn]
    · rw [if_neg hn]
  constructor
  · intro hk
    rcases hloc : t.locate .write (dir.join name) with e | p
    · simp [target?, hloc] at hk
    · obtain ⟨l, hl, -⟩ := (locate_join_eq_ok_iff hlf .write h).1 hloc
      rw [htarget l hl] at hk
      exact ⟨l, hl, (Option.some.inj hk).symm⟩
  · rintro ⟨l, hl, rfl⟩
    exact htarget l hl

theorem SameDirs.target?_join (hs : t.SameDirs t') (hlf : t.LinkFree) (hlf' : t'.LinkFree)
    (h : IsEntryName name) : t'.target? (dir.join name) = t.target? (dir.join name) := by
  apply Option.ext
  intro k
  rw [target?_join_eq_some_iff hlf h, target?_join_eq_some_iff hlf' h]
  simp only [hs.leads_iff]

end Storefront.FileTree
