import Storefront.Proofs.Files.Agreement

/-! Paths that lead to directories. They do so through directories alone, in every tree that has
these, and lead there for all purposes but writing. -/

namespace Storefront.FileTree

variable {t t' : FileTree} {dir : Path} {l : Location}

theorem enter_of_walk {cur : Location} {ps : List String}
    (h : t.walk .follow cur ps = .place (.entry l)) (hl : t.IsDirectoryAt l) :
    t.enter cur ps = .ok l := by
  induction ps generalizing cur with
  | nil =>
    obtain rfl : cur = l := by simpa [walk] using h
    rfl
  | cons piece rest ih =>
    rcases walk_cases h with ⟨d, hstep, hrest⟩ | ⟨-, -, hn, hplace⟩
    · rw [hstep.enter]
      exact ih hrest
    · obtain rfl := location_of_placeAt hplace.symm
      contradiction

theorem walk_of_enter {purpose : Purpose} {cur : Location} {ps : List String}
    (h : t.enter cur ps = .ok l) (hpurpose : purpose ≠ .write) :
    t.walk purpose cur ps = .place (.entry l) := by
  induction ps generalizing cur with
  | nil => rw [walk, Except.ok.inj h]
  | cons piece rest ih =>
    obtain ⟨d, hstep, hrest⟩ := enter_cases h
    rw [hstep.walk hpurpose]
    exact ih hrest

theorem locate_of_folder {purpose : Purpose} (hdir : Admissible dir) (hf : t.folder dir = .ok l)
    (hpurpose : purpose ≠ .write) : t.locate purpose dir = .ok (.entry l) := by
  have hsteps : pathSteps purpose dir.text = steps dir.text := by
    rw [pathSteps, if_neg fun h => hpurpose h.1, List.append_nil]
  rw [hdir.locate, hsteps]
  exact resolve_of_place maxLinks (walk_of_enter hf hpurpose)

theorem lookup_eq_directory_iff (hlf : t.LinkFree) :
    t.lookup dir = .ok (l, .directory) ↔
      Admissible dir ∧ t.folder dir = .ok l ∧ t.IsDirectoryAt l := by
  constructor
  · intro h
    unfold lookup at h
    rcases hloc : t.locate .follow dir with e | place
    · rw [hloc] at h
      contradiction
    · rw [hloc] at h
      cases place with
      | vacant d name => contradiction
      | entry l' =>
        have hnode : l' = l ∧ t.IsDirectoryAt l' := by
          rcases hn : t.node? l' with - | n
          · simp [hn, bind, Except.bind] at h
          · rcases n with - | c | target
            · simp only [hn, bind, Except.bind, Except.ok.injEq, Prod.mk.injEq, and_true] at h
              exact ⟨h, hn⟩
            · by_cases hs : endsInSlash dir.text <;> simp [hn, bind, Except.bind, hs] at h
            · simp [hn, bind, Except.bind] at h
        obtain ⟨rfl, hl⟩ := hnode
        have hwalk := walk_of_locate hlf hloc
        rw [pathSteps, if_neg (by simp), List.append_nil] at hwalk
        exact ⟨admissible_of_locate hloc, enter_of_walk hwalk hl, hl⟩
  · rintro ⟨hdir, hf, hl⟩
    have hn : t.node? l = some .directory := hl
    have hloc : t.locate .follow dir = .ok (.entry l) := locate_of_folder hdir hf (by simp)
    simp only [lookup, hloc, bind, Except.bind, hn]

theorem isDirectory_iff : t.isDirectory dir = true ↔ ∃ l, t.lookup dir = .ok (l, .directory) := by
  unfold isDirectory
  constructor
  · intro h
    split at h
    next l hl => exact ⟨l, hl⟩
    next => contradiction
  · rintro ⟨l, hl⟩
    rw [hl]

theorem folder_of_lookup (hlf : t.LinkFree) (h : t.lookup dir = .ok (l, .directory)) :
    t.folder dir = .ok l ∧ t.IsDirectoryAt l :=
  ((lookup_eq_directory_iff hlf).1 h).2

theorem KeepsDirs.lookup (hkeeps : t.KeepsDirs t') (hlf : t.LinkFree) (hlf' : t'.LinkFree)
    (h : t.lookup dir = .ok (l, .directory)) : t'.lookup dir = .ok (l, .directory) := by
  obtain ⟨hdir, hf, hl⟩ := (lookup_eq_directory_iff hlf).1 h
  exact (lookup_eq_directory_iff hlf').2 ⟨hdir, hkeeps.folder hf, hkeeps.isDirectoryAt l hl⟩

end Storefront.FileTree
