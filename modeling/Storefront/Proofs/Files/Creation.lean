import Storefront.Proofs.Files.Folder

/-! Directories that are created. A tree that grows by them keeps every entry that it has. -/

namespace Storefront.FileTree

variable {t t' t'' : FileTree} {k l : Location} {n : Node}

/-- The second tree is the first one with directories put where nothing was. -/
inductive Grows (t : FileTree) : FileTree → Prop
  | refl : Grows t t
  | put {t' : FileTree} {k : Location} : Grows t t' → k ≠ [] → t'.node? k = none →
    Grows t (t'.put k .directory)

namespace Grows

theorem trans (h : t.Grows t') (h' : t'.Grows t'') : t.Grows t'' := by
  induction h' with
  | refl => exact h
  | put _ hk hn ih => exact .put ih hk hn

theorem workDir (h : t.Grows t') : t'.workDir = t.workDir := by
  induction h with
  | refl => rfl
  | put _ _ _ ih => exact ih

theorem node? (h : t.Grows t') (hn : t.node? k = some n) : t'.node? k = some n := by
  induction h with
  | refl => exact hn
  | put _ hk hnone ih =>
    rw [node?_put _ hk, if_neg, ih]
    rintro rfl
    rw [ih] at hnone
    simp at hnone

theorem keepsDirs (h : t.Grows t') : t.KeepsDirs t' :=
  ⟨h.workDir, fun _ hl => h.node? hl⟩

theorem linkFree (h : t.Grows t') (hlf : t.LinkFree) : t'.LinkFree := by
  induction h with
  | refl => exact hlf
  | put _ _ _ ih => exact ih.put (by simp)

theorem node?_eq_file_iff (h : t.Grows t') {c : ByteArray} :
    t'.node? k = some (.file c) ↔ t.node? k = some (.file c) := by
  refine ⟨fun hn => ?_, h.node?⟩
  induction h with
  | refl => exact hn
  | put _ hk _ ih =>
    rw [node?_put _ hk] at hn
    split at hn
    · simp at hn
    · exact ih hn

theorem distinct (h : t.Grows t') (hd : (t.entries.map (·.1)).Nodup) :
    (t'.entries.map (·.1)).Nodup := by
  induction h with
  | refl => exact hd
  | put _ _ _ ih => exact nodup_putEntry ih

end Grows

theorem node?_of_walk_vacant {purpose : Purpose} {cur : Location} {ps : List String} {name : String}
    (h : t.walk purpose cur ps = .place (.vacant l name)) : t.node? (name :: l) = none := by
  induction ps generalizing cur with
  | nil => simp [walk] at h
  | cons piece rest ih =>
    rcases walk_cases h with ⟨d, -, hrest⟩ | ⟨-, -, -, hplace⟩
    · exact ih hrest
    · exact node?_of_placeAt hplace.symm

theorem node?_of_locate_vacant {purpose : Purpose} {p : Path} {name : String}
    (h : t.locate purpose p = .ok (.vacant l name)) : t.node? (name :: l) = none := by
  rw [(admissible_of_locate h).locate] at h
  obtain ⟨cur, ps, -, hwalk⟩ :=
    exists_walk_of_resolve (P := fun _ _ => True) (fun _ _ _ _ _ _ _ => trivial) trivial h
  exact node?_of_walk_vacant hwalk

theorem grows_of_createDir {p : Path} (h : t.createDir p = .ok t') :
    t.Grows t' := by
  unfold createDir create at h
  rcases hloc : t.locate .keep p with e | place
  · simp [hloc, bind, Except.bind] at h
  · cases place with
    | entry l => simp [hloc, bind, Except.bind] at h
    | vacant dir name =>
      obtain rfl : t.put (name :: dir) .directory = t' := by
        simpa [hloc, bind, Except.bind] using h
      exact .put .refl (List.cons_ne_nil _ _) (node?_of_locate_vacant hloc)

def settle (t : FileTree) (p : Path) (e : FileError) : Except FileError Unit :=
  if t.isDirectory p then .ok () else .error e

def createDirsTo (t : FileTree) : Nat → Path → Except FileError Unit × FileTree
  | depth, p =>
    if p.text = "" then (.ok (), t)
    else match t.createDir p with
      | .ok t' => (.ok (), t')
      | .error .notFound =>
        match depth, p.parent? with
        | depth + 1, some above =>
          match t.createDirsTo depth above with
          | (.error e, t') => (.error e, t')
          | (.ok (), t') =>
            match t'.createDir p with
            | .ok t'' => (.ok (), t'')
            | .error e => (t'.settle p e, t')
        | _, _ => (.error .notFound, t)
      | .error e => (t.settle p e, t)

def createDirs (t : FileTree) (p : Path) : Except FileError Unit × FileTree :=
  t.createDirsTo p.text.length p

/-- However far it gets, creating a directory adds directories and changes nothing else. -/
theorem grows_createDirsTo (depth : Nat) (p : Path) :
    t.Grows (t.createDirsTo depth p).2 := by
  induction depth generalizing p with
  | zero =>
    unfold createDirsTo
    split
    · exact .refl
    · split
      next hc => exact grows_of_createDir hc
      next => exact .refl
      next => exact .refl
  | succ depth ih =>
    unfold createDirsTo
    split
    · exact .refl
    · split
      next hc => exact grows_of_createDir hc
      next =>
        split
        next depth' above hdepth _ =>
          obtain rfl := Nat.succ.inj hdepth
          have habove := ih above
          split
          next hr => rwa [hr] at habove
          next hr =>
            rw [hr] at habove
            split
            next hc => exact habove.trans (grows_of_createDir hc)
            next => exact habove
        next => exact .refl
      next => exact .refl

theorem grows_createDirs (t : FileTree) (p : Path) : t.Grows (t.createDirs p).2 :=
  grows_createDirsTo p.text.length p

theorem createDirs_of_lookup (hlf : t.LinkFree) {p : Path}
    (h : t.lookup p = .ok (l, .directory)) : t.createDirs p = (.ok (), t) := by
  obtain ⟨hp, hf, -⟩ := (lookup_eq_directory_iff hlf).1 h
  have hloc : t.locate .keep p = .ok (.entry l) := locate_of_folder hp hf (by simp)
  have hcreate : t.createDir p = .error .alreadyExists := by
    rw [createDir, create, hloc]
    rfl
  have hdir : t.isDirectory p = true := by rw [isDirectory, h]
  unfold createDirs createDirsTo
  rw [if_neg hp.ne_empty, hcreate]
  simp only [settle, hdir, if_true]

end Storefront.FileTree
