import Storefront.Proofs.Files.Agreement

/-! What keeps a file from being written. Below a directory that a path leads to, only the text of
the path and another directory of that name do. -/

namespace Storefront.FileTree

variable {t t' : FileTree} {dir p : Path} {name : String} {l : Location}

def writeFault? (t : FileTree) (p : Path) : Option FileError :=
  match t.locate .write p with
  | .error e => some e
  | .ok (.vacant _ _) => none
  | .ok (.entry l) =>
    match t.node? l with
    | some (.file _) => none
    | _ => some .isDirectory

theorem write_eq_error_iff {c : ByteArray} {e : FileError} :
    t.write p c = .error e ↔ t.writeFault? p = some e := by
  unfold write writeFault?
  rcases t.locate .write p with e' | place
  · simp [bind, Except.bind]
  · rcases place with l | ⟨d, name⟩
    · rcases hn : t.node? l with - | n
      · simp [bind, Except.bind, hn]
      · cases n <;> simp [bind, Except.bind, hn]
    · simp [bind, Except.bind]

theorem exists_write_iff {c : ByteArray} :
    (∃ t', t.write p c = .ok t') ↔ t.writeFault? p = none := by
  rcases hw : t.write p c with e | t'
  · rw [write_eq_error_iff.1 hw]
    simp
  · refine iff_of_true ⟨t', rfl⟩ ?_
    rcases hf : t.writeFault? p with - | e
    · rfl
    · rw [write_eq_error_iff.2 hf] at hw
      contradiction

theorem writeFault?_join (hlf : t.LinkFree) (h : IsEntryName name) (hf : t.folder dir = .ok l) :
    t.writeFault? (dir.join name) =
      (joinFault? dir name).or
        (match t.node? (name :: l) with
        | some .directory => some .isDirectory
        | _ => none) := by
  unfold writeFault?
  rw [locate_join_of_folder hlf .write h hf]
  rcases joinFault? dir name with - | e
  · unfold placeAt
    rcases hn : t.node? (name :: l) with - | - | c | target
    · simp
    · simp [hn]
    · simp [hn]
    · exact absurd hn (hlf.node?_ne _ target)
  · rfl

theorem SameDirs.writeFault?_join (hs : t.SameDirs t') (hlf : t.LinkFree) (hlf' : t'.LinkFree)
    (h : IsEntryName name) (hf : t.folder dir = .ok l) :
    t'.writeFault? (dir.join name) = t.writeFault? (dir.join name) := by
  rw [FileTree.writeFault?_join hlf h hf, FileTree.writeFault?_join hlf' h (hs.1.folder hf)]
  congr 1
  have hdir : t'.node? (name :: l) = some .directory ↔ t.node? (name :: l) = some .directory :=
    ⟨hs.2.isDirectoryAt _, hs.1.isDirectoryAt _⟩
  split
  next hn => rw [hdir.1 hn]
  next hn =>
    split
    next hn' => exact absurd (hdir.2 hn') hn
    next => rfl

theorem putEntry_of_lookup {l : Location} {n : Node} {es : List (Location × Node)}
    (h : es.lookup l = some n) : putEntry l n es = es := by
  induction es with
  | nil => simp at h
  | cons e es ih =>
    obtain ⟨k, m⟩ := e
    by_cases hk : k = l
    · subst hk
      obtain rfl : m = n := by simpa using h
      simp [putEntry]
    · rw [List.lookup_cons, beq_false_of_ne (Ne.symm hk)] at h
      simp only [putEntry, hk, if_false, ih h]

theorem put_of_node? {k : Location} {n : Node} (hk : k ≠ []) (hn : t.node? k = some n) :
    t.put k n = t := by
  rw [node?, if_neg hk] at hn
  rw [put, putEntry_of_lookup hn]

end Storefront.FileTree
