import Storefront.Proofs.Files.Creation
import Storefront.Proofs.Files.Listing

/-! Paths with many slashes between two pieces: they lead where one slash leads, as long as they are
not too long. -/

namespace Storefront

open FileTree

def slashed (n : Nat) : Path :=
  ⟨"." ++ String.ofList (List.replicate n '/') ++ "o2"⟩

variable {n : Nat} {t t' : FileTree}

theorem toList_slashed (n : Nat) :
    (slashed n).text.toList = '.' :: (List.replicate n '/' ++ ['o', '2']) := by
  simp [slashed]

theorem utf8ByteSize_slashed (n : Nat) : (slashed n).text.utf8ByteSize = n + 3 := by
  have hslashes : (String.ofList (List.replicate n '/')).utf8ByteSize = n := by
    induction n with
    | zero => rfl
    | succ n ih =>
      rw [List.replicate_succ, ← List.singleton_append, String.ofList_append,
        String.utf8ByteSize_append, ih, Nat.add_comm]
      rfl
  rw [slashed, String.utf8ByteSize_append, String.utf8ByteSize_append, hslashes]
  show 1 + n + 2 = n + 3
  omega

theorem text_slashed_ne_empty (n : Nat) : (slashed n).text ≠ "" := by
  intro hempty
  have hlist := toList_slashed n
  rw [hempty] at hlist
  contradiction

theorem getLast?_slashed (n : Nat) : (slashed n).text.toList.getLast? = some '2' := by
  rw [toList_slashed, ← List.cons_append, List.getLast?_append]
  rfl

theorem filter_pieces_slashes (n : Nat) (rest : List Char) :
    (Path.pieces (List.replicate n '/' ++ rest)).filter (· ≠ []) =
      (Path.pieces rest).filter (· ≠ []) := by
  induction n with
  | zero => rfl
  | succ n ih =>
    rw [List.replicate_succ, List.cons_append, Path.pieces, if_pos rfl,
      List.filter_cons_of_neg (by simp), ih]

theorem steps_slashed (hn : 0 < n) : steps (slashed n).text = [".", "o2"] := by
  obtain ⟨n, rfl⟩ := Nat.exists_eq_succ_of_ne_zero (Nat.ne_of_gt hn)
  rw [steps, toList_slashed, List.replicate_succ, List.cons_append, ← List.singleton_append,
    Path.pieces_append, List.filter_append, filter_pieces_slashes]
  decide

theorem endsInSlash_slashed (n : Nat) : endsInSlash (slashed n).text = false := by
  rw [endsInSlash, getLast?_slashed]
  rfl

theorem locate_slashed (hn : 0 < n) (hshort : n + 3 ≤ maxPath) (t : FileTree) (purpose : Purpose) :
    t.locate purpose (slashed n) = t.locate purpose ⟨"./o2"⟩ := by
  have hnul : (slashed n).text.toList.contains '\x00' = false := by
    rw [toList_slashed]
    simp
  have hstart : start t.workDir (slashed n).text = t.workDir := by
    rw [start, toList_slashed]
    rfl
  have hsteps : pathSteps purpose (slashed n).text = [".", "o2"] := by
    rw [pathSteps, steps_slashed hn, endsInSlash_slashed]
    simp
  have hshort' : ¬maxPath < (slashed n).text.utf8ByteSize := by
    rw [utf8ByteSize_slashed]
    exact Nat.not_lt_of_le hshort
  have hplain : pathSteps purpose "./o2" = [".", "o2"] := by
    cases purpose <;> decide
  unfold locate
  rw [if_neg (text_slashed_ne_empty n), hnul, if_neg hshort', hstart, hsteps, hplain]
  rfl

theorem lookup_slashed (hn : 0 < n) (hshort : n + 3 ≤ maxPath) (t : FileTree) :
    t.lookup (slashed n) = t.lookup ⟨"./o2"⟩ := by
  have hplain : endsInSlash "./o2" = false := by decide
  rw [lookup, lookup, locate_slashed hn hshort, endsInSlash_slashed, hplain]

theorem createDirs_slashed (hn : 0 < n) (hshort : n + 3 ≤ maxPath)
    (h : t.createDir ⟨"./o2"⟩ = .ok t') : t.createDirs (slashed n) = (.ok (), t') := by
  have hcreate : t.createDir (slashed n) = .ok t' := by
    rw [← h, createDir, create, locate_slashed hn hshort]
    rfl
  rw [createDirs]
  unfold createDirsTo
  rw [if_neg (text_slashed_ne_empty n), hcreate]

theorem dirEntries_slashed (hn : 0 < n) (hshort : n + 3 ≤ maxPath)
    (h : t.dirEntries ⟨"./o2"⟩ = .ok []) : t.dirEntries (slashed n) = .ok [] := by
  obtain ⟨l, hlookup, hempty⟩ := dirEntries_eq_ok_iff.1 h
  rw [← lookup_slashed hn hshort] at hlookup
  refine dirEntries_eq_ok_iff.2 ⟨l, hlookup, ?_⟩
  rw [List.map_eq_nil_iff.1 hempty.symm, List.map_nil]

theorem utf8ByteSize_join_slashed (n : Nat) (name : String) (h : IsEntryName name) :
    ((slashed n).join name).text.utf8ByteSize = n + 4 + name.utf8ByteSize := by
  have hlead : ¬((slashed n).text = "" ∨ (slashed n).text.toList.getLast? = some '/') := by
    rw [not_or, getLast?_slashed]
    exact ⟨text_slashed_ne_empty n, by decide⟩
  rw [Path.join, if_neg (Path.head?_ne_of_isEntryName h), if_neg hlead]
  show ((slashed n).text ++ "/" ++ name).utf8ByteSize = _
  rw [String.utf8ByteSize_append, String.utf8ByteSize_append, utf8ByteSize_slashed]
  rfl

end Storefront
