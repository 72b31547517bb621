import Storefront.Files.Store

/-! Lists of entries that are trees: each location once, and every entry in a directory. Changes
by paths keep them so. -/

namespace Storefront

def IsEntryName (name : String) : Prop :=
  name ≠ "" ∧ name ≠ "." ∧ name ≠ ".." ∧ '/' ∉ name.toList

namespace FileTree

def IsDirectoryAt (t : FileTree) (l : Location) : Prop :=
  t.node? l = some .directory

/-- Every entry has a name of its own in a directory. -/
structure WellFormed (t : FileTree) : Prop where
  distinct : (t.entries.map (·.1)).Nodup
  named : ∀ e ∈ t.entries, ∃ name dir, e.1 = name :: dir ∧ IsEntryName name ∧ t.IsDirectoryAt dir

def LinkFree (t : FileTree) : Prop :=
  ∀ e ∈ t.entries, ∀ target, e.2 ≠ .link target

theorem wellFormed_empty : empty.WellFormed where
  distinct := by simp [empty]
  named e he := by
    obtain rfl : e = (["work"], .directory) := by simpa [empty] using he
    exact ⟨"work", [], rfl, by simp [IsEntryName], rfl⟩

theorem linkFree_empty : empty.LinkFree := by
  simp [LinkFree, empty]

theorem mem_putEntry {l : Location} {n : Node} {es : List (Location × Node)} {e : Location × Node}
    (he : e ∈ putEntry l n es) : e = (l, n) ∨ e ∈ es := by
  induction es with
  | nil => simpa [putEntry] using he
  | cons a es ih =>
    by_cases h : a.1 = l
    · simp only [putEntry, h, if_true, List.mem_cons] at he
      exact he.imp_right (List.mem_cons_of_mem a)
    · simp only [putEntry, h, if_false, List.mem_cons] at he
      rcases he with he | he
      · exact .inr (he ▸ List.mem_cons_self)
      · exact (ih he).imp_right (List.mem_cons_of_mem a)

theorem nodup_putEntry {l : Location} {n : Node} {es : List (Location × Node)}
    (h : (es.map (·.1)).Nodup) : ((putEntry l n es).map (·.1)).Nodup := by
  induction es with
  | nil => simp [putEntry]
  | cons a es ih =>
    rw [List.map_cons, List.nodup_cons] at h
    by_cases ha : a.1 = l
    · simpa [putEntry, ha] using ⟨ha ▸ by simpa using h.1, h.2⟩
    · simp only [putEntry, ha, if_false, List.map_cons, List.nodup_cons]
      refine ⟨fun hm => ?_, ih h.2⟩
      obtain ⟨e, he, hea⟩ := List.mem_map.mp hm
      rcases mem_putEntry he with rfl | he
      · exact ha hea.symm
      · exact h.1 (List.mem_map.mpr ⟨e, he, hea⟩)

theorem WellFormed.put {t : FileTree} (h : t.WellFormed) {name : String} {dir : Location} {n : Node}
    (hname : IsEntryName name) (hdir : t.IsDirectoryAt dir)
    (hkeep : t.IsDirectoryAt (name :: dir) → n = .directory) : (t.put (name :: dir) n).WellFormed := by
  have keep : ∀ k, t.IsDirectoryAt k → (t.put (name :: dir) n).IsDirectoryAt k := by
    intro k hk
    rw [IsDirectoryAt, node?_put t (List.cons_ne_nil _ _)]
    by_cases hkl : k = name :: dir
    · subst hkl; simp [hkeep hk]
    · rw [if_neg hkl]; exact hk
  refine ⟨nodup_putEntry h.distinct, fun e he => ?_⟩
  rcases mem_putEntry he with rfl | he
  · exact ⟨name, dir, rfl, hname, keep dir hdir⟩
  · obtain ⟨m, d, hm, hn, hd⟩ := h.named e he
    exact ⟨m, d, hm, hn, keep d hd⟩

theorem LinkFree.put {t : FileTree} (h : t.LinkFree) {l : Location} {n : Node}
    (hn : ∀ target, n ≠ .link target) : (t.put l n).LinkFree := by
  intro e he
  rcases mem_putEntry he with rfl | he
  · exact hn
  · exact h e he

end FileTree
end Storefront
