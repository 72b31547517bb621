import Storefront.Proofs.Batch.Course
import Storefront.Proofs.Files.Creation
import Storefront.Proofs.Files.Listing

/-! Whole runs as functions of the tree: the listing, the output directory, the batch. -/

namespace Storefront

namespace Session

open FileTree

variable (filter : Log.Filter) (s : Session)

theorem yields_createDir_ok {p : Path} {t : FileTree} (h : s.tree.createDir p = .ok t) :
    Yields ((host filter).createDir p) s (.ok ()) t :=
  yields_change_ok s (·.createDir p) h

theorem yields_createDir_error {p : Path} {e : FileError} (h : s.tree.createDir p = .error e) :
    Yields ((host filter).createDir p) s (.error e) s.tree :=
  yields_change_error s (·.createDir p) h

theorem yields_settle (p : Path) (e : FileError) :
    Yields ((host filter).settle p e) s (s.tree.settle p e) s.tree := by
  unfold Host.settle FileTree.settle
  have hdir : Yields ((host filter).isDirectory p) s (s.tree.isDirectory p) s.tree := ⟨rfl, rfl⟩
  refine .bind hdir fun s₁ h₁ => ?_
  split <;> exact .pure _ h₁

theorem yields_createDirsTo (depth : Nat) (p : Path) :
    Yields ((host filter).createDirsTo depth p) s (s.tree.createDirsTo depth p).1
      (s.tree.createDirsTo depth p).2 := by
  induction depth generalizing p s with
  | zero =>
    unfold Host.createDirsTo FileTree.createDirsTo
    split
    · exact .pure _ rfl
    · rcases hc : s.tree.createDir p with e | t
      · refine .bind (yields_createDir_error filter s hc) fun s₁ h₁ => ?_
        cases e with
        | notFound => exact .pure _ h₁
        | _ => simpa only [h₁] using yields_settle filter s₁ p _
      · exact .bind (yields_createDir_ok filter s hc) fun s₁ h₁ => .pure _ h₁
  | succ depth ih =>
    unfold Host.createDirsTo FileTree.createDirsTo
    split
    · exact .pure _ rfl
    · rcases hc : s.tree.createDir p with e | t
      · refine .bind (yields_createDir_error filter s hc) fun s₁ h₁ => ?_
        cases e with
        | notFound =>
          -- The directory above is missing: it is created first, and then this one again.
          rcases p.parent? with - | above
          · exact .pure _ h₁
          · have habove := ih s₁ above
            rw [h₁] at habove
            refine .bind habove fun s₂ h₂ => ?_
            rcases hr : s.tree.createDirsTo depth above with ⟨e | u, t⟩
            · rw [hr] at h₂
              simp only [hr]
              exact .pure _ h₂
            · have h₂ : s₂.tree = t := by rw [h₂, hr]
              simp only [hr]
              rcases hc₂ : t.createDir p with e | t'
              · refine .bind (yields_createDir_error filter s₂ (h₂ ▸ hc₂)) fun s₃ h₃ => ?_
                have h₃ : s₃.tree = t := h₃.trans h₂
                simpa only [h₃, hc₂] using yields_settle filter s₃ p e
              · refine .bind (yields_createDir_ok filter s₂ (h₂ ▸ hc₂)) fun s₃ h₃ => ?_
                exact .pure _ (by simpa only [hc₂] using h₃)
        | _ => simpa only [h₁] using yields_settle filter s₁ p _
      · exact .bind (yields_createDir_ok filter s hc) fun s₁ h₁ => .pure _ h₁

theorem yields_createDirs (p : Path) :
    Yields ((host filter).createDirs p) s (s.tree.createDirs p).1 (s.tree.createDirs p).2 :=
  yields_createDirsTo filter s p.text.length p

theorem yields_listImages (dir : Path) (extensions : List String) :
    Yields (listImages (host filter) dir extensions) s (s.tree.listImages dir extensions)
      s.tree := by
  unfold Storefront.listImages FileTree.listImages
  have hdir : Yields ((host filter).isDirectory dir) s (s.tree.isDirectory dir) s.tree := ⟨rfl, rfl⟩
  refine .bind hdir fun s₁ h₁ => ?_
  split
  · have hentries : Yields ((host filter).entries dir) s₁ (s.tree.dirEntries dir) s.tree :=
      ⟨by rw [← h₁]; rfl, h₁⟩
    refine .bind hentries fun s₂ h₂ => ?_
    rcases s.tree.dirEntries dir with e | es
    · exact .pure _ h₂
    · refine .bind (yields_forM_log filter s₂ _) fun s₃ h₃ => ?_
      exact .pure _ (h₃.trans h₂)
  · exact .pure _ h₁

theorem run_bind {α β : Type} (x : StateM Session α) (f : α → StateM Session β) (s : Session) :
    (x >>= f).run s = (f (x.run s).1).run (x.run s).2 := rfl

variable [Codecs] {s} {observers : Observers (StateM Session)} {settings : ScreenshotSettings}

theorem runScreenshots_of_ok (observers : Observers (StateM Session))
    (settings : ScreenshotSettings) {files : List Path}
    (hlist : s.tree.listImages settings.inputDir settings.extensions = .ok files)
    (hcreate : (s.tree.createDirs settings.outputDir).1 = .ok ()) :
    ∃ s', s'.tree = (s.tree.createDirs settings.outputDir).2 ∧
      (runScreenshots (host filter) observers settings).run s =
        (.ok ((normalizeBatch (host filter) observers settings files).run s').1,
          ((normalizeBatch (host filter) observers settings files).run s').2) := by
  have hlisting := yields_listImages filter s settings.inputDir settings.extensions
  rw [hlist] at hlisting
  rcases h₁ : (Storefront.listImages (host filter) settings.inputDir settings.extensions).run s
    with ⟨a, s₁⟩
  obtain ⟨rfl, ht₁⟩ : a = .ok files ∧ s₁.tree = s.tree := by rwa [Yields, h₁] at hlisting
  have hlog := yields_log filter s₁
    (.of .info .batch ("Found " ++ files.length.repr ++ " screenshots to process"))
  rcases h₂ : ((host filter).log
    (.of .info .batch ("Found " ++ files.length.repr ++ " screenshots to process"))).run s₁
    with ⟨u, s₂⟩
  have ht₂ : s₂.tree = s.tree := by
    rw [Yields, h₂] at hlog
    exact hlog.2.trans ht₁
  have hcreating := yields_createDirs filter s₂ settings.outputDir
  rw [ht₂, hcreate] at hcreating
  rcases h₃ : ((host filter).createDirs settings.outputDir).run s₂ with ⟨a, s₃⟩
  obtain ⟨rfl, ht₃⟩ : a = .ok () ∧ s₃.tree = (s.tree.createDirs settings.outputDir).2 := by
    rwa [Yields, h₃] at hcreating
  refine ⟨s₃, ht₃, ?_⟩
  unfold runScreenshots
  simp only [run_bind, h₁, h₂, h₃]
  rfl

theorem yields_of_listing_error (observers : Observers (StateM Session)) {e : ScanError}
    (hlist : s.tree.listImages settings.inputDir settings.extensions = .error e) :
    Yields (runScreenshots (host filter) observers settings) s
      (.error (.scan settings.inputDir e)) s.tree := by
  have hlisting := yields_listImages filter s settings.inputDir settings.extensions
  rw [hlist] at hlisting
  exact .bind hlisting fun s₁ h₁ => .pure _ h₁

theorem yields_of_createDirs_error (observers : Observers (StateM Session)) {files : List Path}
    {e : FileError}
    (hlist : s.tree.listImages settings.inputDir settings.extensions = .ok files)
    (hcreate : (s.tree.createDirs settings.outputDir).1 = .error e) :
    Yields (runScreenshots (host filter) observers settings) s
      (.error (.outputDir settings.outputDir e)) (s.tree.createDirs settings.outputDir).2 := by
  have hlisting := yields_listImages filter s settings.inputDir settings.extensions
  rw [hlist] at hlisting
  refine .bind hlisting fun s₁ h₁ => ?_
  refine .bind (yields_log filter s₁ _) fun s₂ h₂ => ?_
  have hcreating := yields_createDirs filter s₂ settings.outputDir
  rw [h₂.trans h₁, hcreate] at hcreating
  exact .bind hcreating fun s₃ h₃ => .pure _ h₃

theorem ok_of_runScreenshots {report : BatchReport}
    (h : ((runScreenshots (host filter) observers settings).run s).1 = .ok report) :
    (∃ files, s.tree.listImages settings.inputDir settings.extensions = .ok files) ∧
      (s.tree.createDirs settings.outputDir).1 = .ok () := by
  rcases hlist : s.tree.listImages settings.inputDir settings.extensions with e | files
  · rw [(yields_of_listing_error filter observers hlist).1] at h
    simp at h
  · refine ⟨⟨files, rfl⟩, ?_⟩
    rcases hcreate : (s.tree.createDirs settings.outputDir).1 with e | u
    · rw [(yields_of_createDirs_error filter observers hlist hcreate).1] at h
      simp at h
    · rfl

theorem grows_of_runScreenshots {e : RunError} {s' : Session}
    (h : (runScreenshots (host filter) observers settings).run s = (.error e, s')) :
    s.tree.Grows s'.tree := by
  rcases hlist : s.tree.listImages settings.inputDir settings.extensions with e' | files
  · obtain ⟨-, htree⟩ := yields_of_listing_error filter observers hlist
    rw [h] at htree
    rw [htree]
    exact .refl
  · rcases hcreate : (s.tree.createDirs settings.outputDir).1 with e' | u
    · obtain ⟨-, htree⟩ := yields_of_createDirs_error filter observers hlist hcreate
      rw [h] at htree
      rw [htree]
      exact grows_createDirs _ _
    · obtain ⟨s₁, -, hrun⟩ := runScreenshots_of_ok filter observers settings hlist hcreate
      rw [hrun] at h
      have hresult := congrArg Prod.fst h
      simp at hresult

theorem course_of_runScreenshots (ho : observers.LookOn) {report : BatchReport} {s' : Session}
    (h : (runScreenshots (host filter) observers settings).run s = (.ok report, s')) :
    ∃ files, s.tree.listImages settings.inputDir settings.extensions = .ok files ∧
      (s.tree.createDirs settings.outputDir).1 = .ok () ∧
      report.outcomes =
        (BatchState.course settings ⟨[], (s.tree.createDirs settings.outputDir).2⟩ files).1 ∧
      s'.tree = (BatchState.after settings ⟨[], (s.tree.createDirs settings.outputDir).2⟩ files).tree := by
  obtain ⟨⟨files, hlist⟩, hcreate⟩ := ok_of_runScreenshots filter (congrArg Prod.fst h)
  obtain ⟨s₁, h₁, hrun⟩ := runScreenshots_of_ok filter observers settings hlist hcreate
  rw [hrun] at h
  obtain ⟨hreport, rfl⟩ := Prod.mk.inj h
  obtain rfl := Except.ok.inj hreport
  refine ⟨files, hlist, hcreate, ?_, ?_⟩
  · rw [outcomes_normalizeBatch filter s₁ ho, h₁]
  · rw [tree_normalizeBatch filter s₁ ho, h₁]

end Session
end Storefront
