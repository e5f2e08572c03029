import SyntaxSweep.Proofs.Scan.Faults
import Mathlib.Data.List.Sort

namespace SyntaxSweep

variable {look : Path → Option Node} {f f' : Filter} {root : Path} {roots roots' : List Path}

theorem holdsAny_mono {text : String} {patterns patterns' : List String}
    (hsub : patterns ⊆ patterns') (h : holdsAny text patterns) : holdsAny text patterns' := by
  obtain ⟨pattern, hpattern, hin⟩ := List.any_eq_true.1 h
  exact List.any_eq_true.2 ⟨pattern, hsub hpattern, hin⟩

namespace Filter

theorem admitsName_mono {extensions extensions' : List String} (hsub : extensions ⊆ extensions')
    {p : Path} (h : admitsName extensions p) : admitsName extensions' p := by
  unfold admitsName at h ⊢
  split at h
  · obtain ⟨extension, hextension, hends⟩ := List.any_eq_true.1 h
    exact List.any_eq_true.2 ⟨extension, hsub hextension, hends⟩
  · cases h

theorem admitsBelow_mono (hextensions : f.extensions ⊆ f'.extensions)
    (hignored : f'.ignored ⊆ f.ignored) {p : Path} (h : f.admitsBelow root p) :
    f'.admitsBelow root p := by
  rw [admitsBelow, Bool.and_eq_true, Bool.not_eq_true'] at h ⊢
  refine ⟨admitsName_mono hextensions h.1, Bool.eq_false_iff.2 fun hholds => ?_⟩
  rw [holdsAny_mono hignored hholds] at h
  cases h.2

theorem Cuts.mono (hignored : f'.ignored ⊆ f.ignored) {way : List Bytes} (h : f'.Cuts way) :
    f.Cuts way := by
  obtain ⟨pattern, hpattern, hin⟩ := h
  exact ⟨pattern, hignored hpattern, hin⟩

theorem Reaches.mono (hignored : f'.ignored ⊆ f.ignored) {tree directory : Node}
    {way : List Bytes} (h : f.Reaches tree way directory) : f'.Reaches tree way directory where
  at_eq := h.at_eq
  isDirectory := h.isDirectory
  not_cut on hne hon hcuts := h.not_cut on hne hon (hcuts.mono hignored)

end Filter

theorem ReadsAll.mono (hignored : f'.ignored ⊆ f.ignored) (h : ReadsAll look f' root) :
    ReadsAll look f root := by
  obtain ⟨tree, hlook, hreads⟩ := h
  refine ⟨tree, hlook, fun way directory hreach => ?_⟩
  exact hreads way directory (hreach.mono hignored)

theorem Selects.mono (hextensions : f.extensions ⊆ f'.extensions)
    (hignored : f'.ignored ⊆ f.ignored) {p : Path} (h : Selects look f root p) :
    Selects look f' root p := by
  obtain ⟨tree, way, hlook, hfile, hp, hadmits⟩ := h
  exact ⟨tree, way, hlook, hfile, hp, f.admitsBelow_mono hextensions hignored hadmits⟩

theorem exists_scan_of_wider (ho : ∀ root ∈ roots', OrderlyAt look root) (hroots : roots ⊆ roots')
    (hignored : f'.ignored ⊆ f.ignored) {files' : List Path}
    (h' : scan look f' roots' = .ok files') : ∃ files, scan look f roots = .ok files := by
  rw [scan_ok_iff fun root hroot => ho root (hroots hroot)]
  intro root hroot
  have hreads := (scan_ok_iff ho).1 ⟨files', h'⟩ root (hroots hroot)
  exact hreads.mono hignored

theorem exists_key_of_wider (ho : ∀ root ∈ roots', OrderlyAt look root) (hroots : roots ⊆ roots')
    (hextensions : f.extensions ⊆ f'.extensions) (hignored : f'.ignored ⊆ f.ignored)
    {files files' : List Path} (h : scan look f roots = .ok files)
    (h' : scan look f' roots' = .ok files') {p : Path} (hp : p ∈ files) :
    ∃ q ∈ files', q.key = p.key := by
  obtain ⟨root, hroot, hselects⟩ :=
    selects_of_mem_scan (fun root hroot => ho root (hroots hroot)) h hp
  exact exists_key_of_selects ho h' (hroots hroot) (hselects.mono hextensions hignored)

/-- Files in the order of their keys have the same keys if each key of the one is a key of the other. -/
theorem map_key_eq {files files' : List Path}
    (hsort : files.Pairwise fun p q => keyBefore p.key q.key)
    (hsort' : files'.Pairwise fun p q => keyBefore p.key q.key)
    (hin : ∀ p ∈ files, ∃ q ∈ files', q.key = p.key)
    (hin' : ∀ q ∈ files', ∃ p ∈ files, p.key = q.key) : files.map Path.key = files'.map Path.key := by
  have hsub {l l' : List Path} (h : ∀ p ∈ l, ∃ q ∈ l', q.key = p.key) :
      l.map Path.key ⊆ l'.map Path.key := by
    intro k hk
    obtain ⟨p, hp, rfl⟩ := List.mem_map.1 hk
    exact List.mem_map.2 (h p hp)
  have hperm : (files.map Path.key).Perm (files'.map Path.key) := by
    rw [List.perm_ext_iff_of_nodup (nodup_keys hsort) (nodup_keys hsort')]
    exact fun k => ⟨fun hk => hsub hin hk, fun hk => hsub hin' hk⟩
  have hkeys : (files.map Path.key).Pairwise fun k l => keyBefore k l := List.pairwise_map.2 hsort
  have hkeys' : (files'.map Path.key).Pairwise fun k l => keyBefore k l := List.pairwise_map.2 hsort'
  refine hperm.eq_of_pairwise (fun k l _ _ hkl hlk => ?_) hkeys hkeys'
  exact absurd (keyBefore_trans hkl hlk) (keyBefore_irrefl k)

/-- A request that asks for no more than another one that can be met: it can be met, and each file that
it finds is found by the other, perhaps in another spelling. If it asks for no less either, in whatever
order and however often, the keys are the same and stand in the same order. -/
theorem scan_narrower (ho : ∀ root ∈ roots', OrderlyAt look root) (hroots : roots ⊆ roots')
    (hextensions : f.extensions ⊆ f'.extensions) (hignored : f'.ignored ⊆ f.ignored)
    {files' : List Path} (h' : scan look f' roots' = .ok files') :
    ∃ files, scan look f roots = .ok files ∧ (∀ p ∈ files, ∃ q ∈ files', q.key = p.key) ∧
      (roots' ⊆ roots → f'.extensions ⊆ f.extensions → f.ignored ⊆ f'.ignored →
        files.map Path.key = files'.map Path.key) := by
  have hon : ∀ root ∈ roots, OrderlyAt look root := fun root hroot => ho root (hroots hroot)
  obtain ⟨files, h⟩ := exists_scan_of_wider (f := f) ho hroots hignored h'
  have hin : ∀ p ∈ files, ∃ q ∈ files', q.key = p.key := fun p hp =>
    exists_key_of_wider ho hroots hextensions hignored h h' hp
  refine ⟨files, h, hin, fun hroots' hextensions' hignored' => ?_⟩
  apply map_key_eq (pairwise_scan hon h) (pairwise_scan ho h') hin
  intro q hq
  exact exists_key_of_wider hon hroots' hextensions' hignored' h' h hq

/-- Roots, extensions and patterns in another order and given twice. The keys stay as they are, and a
file is spelled as below the root that now comes first. -/
theorem scan_reordered :
    ∃ files files', scan mixedLook ⟨["p", "p"], ["x", "y"]⟩ [.ofText "v//", .ofText "."] = .ok files ∧
      scan mixedLook ⟨["p"], ["y", "x"]⟩ [.ofText ".", .ofText "v//", .ofText "."] = .ok files' ∧
      files.map Path.key = files'.map Path.key ∧ files ≠ files' := by
  have ho : ∀ root ∈ [Path.ofText ".", .ofText "v//", .ofText "."], OrderlyAt mixedLook root :=
    fun root _ node hlook => Node.orderly_at? (by decide) hlook
  have hroots : [Path.ofText "v//", .ofText "."] ⊆ [.ofText ".", .ofText "v//", .ofText "."] := by
    decide
  have h : scan mixedLook ⟨["p", "p"], ["x", "y"]⟩ [.ofText "v//", .ofText "."] =
      .ok [.ofText "./a.p", .ofText "v//b.p", ⟨bytesOf "./" ++ [0xFE, 0x5C] ++ bytesOf "/c.p"⟩] := rfl
  have h' : scan mixedLook ⟨["p"], ["y", "x"]⟩ [.ofText ".", .ofText "v//", .ofText "."] =
      .ok [.ofText "./a.p", .ofText "./v/b.p", ⟨bytesOf "./" ++ [0xFE, 0x5C] ++ bytesOf "/c.p"⟩] := rfl
  obtain ⟨files, hfiles, -, hkeys⟩ := @scan_narrower mixedLook ⟨["p", "p"], ["x", "y"]⟩
    ⟨["p"], ["y", "x"]⟩ _ _ ho hroots (by decide) (by decide) _ h'
  have hsame := hkeys (by decide) (by decide) (by decide)
  cases h.symm.trans hfiles
  exact ⟨_, _, h, h', hsame, by decide⟩

end SyntaxSweep
