import SyntaxSweep.Proofs.Disk.Linkless
import SyntaxSweep.Proofs.Scan.Selection

namespace SyntaxSweep

variable {d : Disk} {f : Filter} {root root' p q : Path} {roots files : List Path}

theorem orderlyAt_root? (ho : d.tree.orderly) (hl : d.tree.linkless) (root : Path) :
    OrderlyAt d.root? root := by
  intro node hnode
  exact Node.orderly_at? ho (Disk.at?_of_root? hl hnode)

theorem Selects.exists_names (ho : d.tree.orderly) (hl : d.tree.linkless)
    (h : Selects d.root? f root p) :
    ∃ names, p.key = root.key ++ names.map .name ∧ d.tree.HasFile (d.lead root.key ++ names) := by
  obtain ⟨node, names, hroot, ⟨data, executable, hfile⟩, rfl, -⟩ := h
  have hnode := orderlyAt_root? ho hl root node hroot
  refine ⟨names, Path.key_below root (Node.isName_of_at? hnode hfile), data, executable, ?_⟩
  rw [Node.at?_append, Disk.at?_of_root? hl hroot]
  exact hfile

theorem Selects.hasFile (ho : d.tree.orderly) (hl : d.tree.linkless)
    (h : Selects d.root? f root p) : d.tree.HasFile (d.lead p.key) := by
  obtain ⟨names, hkey, hfile⟩ := h.exists_names ho hl
  rw [hkey, d.lead_append_names]
  exact hfile

theorem Selects.key_eq (ho : d.tree.orderly) (hl : d.tree.linkless) (h : Selects d.root? f root p)
    (h' : Selects d.root? f root' q) (hup : .up ∉ root.components) (hup' : .up ∉ root'.components)
    (habsolute : root.isAbsolute = root'.isAbsolute) (hlead : d.lead p.key = d.lead q.key) :
    p.key = q.key := by
  obtain ⟨names, hkey, -⟩ := h.exists_names ho hl
  obtain ⟨names', hkey', -⟩ := h'.exists_names ho hl
  obtain ⟨way, hroot⟩ := Path.exists_names_of_key hup
  obtain ⟨way', hroot'⟩ := Path.exists_names_of_key hup'
  rw [hroot, List.append_assoc, ← List.map_append] at hkey
  rw [hroot', ← habsolute, List.append_assoc, ← List.map_append] at hkey'
  rw [hkey, hkey', d.lead_append_names, d.lead_append_names, List.append_cancel_left_eq] at hlead
  rw [hkey, hkey', hlead]

/-- What the files of a scan name on a disk without links. Each is the file that its key leads to. One
file is found twice just if roots select it by different keys. For that one of the roots has to go
upwards, or just one of them to be absolute. -/
theorem scan_names_by_key (ho : d.tree.orderly) (hl : d.tree.linkless)
    (h : scan d.root? f roots = .ok files) :
    (∀ p ∈ files, ∀ way, d.place? true p = .ok way → way = d.lead p.key ∧ d.tree.HasFile way) ∧
      ((∃ p ∈ files, ∃ q ∈ files, p ≠ q ∧ d.lead p.key = d.lead q.key) ↔
        ∃ root ∈ roots, ∃ root' ∈ roots, ∃ p q, Selects d.root? f root p ∧
          Selects d.root? f root' q ∧ p.key ≠ q.key ∧ d.lead p.key = d.lead q.key) ∧
      ∀ p ∈ files, ∀ q ∈ files, ∀ way, d.place? true p = .ok way → d.place? true q = .ok way →
        p ≠ q → ∃ root ∈ roots, ∃ root' ∈ roots, Selects d.root? f root p ∧
          Selects d.root? f root' q ∧ (.up ∈ root.components ∨ .up ∈ root'.components ∨
            root.isAbsolute ≠ root'.isAbsolute) := by
  have hon : ∀ root ∈ roots, OrderlyAt d.root? root := fun root _ => orderlyAt_root? ho hl root
  have hkeys : ∀ p ∈ files, ∀ q ∈ files, p ≠ q → p.key ≠ q.key := fun p hp q hq hne hkey =>
    hne (List.inj_on_of_nodup_map (nodup_keys (pairwise_scan hon h)) hp hq hkey)
  refine ⟨fun p hp way hway => ?_, ⟨?_, ?_⟩, fun p hp q hq way hway hway' hne => ?_⟩
  · obtain ⟨root, -, hselects⟩ := selects_of_mem_scan hon h hp
    have hlead := Disk.lead_of_place? hl hway
    rw [hlead]
    exact ⟨rfl, hselects.hasFile ho hl⟩
  · rintro ⟨p, hp, q, hq, hne, hlead⟩
    obtain ⟨root, hroot, hselects⟩ := selects_of_mem_scan hon h hp
    obtain ⟨root', hroot', hselects'⟩ := selects_of_mem_scan hon h hq
    exact ⟨root, hroot, root', hroot', p, q, hselects, hselects', hkeys p hp q hq hne, hlead⟩
  · rintro ⟨root, hroot, root', hroot', p, q, hselects, hselects', hne, hlead⟩
    obtain ⟨p', hp', hkey⟩ := exists_key_of_selects hon h hroot hselects
    obtain ⟨q', hq', hkey'⟩ := exists_key_of_selects hon h hroot' hselects'
    refine ⟨p', hp', q', hq', ?_, by rw [hkey, hkey', hlead]⟩
    rintro rfl
    exact hne (hkey.symm.trans hkey')
  · obtain ⟨root, hroot, hselects⟩ := selects_of_mem_scan hon h hp
    obtain ⟨root', hroot', hselects'⟩ := selects_of_mem_scan hon h hq
    have hlead : d.lead p.key = d.lead q.key :=
      (Disk.lead_of_place? hl hway).symm.trans (Disk.lead_of_place? hl hway')
    refine ⟨root, hroot, root', hroot', hselects, hselects', ?_⟩
    by_contra hstraight
    rw [not_or, not_or, not_not] at hstraight
    obtain ⟨hup, hup', habsolute⟩ := hstraight
    exact hkeys p hp q hq hne (hselects.key_eq ho hl hselects' hup hup' habsolute hlead)

/-- A disk with two directories of files in the working directory. -/
def sharedDisk : Disk where
  tree := .directory true [(bytesOf "w", .directory true [
    (bytesOf "a", .directory true [(bytesOf "x.p", .file [] false)]),
    (bytesOf "b", .directory true [(bytesOf "y.p", .file [] false)])])]
  directory := [bytesOf "w"]

theorem scan_nestedRoots :
    ∃ files, files = [Path.ofText "./a/x.p", .ofText "./b/y.p"] ∧
      scan sharedDisk.root? ⟨["p"], []⟩ [.ofText ".", .ofText "a", .ofText "./b//"] = .ok files ∧
      ∀ p ∈ files, ∀ q ∈ files, ∀ way, sharedDisk.place? true p = .ok way →
        sharedDisk.place? true q = .ok way → p = q := by
  have hall : sharedDisk.root? (.ofText ".") = sharedDisk.tree.at? [bytesOf "w"] := by cbv
  have ha : sharedDisk.root? (.ofText "a") = sharedDisk.tree.at? [bytesOf "w", bytesOf "a"] := by cbv
  have hb : sharedDisk.root? (.ofText "./b//") =
      sharedDisk.tree.at? [bytesOf "w", bytesOf "b"] := by cbv
  have h : scan sharedDisk.root? ⟨["p"], []⟩ [.ofText ".", .ofText "a", .ofText "./b//"] =
      .ok [.ofText "./a/x.p", .ofText "./b/y.p"] := by
    simp only [scan, List.foldlM_cons, List.foldlM_nil, scanRoot, hall, ha, hb]
    rfl
  refine ⟨_, rfl, h, fun p hp q hq way hway hway' => ?_⟩
  by_contra hne
  obtain ⟨root, hroot, root', hroot', -, -, hcrooked⟩ :=
    (scan_names_by_key (by decide) (by decide) h).2.2 p hp q hq way hway hway' hne
  have hstraight : ∀ r ∈ [Path.ofText ".", .ofText "a", .ofText "./b//"],
      .up ∉ r.components ∧ r.isAbsolute = false := by decide
  obtain ⟨hup, hrelative⟩ := hstraight root hroot
  obtain ⟨hup', hrelative'⟩ := hstraight root' hroot'
  rw [hrelative, hrelative'] at hcrooked
  obtain hcrooked | hcrooked | hcrooked := hcrooked
  · exact hup hcrooked
  · exact hup' hcrooked
  · exact hcrooked rfl

theorem file_found_thrice :
    sharedDisk.tree.orderly ∧ sharedDisk.tree.linkless ∧
      scan sharedDisk.root? ⟨["p"], []⟩ [.ofText "a", .ofText "b/../a", .ofText "/w//a"] =
        .ok [.ofText "/w//a/x.p", .ofText "a/x.p", .ofText "b/../a/x.p"] ∧
      sharedDisk.tree.HasFile [bytesOf "w", bytesOf "a", bytesOf "x.p"] ∧
      ∀ p ∈ [Path.ofText "/w//a/x.p", .ofText "a/x.p", .ofText "b/../a/x.p"],
        sharedDisk.place? true p = .ok [bytesOf "w", bytesOf "a", bytesOf "x.p"] := by
  have ha : sharedDisk.root? (.ofText "a") = sharedDisk.tree.at? [bytesOf "w", bytesOf "a"] := by cbv
  have hup : sharedDisk.root? (.ofText "b/../a") =
      sharedDisk.tree.at? [bytesOf "w", bytesOf "a"] := by cbv
  have habsolute : sharedDisk.root? (.ofText "/w//a") =
      sharedDisk.tree.at? [bytesOf "w", bytesOf "a"] := by cbv
  refine ⟨by decide, by decide, ?_, ⟨[], false, rfl⟩, ?_⟩
  · simp only [scan, List.foldlM_cons, List.foldlM_nil, scanRoot, ha, hup, habsolute]
    rfl
  · simp only [List.forall_mem_cons]
    exact ⟨by cbv, by cbv, by cbv, List.forall_mem_nil _⟩

end SyntaxSweep
