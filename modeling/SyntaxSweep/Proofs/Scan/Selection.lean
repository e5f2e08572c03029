import SyntaxSweep.Proofs.Scan.Pruning
import SyntaxSweep.Proofs.Scan.Found
import Mathlib.Data.List.Nodup

namespace SyntaxSweep

variable {look : Path → Option Node} {f : Filter} {root : Path}

/-- The wanted files of the tree at a root, in the order of a walk. -/
def wanted (look : Path → Option Node) (f : Filter) (root : Path) : List Path :=
  match look root with
  | some node => (node.fileNames.map root.below).filter (f.admitsBelow root)
  | none => []

/-- The tree at the root holds the file, and the filter wants it below this root. -/
def Selects (look : Path → Option Node) (f : Filter) (root p : Path) : Prop :=
  ∃ node names, look root = some node ∧ node.HasFile names ∧ p = root.below names ∧
    f.admitsBelow root p

/-- The trees that paths name are trees as a disk holds them. -/
def OrderlyAt (look : Path → Option Node) (root : Path) : Prop :=
  ∀ node, look root = some node → node.orderly

theorem orderlyAt_of_look {tree : Node} (hlook : look root = some tree) (ho : tree.orderly) :
    OrderlyAt look root := by
  intro node hnode
  cases hlook.symm.trans hnode
  exact ho

theorem mem_wanted (ho : OrderlyAt look root) {p : Path} :
    p ∈ wanted look f root ↔ Selects look f root p := by
  unfold wanted Selects
  cases hl : look root with
  | none => simp
  | some node =>
    simp only [List.mem_filter, List.mem_map, Node.mem_fileNames (ho node hl)]
    constructor
    · rintro ⟨⟨names, hn, rfl⟩, hp⟩
      exact ⟨node, names, rfl, hn, rfl, hp⟩
    · rintro ⟨_, names, hnode, hn, rfl, hp⟩
      cases hnode
      exact ⟨⟨names, hn, rfl⟩, hp⟩

theorem pairwise_wanted (ho : OrderlyAt look root) :
    (wanted look f root).Pairwise fun p q => keyBefore p.key q.key := by
  unfold wanted
  split
  · next node hl => exact (Node.pairwise_below root (ho node hl)).filter _
  · exact .nil

theorem eq_of_key_eq (ho : OrderlyAt look root) {p q : Path} (hp : p ∈ wanted look f root)
    (hq : q ∈ wanted look f root) (hk : p.key = q.key) : p = q := by
  exact List.inj_on_of_nodup_map (nodup_keys (pairwise_wanted ho)) hp hq hk

theorem scanRoot_eq (ho : OrderlyAt look root) {node : Node} (hl : look root = some node)
    {files : List Path} (h : filesOf (f.prunes root) root node = .ok files) (found : Found) :
    scanRoot look f found root = .ok (found.addAll (wanted look f root)) := by
  have hw : files.filter (f.admitsBelow root) = wanted look f root := by
    rw [filter_filesOf (f.spares root) (ho node hl) h, wanted, hl]
  rw [scanRoot, hl, ← hw]
  simp only [h]
  rfl

/-- Leaving out directories does not change what is found: whatever other roots have given before,
a root that can be walked in full adds the files of that walk that are wanted one by one. -/
theorem scan_of_unpruned {node : Node} (hl : look root = some node) (ho : node.orderly)
    {all : List Path} (h : filesOf (fun _ => false) root node = .ok all) :
    (∀ found, scanRoot look f found root =
        .ok (found.addAll (all.filter (f.admitsBelow root)))) ∧
      scan look f [root] = .ok (all.filter (f.admitsBelow root)) := by
  have hat : OrderlyAt look root := orderlyAt_of_look hl ho
  have hw : all.filter (f.admitsBelow root) = wanted look f root := by
    rw [filter_filesOf (spares_of_none root _) ho h, wanted, hl]
  obtain ⟨files, hfiles⟩ := filesOf_of_unpruned (f.prunes root) h
  have hroot := scanRoot_eq hat hl hfiles
  rw [hw]
  refine ⟨hroot, ?_⟩
  have hsort := Found.addAll_of_pairwise (@pairwise_wanted _ f _ hat)
  simp only [scan, List.foldlM_cons, List.foldlM_nil, hroot]
  change Except.ok (((Found.addAll [] (wanted look f root))).map (·.2)) = _
  rw [hsort, List.map_map]
  exact congrArg Except.ok (List.map_id _)

/-- A tree with links, with names that spell no text, and with a directory to leave out. -/
def mixedTree : Node :=
  .directory true [
    ([0x61, 0x2E, 0x70], .file [] false),
    ([0x6C], .link ⟨[0x61]⟩),
    ([0x76], .directory true [([0x62, 0x2E, 0x70], .file [] false), ([0xFF], .special)]),
    ([0xFE, 0x5C], .directory true [([0x63, 0x2E, 0x70], .file [] false)])]

def mixedFilter : Filter := ⟨["p"], ["/v/", "/e\\"]⟩

theorem scan_mixedTree :
    filesOf (fun _ => false) (.ofText "./") mixedTree = .ok [.ofText "./a.p", .ofText "./v/b.p",
      ⟨bytesOf "./" ++ [0xFE, 0x5C] ++ bytesOf "/c.p"⟩] ∧
    scan (fun _ => some mixedTree) mixedFilter [.ofText "./"] =
      .ok [.ofText "./a.p", ⟨bytesOf "./" ++ [0xFE, 0x5C] ++ bytesOf "/c.p"⟩] := by
  have hall : filesOf (fun _ => false) (.ofText "./") mixedTree = .ok [.ofText "./a.p",
      .ofText "./v/b.p", ⟨bytesOf "./" ++ [0xFE, 0x5C] ++ bytesOf "/c.p"⟩] := rfl
  exact ⟨hall, (@scan_of_unpruned (fun _ => some mixedTree) mixedFilter (.ofText "./") mixedTree rfl
    (by decide) _ hall).2⟩

theorem exists_of_scanRoot {found found' : Found} (h : scanRoot look f found root = .ok found') :
    ∃ node files, look root = some node ∧ filesOf (f.prunes root) root node = .ok files := by
  unfold scanRoot at h
  split at h
  · cases h
  · next node hl =>
    split at h
    · cases h
    · next files hf => exact ⟨node, files, hl, hf⟩

theorem foldlM_scanRoot {roots : List Path} (ho : ∀ root ∈ roots, OrderlyAt look root)
    {found found' : Found} (h : roots.foldlM (scanRoot look f) found = .ok found') :
    found' = found.addAll (roots.flatMap (wanted look f)) := by
  induction roots generalizing found with
  | nil => cases h; rfl
  | cons root rest ih =>
    rw [List.foldlM_cons] at h
    cases hs : scanRoot look f found root with
    | error e => simp [hs, bind, Except.bind] at h
    | ok next =>
      obtain ⟨node, files, hl, hf⟩ := exists_of_scanRoot hs
      have heq := scanRoot_eq (ho root List.mem_cons_self) hl hf found
      rw [heq] at h
      rw [ih (fun r hr => ho r (List.mem_cons_of_mem _ hr)) h, List.flatMap_cons,
        Found.addAll_append]

theorem eq_addAll_of_scan {roots : List Path} (ho : ∀ root ∈ roots, OrderlyAt look root)
    {files : List Path} (h : scan look f roots = .ok files) :
    files = (Found.addAll [] (roots.flatMap (wanted look f))).map (·.2) := by
  unfold scan at h
  cases hs : roots.foldlM (scanRoot look f) [] with
  | error e => simp [hs, Except.map] at h
  | ok found =>
    rw [hs] at h
    cases h
    rw [foldlM_scanRoot ho hs]

theorem eq_wanted_of_scan (ho : OrderlyAt look root) {files : List Path}
    (h : scan look f [root] = .ok files) : files = wanted look f root := by
  rw [eq_addAll_of_scan (List.forall_mem_singleton.2 ho) h, List.flatMap_singleton,
    Found.addAll_of_pairwise (pairwise_wanted ho), List.map_map]
  exact List.map_id _

theorem pairwise_scan {roots : List Path} (ho : ∀ root ∈ roots, OrderlyAt look root)
    {files : List Path} (h : scan look f roots = .ok files) :
    files.Pairwise fun p q => keyBefore p.key q.key := by
  have hsound : (Found.addAll [] (roots.flatMap (wanted look f))).Sound :=
    Found.Sound.empty.addAll _
  rw [eq_addAll_of_scan ho h, List.pairwise_map]
  refine hsound.pairwise.imp_of_mem fun {d e} hd he hlt => ?_
  rwa [← hsound.key_eq d hd, ← hsound.key_eq e he]

theorem selects_of_mem_scan {roots : List Path} (ho : ∀ root ∈ roots, OrderlyAt look root)
    {files : List Path} (h : scan look f roots = .ok files) {p : Path} (hp : p ∈ files) :
    ∃ root ∈ roots, Selects look f root p := by
  rw [eq_addAll_of_scan ho h, Found.mem_addAll] at hp
  obtain ⟨root, hroot, hwanted⟩ := List.mem_flatMap.1 hp.mem
  exact ⟨root, hroot, (mem_wanted (ho root hroot)).1 hwanted⟩

theorem exists_key_of_selects {roots : List Path} (ho : ∀ root ∈ roots, OrderlyAt look root)
    {files : List Path} (h : scan look f roots = .ok files) (hroot : root ∈ roots) {p : Path}
    (hp : Selects look f root p) : ∃ q ∈ files, q.key = p.key := by
  have hsound : (Found.addAll [] (roots.flatMap (wanted look f))).Sound :=
    Found.Sound.empty.addAll _
  have hwanted : p ∈ roots.flatMap (wanted look f) :=
    List.mem_flatMap.2 ⟨root, hroot, (mem_wanted (ho root hroot)).2 hp⟩
  obtain ⟨e, he, hkey⟩ := (Found.exists_key_addAll _ p.key).2 ⟨p, hwanted, rfl⟩
  rw [eq_addAll_of_scan ho h]
  exact ⟨e.2, List.mem_map_of_mem he, (hsound.key_eq e he).symm.trans hkey⟩

/-- A scan of several roots. A key is in the result if some root selects a file with it; it is there
once, as the first root that selects it spells it; and the keys are in the order of paths. -/
theorem scan_first_spellings {roots : List Path} (ho : ∀ root ∈ roots, OrderlyAt look root)
    {files : List Path} (h : scan look f roots = .ok files) :
    (∀ k, (∃ p ∈ files, p.key = k) ↔ ∃ root ∈ roots, ∃ p, Selects look f root p ∧ p.key = k) ∧
      (files.map Path.key).Nodup ∧
      (∀ p ∈ files, ∃ before root after, roots = before ++ root :: after ∧
        Selects look f root p ∧ (∀ q, Selects look f root q → q.key = p.key → q = p) ∧
        ∀ r ∈ before, ∀ q, Selects look f r q → q.key ≠ p.key) ∧
      files.Pairwise fun p q => keyBefore p.key q.key := by
  have heq := eq_addAll_of_scan ho h
  have hsound : (Found.addAll [] (roots.flatMap (wanted look f))).Sound :=
    Found.Sound.empty.addAll _
  have hsort : files.Pairwise fun p q => keyBefore p.key q.key := by
    rw [heq, List.pairwise_map]
    refine hsound.pairwise.imp_of_mem fun {d e} hd he hlt => ?_
    rwa [← hsound.key_eq d hd, ← hsound.key_eq e he]
  refine ⟨fun k => ?_, ?_, fun p hp => ?_, hsort⟩
  · have hkeys := Found.exists_key_addAll (roots.flatMap (wanted look f)) k
    have hfiles : (∃ p ∈ files, p.key = k) ↔
        ∃ e ∈ Found.addAll [] (roots.flatMap (wanted look f)), e.1 = k := by
      rw [heq]
      constructor
      · rintro ⟨p, hp, hk⟩
        obtain ⟨e, he, rfl⟩ := List.mem_map.1 hp
        exact ⟨e, he, (hsound.key_eq e he).trans hk⟩
      · rintro ⟨e, he, hk⟩
        exact ⟨e.2, List.mem_map_of_mem he, (hsound.key_eq e he).symm.trans hk⟩
    rw [hfiles, hkeys]
    constructor
    · rintro ⟨p, hp, hk⟩
      obtain ⟨root, hr, hp⟩ := List.mem_flatMap.1 hp
      exact ⟨root, hr, p, (mem_wanted (ho root hr)).1 hp, hk⟩
    · rintro ⟨root, hr, p, hp, hk⟩
      exact ⟨p, List.mem_flatMap.2 ⟨root, hr, (mem_wanted (ho root hr)).2 hp⟩, hk⟩
  · exact nodup_keys hsort
  · rw [heq] at hp
    obtain ⟨before, root, after, rfl, hp, hb⟩ := ((Found.mem_addAll _ p).1 hp).of_flatMap
    have hroot : OrderlyAt look root := ho root (by simp)
    refine ⟨before, root, after, rfl, (mem_wanted hroot).1 hp, fun q hq hk => ?_, fun r hr q hq => ?_⟩
    · exact eq_of_key_eq hroot ((mem_wanted hroot).2 hq) hp hk
    · exact hb r hr q ((mem_wanted (ho r (by simp [hr]))).2 hq)

def mixedLook (root : Path) : Option Node :=
  mixedTree.at? (root.segments.filter (!Path.isFiller ·))

theorem scan_overlapping :
    scan mixedLook mixedFilter [.ofText ".", .ofText "v//", .ofText "./v"] =
        .ok [.ofText "./a.p", .ofText "v//b.p", ⟨bytesOf "./" ++ [0xFE, 0x5C] ++ bytesOf "/c.p"⟩] ∧
      ∃ before root after, [.ofText ".", .ofText "v//", .ofText "./v"] = before ++ root :: after ∧
        Selects mixedLook mixedFilter root (.ofText "v//b.p") ∧
        (∀ q, Selects mixedLook mixedFilter root q → q.key = (Path.ofText "v//b.p").key →
          q = .ofText "v//b.p") ∧
        ∀ r ∈ before, ∀ q, Selects mixedLook mixedFilter r q →
          q.key ≠ (Path.ofText "v//b.p").key := by
  have ho : ∀ root ∈ [Path.ofText ".", .ofText "v//", .ofText "./v"], OrderlyAt mixedLook root :=
    fun root _ node hl => Node.orderly_at? (by decide) hl
  have h : scan mixedLook mixedFilter [.ofText ".", .ofText "v//", .ofText "./v"] =
      .ok [.ofText "./a.p", .ofText "v//b.p", ⟨bytesOf "./" ++ [0xFE, 0x5C] ++ bytesOf "/c.p"⟩] := rfl
  exact ⟨h, (scan_first_spellings ho h).2.2.1 _ (by simp)⟩

end SyntaxSweep
