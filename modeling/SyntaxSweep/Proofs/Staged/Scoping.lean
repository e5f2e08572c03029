import SyntaxSweep.Staged
import SyntaxSweep.Proofs.Scan.Faults
import SyntaxSweep.Proofs.Text.Utf8

namespace SyntaxSweep

section Scoping

variable {f : Filter} {isFile : Path → Bool} {top : Path} {names : List String}

def Filter.stages (f : Filter) (isFile : Path → Bool) (top : Path) (name : String) : Bool :=
  f.admits (besideHere name) && isFile (top.join (.ofText name))

theorem scopeStaged_concat (names : List String) (name : String) :
    scopeStaged f isFile top (names ++ [name]) =
      if f.stages isFile top name ∧ (top.join (.ofText name)).components ∉
          (scopeStaged f isFile top names).map Path.components then
        scopeStaged f isFile top names ++ [top.join (.ofText name)]
      else scopeStaged f isFile top names := by
  simp only [scopeStaged, List.foldl_append, List.foldl_cons, List.foldl_nil, Filter.stages,
    Bool.and_eq_true, and_assoc]

theorem scopeStaged_filter {p : String → Bool}
    (h : ∀ name ∈ names, f.stages isFile top name → p name) :
    scopeStaged f isFile top (names.filter p) = scopeStaged f isFile top names := by
  induction names using List.reverseRecOn with
  | nil => rfl
  | append_singleton l name ih =>
    have hl := ih fun m hm => h m (List.mem_append_left _ hm)
    have hname := h name (by simp)
    by_cases hp : p name
    · rw [List.filter_append, List.filter_cons_of_pos hp, List.filter_nil, scopeStaged_concat,
        scopeStaged_concat, hl]
    · have hs : ¬f.stages isFile top name := fun hs => hp (hname hs)
      rw [List.filter_append, List.filter_cons_of_neg hp, List.filter_nil, List.append_nil,
        scopeStaged_concat, hl, if_neg fun hand => hs hand.1]

theorem scopeStaged_of_nodup (h : ∀ name ∈ names, f.stages isFile top name)
    (hn : (names.map fun name => (top.join (.ofText name)).components).Nodup) :
    scopeStaged f isFile top names = names.map fun name => top.join (.ofText name) := by
  induction names using List.reverseRecOn with
  | nil => rfl
  | append_singleton l name ih =>
    rw [List.map_append, List.nodup_append] at hn
    obtain ⟨hl, -, hnew⟩ := hn
    have hkept := ih (fun m hm => h m (List.mem_append_left _ hm)) hl
    rw [scopeStaged_concat, hkept, if_pos, List.map_append]
    · rfl
    · refine ⟨h name (by simp), fun hmem => ?_⟩
      rw [List.map_map] at hmem
      exact hnew _ hmem _ (List.mem_singleton_self _) rfl

end Scoping

section Names

/-- The text is the names of a way, with slashes between them. -/
structure Spells (name : String) (way : List Bytes) : Prop where
  bytes_eq : bytesOf name = joined Path.slash way
  ne_nil : way ≠ []
  isName : ∀ n ∈ way, Path.IsName n

variable {name : String} {way : List Bytes}

theorem Spells.join_eq (h : Spells name way) (top : Path) :
    top.join (.ofText name) = top.below way := by
  rw [Path.ofText, h.bytes_eq]
  exact top.join_joined h.ne_nil h.isName

theorem Spells.beside_eq (h : Spells name way) :
    besideHere name = (Path.ofText ".").below way :=
  h.join_eq _

theorem Spells.bytes_beside (h : Spells name way) :
    besideHere name = ⟨joined Path.slash ([Path.dot] :: way)⟩ := by
  have hseg : (besideHere name).segments = [Path.dot] :: way := by
    rw [h.beside_eq, Path.segments_below _ h.ne_nil h.isName]
    rfl
  have hj := (besideHere name).joined_segments
  rw [hseg] at hj
  rw [hj]

theorem Spells.ofText_eq (h : Spells name way) : Path.ofText ("./" ++ name) = besideHere name := by
  rw [h.bytes_beside, joined_cons _ h.ne_nil, ← h.bytes_eq, Path.ofText, bytesOf,
    String.toList_append, Utf8.encode_append]
  rfl

theorem Spells.slashText_eq (h : Spells name way) :
    (besideHere name).slashText = (Path.ofText ".").textBelow (besideHere name) := by
  have hne : way.map Path.shownName ≠ [] := by simpa using h.ne_nil
  apply String.toList_injective
  rw [h.beside_eq, Path.textBelow_below _ h.ne_nil h.isName, ← h.beside_eq, h.bytes_beside,
    Path.slashText_joined, List.map_cons, joined_cons _ hne]
  rfl

theorem Spells.admits_eq (h : Spells name way) (f : Filter) :
    f.admits (besideHere name) = f.admitsBelow (.ofText ".") (besideHere name) := by
  rw [Filter.admits, Filter.admitsBelow, h.slashText_eq]

theorem nodup_places {names : List String} (hnames : ∀ name ∈ names, ∃ way, Spells name way)
    (hn : names.Nodup) (top : Path) :
    (names.map fun name => (top.join (.ofText name)).components).Nodup := by
  apply hn.map_on
  intro m hm n hn' hmn
  obtain ⟨way, hway⟩ := hnames m hm
  obtain ⟨way', hway'⟩ := hnames n hn'
  rw [hway.join_eq, hway'.join_eq] at hmn
  have hsame := top.below_inj hway.isName hway'.isName hmn
  exact bytesOf_inj (by rw [hway.bytes_eq, hway'.bytes_eq, hsame])

end Names

section Scanned

variable {look : Path → Option Node} {f : Filter} {tree : Node} {files : List Path}
  {top : Path} {isFile : Path → Bool}

theorem mem_scan_root {root : Path} (ho : OrderlyAt look root)
    (h : scan look f [root] = .ok files) {p : Path} : p ∈ files ↔ Selects look f root p := by
  rw [eq_wanted_of_scan ho h, mem_wanted ho]

theorem Spells.stages_eq {name : String} {way : List Bytes} (h : Spells name way)
    (hlook : look (.ofText ".") = some tree) (ho : tree.orderly)
    (hfiles : scan look f [.ofText "."] = .ok files)
    (hfile : isFile (top.below way) ↔ tree.HasFile way) :
    f.stages isFile top name = decide (Path.ofText ("./" ++ name) ∈ files) := by
  rw [Bool.eq_iff_iff, decide_eq_true_iff, h.ofText_eq,
    mem_scan_root (orderlyAt_of_look hlook ho) hfiles, Filter.stages, Bool.and_eq_true, h.join_eq,
    hfile, h.admits_eq]
  constructor
  · rintro ⟨hadmits, hhas⟩
    exact ⟨tree, way, hlook, hhas, h.beside_eq, hadmits⟩
  · rintro ⟨node, way', hnode, hhas, hpath, hadmits⟩
    cases hlook.symm.trans hnode
    obtain ⟨data, executable, hat⟩ := hhas
    have hsame : way = way' := by
      apply Path.below_inj (.ofText ".") h.isName (Node.isName_of_at? ho hat)
      rw [← hpath, h.beside_eq]
    rw [hsame]
    exact ⟨hadmits, data, executable, hat⟩

/-- Names staged in a repository, each once, and a scan from the top of it, of which all directories can be
read by paths that are not too long: the names that are kept are those whose files the scan finds. -/
theorem staged_agrees_with_scan (hlook : look (.ofText ".") = some tree) (ho : tree.orderly)
    (hread : ∀ way directory, f.Reaches tree way directory →
      directory.obstacle? ((Path.ofText ".").below way) = none)
    (hfile : ∀ way, (∀ n ∈ way, Path.IsName n) → (isFile (top.below way) ↔ tree.HasFile way))
    {names : List String} (hnames : ∀ name ∈ names, ∃ way, Spells name way) (hn : names.Nodup) :
    ∃ files, scan look f [.ofText "."] = .ok files ∧
      scopeStaged f isFile top names =
        (names.filter fun name => Path.ofText ("./" ++ name) ∈ files).map fun name =>
          top.join (.ofText name) := by
  have hroots : ∀ root ∈ [Path.ofText "."], OrderlyAt look root :=
    List.forall_mem_singleton.2 (orderlyAt_of_look hlook ho)
  have hreads : ReadsAll look f (.ofText ".") := ⟨tree, hlook, hread⟩
  obtain ⟨files, hfiles⟩ := (scan_ok_iff hroots).2 (List.forall_mem_singleton.2 hreads)
  refine ⟨files, hfiles, ?_⟩
  have hstages : ∀ name ∈ names, f.stages isFile top name =
      decide (Path.ofText ("./" ++ name) ∈ files) := by
    intro name hname
    obtain ⟨way, hway⟩ := hnames name hname
    exact hway.stages_eq hlook ho hfiles (hfile way hway.isName)
  have hfilter : names.filter (f.stages isFile top) =
      names.filter fun name => Path.ofText ("./" ++ name) ∈ files := List.filter_congr hstages
  rw [← hfilter, ← scopeStaged_filter fun name _ hname => hname]
  apply scopeStaged_of_nodup
  · intro name hname
    exact (List.mem_filter.1 hname).2
  · apply nodup_places _ (hn.filter _)
    intro name hname
    exact hnames name (List.mem_filter.1 hname).1

end Scanned

/-- A regular file of the tree, which stands at `top`. -/
def Node.isFileBelow (tree : Node) (top p : Path) : Bool :=
  tree.fileNames.any fun way => (top.below way).components = p.components

theorem Node.isFileBelow_iff {tree : Node} (ho : tree.orderly) (top : Path) {way : List Bytes}
    (h : ∀ n ∈ way, Path.IsName n) : tree.isFileBelow top (top.below way) ↔ tree.HasFile way := by
  rw [isFileBelow, List.any_eq_true, ← mem_fileNames ho]
  constructor
  · rintro ⟨other, hother, hsame⟩
    have heq := top.below_inj (isName_of_mem_fileNames ho hother) h (of_decide_eq_true hsame)
    rw [← heq]
    exact hother
  · intro hway
    exact ⟨way, hway, decide_eq_true rfl⟩

/-- A tree with a directory to leave out at its top and another one deeper, and with a backslash. -/
def stagedTree : Node :=
  .directory true [
    (bytesOf "a.p", .file [] false),
    (bytesOf "e\\", .directory true [(bytesOf "c.p", .file [] false),
      (bytesOf "v", .directory true [(bytesOf "d.p", .file [] false)])]),
    (bytesOf "v", .directory true [(bytesOf "b.p", .file [] false)])]

theorem staged_stagedTree :
    scan (fun _ => some stagedTree) ⟨["p"], ["/v/"]⟩ [.ofText "."] =
        .ok [.ofText "./a.p", .ofText "./e\\/c.p"] ∧
      scopeStaged ⟨["p"], ["/v/"]⟩ (stagedTree.isFileBelow (.ofText "/r")) (.ofText "/r")
          ["v/b.p", "e\\/c.p", "e\\/v/d.p", "a.p"] =
        [.ofText "/r/e\\/c.p", .ofText "/r/a.p"] := by
  have ho : stagedTree.orderly := by decide
  have hscan : scan (fun _ => some stagedTree) ⟨["p"], ["/v/"]⟩ [.ofText "."] =
      .ok [.ofText "./a.p", .ofText "./e\\/c.p"] := rfl
  have hroots : ∀ root ∈ [Path.ofText "."], OrderlyAt (fun _ => some stagedTree) root :=
    List.forall_mem_singleton.2 (orderlyAt_of_look rfl ho)
  obtain ⟨tree, htree, hread⟩ := (scan_ok_iff hroots).1 ⟨_, hscan⟩ _ (List.mem_singleton_self _)
  cases htree
  obtain ⟨files, hfiles, hstaged⟩ := @staged_agrees_with_scan (fun _ => some stagedTree)
    ⟨["p"], ["/v/"]⟩ stagedTree (.ofText "/r") (stagedTree.isFileBelow (.ofText "/r")) rfl ho hread
    (fun way h => Node.isFileBelow_iff ho _ h) ["v/b.p", "e\\/c.p", "e\\/v/d.p", "a.p"]
    (by
      simp only [List.forall_mem_cons]
      exact ⟨⟨[bytesOf "v", bytesOf "b.p"], by decide, by decide, by decide⟩,
        ⟨[bytesOf "e\\", bytesOf "c.p"], by decide, by decide, by decide⟩,
        ⟨[bytesOf "e\\", bytesOf "v", bytesOf "d.p"], by decide, by decide, by decide⟩,
        ⟨[bytesOf "a.p"], by decide, by decide, by decide⟩, nofun⟩)
    (by decide)
  refine ⟨hscan, hstaged.trans ?_⟩
  cases hscan.symm.trans hfiles
  rfl

end SyntaxSweep
