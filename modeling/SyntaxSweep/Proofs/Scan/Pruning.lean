import SyntaxSweep.Scan
import SyntaxSweep.Proofs.Disk.Tree
import SyntaxSweep.Proofs.Path.Shown

namespace SyntaxSweep

/-- Nothing that is admitted lies in a directory below the root that is pruned. -/
def Spares (root : Path) (prune admits : Path → Bool) : Prop :=
  ∀ names more, names ≠ [] → more ≠ [] → (∀ n ∈ names ++ more, Path.IsName n) →
    prune (root.below names) → admits (root.below (names ++ more)) = false

theorem holdsAny_of_prefix {s t : String} {patterns : List String} (hst : s.toList <+: t.toList)
    (h : holdsAny s patterns) : holdsAny t patterns := by
  obtain ⟨p, hp, hs⟩ := List.any_eq_true.1 h
  obtain ⟨r, hr⟩ := hst
  exact List.any_eq_true.2 ⟨p, hp, hr ▸ occursIn_append_right r hs⟩

theorem Filter.spares (f : Filter) (root : Path) :
    Spares root (f.prunes root) (f.admitsBelow root) := by
  intro names more hne hmore hn hp
  have hh := holdsAny_of_prefix (Path.textBelow_prefix root hne hmore hn) hp
  simp [admitsBelow, hh]

theorem spares_of_none (root : Path) (admits : Path → Bool) :
    Spares root (fun _ => false) admits := by
  intro names more _ _ _ hp
  cases hp

theorem filesIn_cons {prune : Path → Bool} {path : Path} {name : Bytes} {node : Node}
    {rest : List (Bytes × Node)} {files : List Path} :
    filesIn prune path ((name, node) :: rest) = .ok files ↔
      ∃ here more, (if node.isDirectory && prune (path.child name) then .ok []
          else filesOf prune (path.child name) node) = .ok here ∧
        filesIn prune path rest = .ok more ∧ files = here ++ more := by
  have hok (a : List Path) : (Except.ok (ε := Blocked) a = .ok files) ↔ files = a :=
    ⟨fun h => (Except.ok.inj h).symm, fun h => by rw [h]⟩
  by_cases hp : node.isDirectory && prune (path.child name)
  · cases hr : filesIn prune path rest <;>
      simp [filesIn, hp, hr, bind, Except.bind, pure, Except.pure, hok]
  · cases hn : filesOf prune (path.child name) node <;> cases hr : filesIn prune path rest <;>
      simp [filesIn, hp, hn, hr, bind, Except.bind, pure, Except.pure, hok]

theorem filesOf_directory {prune : Path → Bool} {path : Path} {readable : Bool}
    {entries : List (Bytes × Node)} {files : List Path} :
    filesOf prune path (.directory readable entries) = .ok files ↔
      path.bytes.length ≤ Disk.longestPath ∧ readable = true ∧
        filesIn prune path entries = .ok files := by
  rw [filesOf]
  by_cases hl : Disk.longestPath < path.bytes.length
  · simp [hl, Nat.not_le.2 hl]
  · cases readable <;> simp [hl, Nat.le_of_not_lt hl]

section Wanted

variable {root : Path} {prune admits : Path → Bool}

/-- The wanted files of a walk from a way below the root are those of the tree there. -/
def KeepsWanted (root : Path) (prune admits : Path → Bool) (node : Node) : Prop :=
  ∀ way, (∀ n ∈ way, Path.IsName n) → ∀ files, filesOf prune (root.below way) node = .ok files →
    files.filter admits = (node.fileNames.map fun l => root.below (way ++ l)).filter admits

theorem KeepsWanted.entry (hs : Spares root prune admits) {node : Node} (ho : node.orderly)
    (hk : KeepsWanted root prune admits node) {way : List Bytes} (hw : ∀ n ∈ way, Path.IsName n)
    {name : Bytes} (hname : Path.IsName name) {here : List Path}
    (h : (if node.isDirectory && prune ((root.below way).child name) then .ok []
      else filesOf prune ((root.below way).child name) node) = .ok here) :
    here.filter admits =
      (node.fileNames.map fun l => root.below (way ++ name :: l)).filter admits := by
  have hway : ∀ n ∈ way ++ [name], Path.IsName n := by
    simpa [or_imp, forall_and] using ⟨hw, hname⟩
  rw [show (root.below way).child name = root.below (way ++ [name]) from
    (root.below_append way [name]).symm] at h
  split at h
  · next hp =>
    obtain ⟨hd, hp⟩ := Bool.and_eq_true_iff.1 hp
    cases h
    symm
    simp only [List.filter_nil, List.filter_eq_nil_iff, List.forall_mem_map, Bool.not_eq_true]
    intro l hl
    have hn := Node.isName_of_mem_fileNames ho hl
    have hcut := hs (way ++ [name]) l (by simp) (Node.ne_nil_of_mem_fileNames hd hl)
      (by simpa [or_imp, forall_and] using ⟨hw, hname, hn⟩) hp
    simpa using hcut
  · simpa using hk (way ++ [name]) hway here h

theorem filter_filesIn (hs : Spares root prune admits) {entries : List (Bytes × Node)}
    (ho : Node.orderlyEntries entries) (hk : ∀ e ∈ entries, KeepsWanted root prune admits e.2)
    {way : List Bytes} (hw : ∀ n ∈ way, Path.IsName n) {files : List Path}
    (h : filesIn prune (root.below way) entries = .ok files) :
    files.filter admits =
      ((Node.entryFileNames entries).map fun l => root.below (way ++ l)).filter admits := by
  induction entries generalizing files with
  | nil => cases h; rfl
  | cons d rest ih =>
    obtain ⟨name, node⟩ := d
    obtain ⟨hname, -, hnode, hr⟩ := Node.orderlyEntries_cons.1 ho
    obtain ⟨here, more, hhere, hmore, rfl⟩ := filesIn_cons.1 h
    have hfirst := (hk (name, node) List.mem_cons_self).entry hs hnode hw hname hhere
    have hothers := ih hr (fun e he => hk e (List.mem_cons_of_mem _ he)) hmore
    simp only [Node.entryFileNames, List.map_append, List.filter_append, List.map_map, hfirst,
      hothers]
    rfl

theorem keepsWanted (hs : Spares root prune admits) {node : Node} (ho : node.orderly) :
    KeepsWanted root prune admits node := by
  induction node using Node.induct with
  | file =>
    intro way hw files h
    cases h
    simp [Node.fileNames]
  | link | special =>
    intro way hw files h
    cases h
    rfl
  | directory readable entries ih =>
    intro way hw files h
    exact filter_filesIn hs ho (fun e he => ih e he (Node.orderly_of_mem ho he).2) hw
      (filesOf_directory.1 h).2.2

theorem filter_filesOf (hs : Spares root prune admits) {node : Node} (ho : node.orderly)
    {files : List Path} (h : filesOf prune root node = .ok files) :
    files.filter admits = (node.fileNames.map root.below).filter admits :=
  keepsWanted hs ho [] (by simp) files h

end Wanted

theorem filesIn_of_unpruned (prune : Path → Bool) {entries : List (Bytes × Node)} {path : Path}
    (hn : ∀ e ∈ entries, ∀ path all, filesOf (fun _ => false) path e.2 = .ok all →
      ∃ files, filesOf prune path e.2 = .ok files)
    {all : List Path} (h : filesIn (fun _ => false) path entries = .ok all) :
    ∃ files, filesIn prune path entries = .ok files := by
  induction entries generalizing all with
  | nil => exact ⟨[], rfl⟩
  | cons d rest ih =>
    obtain ⟨name, node⟩ := d
    obtain ⟨here, more, hhere, hmore, -⟩ := filesIn_cons.1 h
    rw [Bool.and_false, if_neg Bool.false_ne_true] at hhere
    obtain ⟨first, hfirst⟩ := hn (name, node) List.mem_cons_self _ _ hhere
    obtain ⟨others, hothers⟩ := ih (fun e he => hn e (List.mem_cons_of_mem _ he)) hmore
    by_cases hp : node.isDirectory && prune (path.child name)
    · exact ⟨[] ++ others, filesIn_cons.2 ⟨[], others, if_pos hp, hothers, rfl⟩⟩
    · exact ⟨first ++ others,
        filesIn_cons.2 ⟨first, others, (if_neg hp).trans hfirst, hothers, rfl⟩⟩

theorem filesOf_of_unpruned (prune : Path → Bool) {node : Node} {path : Path} {all : List Path}
    (h : filesOf (fun _ => false) path node = .ok all) :
    ∃ files, filesOf prune path node = .ok files := by
  induction node using Node.induct generalizing path all with
  | file => exact ⟨_, rfl⟩
  | link => exact ⟨_, rfl⟩
  | special => exact ⟨_, rfl⟩
  | directory readable entries ih =>
    obtain ⟨hl, hread, h⟩ := filesOf_directory.1 h
    obtain ⟨files, hf⟩ := filesIn_of_unpruned prune (fun e he _ _ => ih e he) h
    exact ⟨files, filesOf_directory.2 ⟨hl, hread, hf⟩⟩

end SyntaxSweep
