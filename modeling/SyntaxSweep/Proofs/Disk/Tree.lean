import SyntaxSweep.Disk.Node
import SyntaxSweep.Proofs.Path.Below
import SyntaxSweep.Proofs.Path.Order

namespace SyntaxSweep

namespace Node

/-- Induction on a tree: what holds of all entries of a directory is passed on to the directory. -/
@[elab_as_elim]
theorem induct {motive : Node → Prop}
    (file : ∀ data executable, motive (.file data executable))
    (directory : ∀ readable entries, (∀ e ∈ entries, motive e.2) →
      motive (.directory readable entries))
    (link : ∀ target, motive (.link target)) (special : motive .special) : ∀ node, motive node
  | .file data executable => file data executable
  | .link target => link target
  | .special => special
  | .directory readable entries =>
    directory readable entries fun e he =>
      have : sizeOf e.2 < sizeOf entries :=
        Nat.lt_trans (by cases e; simp +arith) (List.sizeOf_lt_of_mem he)
      induct file directory link special e.2

mutual

/-- Every directory of the tree has names for its entries, in strict order. -/
def orderly : Node → Bool
  | .file _ _ | .link _ | .special => true
  | .directory _ entries => orderlyEntries entries

def orderlyEntries : List (Bytes × Node) → Bool
  | [] => true
  | (name, node) :: rest =>
    decide (Path.IsName name) && rest.all (fun e => decide (name < e.1)) && node.orderly &&
      orderlyEntries rest

end

mutual

/-- The names that lead to the regular files of a tree, in the order of a walk. -/
def fileNames : Node → List (List Bytes)
  | .file _ _ => [[]]
  | .link _ | .special => []
  | .directory _ entries => entryFileNames entries

def entryFileNames : List (Bytes × Node) → List (List Bytes)
  | [] => []
  | (name, node) :: rest => node.fileNames.map (name :: ·) ++ entryFileNames rest

end

def HasFile (node : Node) (names : List Bytes) : Prop :=
  ∃ data executable, node.at? names = some (.file data executable)

theorem orderlyEntries_cons {name : Bytes} {node : Node} {rest : List (Bytes × Node)} :
    orderlyEntries ((name, node) :: rest) ↔
      Path.IsName name ∧ (∀ e ∈ rest, name < e.1) ∧ node.orderly ∧ orderlyEntries rest := by
  simp only [orderlyEntries, Bool.and_eq_true, decide_eq_true_eq, List.all_eq_true, and_assoc]

theorem orderly_of_mem {entries : List (Bytes × Node)} (h : orderlyEntries entries)
    {e : Bytes × Node} (he : e ∈ entries) : Path.IsName e.1 ∧ e.2.orderly := by
  induction entries with
  | nil => cases he
  | cons d rest ih =>
    obtain ⟨hn, -, hd, hr⟩ := orderlyEntries_cons.1 h
    rcases List.mem_cons.1 he with rfl | he
    · exact ⟨hn, hd⟩
    · exact ih hr he

theorem named?_eq_some {entries : List (Bytes × Node)} (h : orderlyEntries entries) {name : Bytes}
    {node : Node} : named? name entries = some node ↔ (name, node) ∈ entries := by
  induction entries with
  | nil => simp [named?]
  | cons d rest ih =>
    obtain ⟨m, other⟩ := d
    obtain ⟨-, hlt, -, hr⟩ := orderlyEntries_cons.1 h
    rw [named?, List.mem_cons]
    by_cases hm : m = name
    · subst hm
      have hmem : (m, node) ∉ rest := fun hin => List.lt_irrefl m (hlt _ hin)
      simp [hmem, eq_comm]
    · rw [if_neg hm, ih hr]
      simp [Ne.symm hm]

theorem orderly_at? {node child : Node} (h : node.orderly) {names : List Bytes}
    (hc : node.at? names = some child) : child.orderly := by
  induction names generalizing node with
  | nil => cases hc; exact h
  | cons n rest ih =>
    obtain ⟨next, hn, hrest⟩ := Option.bind_eq_some_iff.1 hc
    cases node with
    | directory readable entries =>
      exact ih (orderly_of_mem h ((named?_eq_some h).1 hn)).2 hrest
    | _ => cases hn

theorem isName_of_at? {node child : Node} (h : node.orderly) {names : List Bytes}
    (hc : node.at? names = some child) : ∀ n ∈ names, Path.IsName n := by
  induction names generalizing node with
  | nil => exact nofun
  | cons n rest ih =>
    obtain ⟨next, hn, hrest⟩ := Option.bind_eq_some_iff.1 hc
    cases node with
    | directory readable entries =>
      obtain ⟨hname, hnext⟩ := orderly_of_mem h ((named?_eq_some h).1 hn)
      exact List.forall_mem_cons.2 ⟨hname, ih hnext hrest⟩
    | _ => cases hn

theorem mem_entryFileNames {entries : List (Bytes × Node)} {names : List Bytes} :
    names ∈ entryFileNames entries ↔
      ∃ e ∈ entries, ∃ rest ∈ e.2.fileNames, names = e.1 :: rest := by
  induction entries with
  | nil => simp [entryFileNames]
  | cons d others ih => simp [entryFileNames, ih, eq_comm]

theorem mem_fileNames {node : Node} (h : node.orderly) {names : List Bytes} :
    names ∈ node.fileNames ↔ node.HasFile names := by
  induction names generalizing node with
  | nil =>
    cases node with
    | directory readable entries => simp [fileNames, HasFile, at?, mem_entryFileNames]
    | _ => simp [fileNames, HasFile, at?]
  | cons n rest ih =>
    cases node with
    | directory readable entries =>
      have hat : HasFile (.directory readable entries) (n :: rest) ↔
          ∃ child, named? n entries = some child ∧ child.HasFile rest := by
        simp only [HasFile, at?, child?, Option.bind_eq_some_iff]
        constructor
        · rintro ⟨data, x, child, hc, hf⟩
          exact ⟨child, hc, data, x, hf⟩
        · rintro ⟨child, hc, data, x, hf⟩
          exact ⟨data, x, child, hc, hf⟩
      rw [hat, fileNames, mem_entryFileNames]
      constructor
      · rintro ⟨⟨m, child⟩, he, more, hmore, hn⟩
        cases hn
        exact ⟨child, (named?_eq_some h).2 he, (ih (orderly_of_mem h he).2).1 hmore⟩
      · rintro ⟨child, hc, hf⟩
        have he := (named?_eq_some h).1 hc
        exact ⟨(n, child), he, rest, (ih (orderly_of_mem h he).2).2 hf, rfl⟩
    | _ => simp [fileNames, HasFile, at?, child?]

theorem isName_of_mem_fileNames {node : Node} (h : node.orderly) {names : List Bytes}
    (hn : names ∈ node.fileNames) : ∀ n ∈ names, Path.IsName n := by
  induction names generalizing node with
  | nil => simp
  | cons n rest ih =>
    cases node with
    | directory readable entries =>
      obtain ⟨e, he, more, hmore, hcons⟩ := mem_entryFileNames.1 hn
      cases hcons
      obtain ⟨hname, hchild⟩ := orderly_of_mem h he
      exact List.forall_mem_cons.2 ⟨hname, ih hchild hmore⟩
    | _ => simp [fileNames] at hn

theorem ne_nil_of_mem_fileNames {node : Node} (h : node.isDirectory) {names : List Bytes}
    (hn : names ∈ node.fileNames) : names ≠ [] := by
  cases node with
  | directory readable entries =>
    obtain ⟨e, -, rest, -, rfl⟩ := mem_entryFileNames.1 hn
    exact List.cons_ne_nil _ _
  | _ => cases h

/-- The ways stand in the order of their names, so none is listed twice. -/
theorem pairwise_fileNames {node : Node} (h : node.orderly) :
    node.fileNames.Pairwise (List.Lex (· < ·)) := by
  induction node using Node.induct with
  | file => simp [fileNames]
  | link => simp [fileNames]
  | special => simp [fileNames]
  | directory readable entries ih =>
    change (entryFileNames entries).Pairwise _
    change orderlyEntries entries at h
    induction entries with
    | nil => simp [entryFileNames]
    | cons d rest ihr =>
      obtain ⟨name, node⟩ := d
      obtain ⟨-, hlt, hnode, hr⟩ := orderlyEntries_cons.1 h
      have hfirst := ih (name, node) List.mem_cons_self hnode
      rw [entryFileNames, List.pairwise_append]
      refine ⟨hfirst.map _ fun _ _ => .cons, ihr (fun e he => ih e (List.mem_cons_of_mem _ he)) hr, ?_⟩
      intro l hl m hm
      obtain ⟨more, -, rfl⟩ := List.mem_map.1 hl
      obtain ⟨e, he, others, -, rfl⟩ := mem_entryFileNames.1 hm
      exact .rel (hlt e he)

theorem pairwise_below (root : Path) {node : Node} (h : node.orderly) :
    (node.fileNames.map root.below).Pairwise fun p q => keyBefore p.key q.key := by
  rw [List.pairwise_map]
  refine (pairwise_fileNames h).imp_of_mem fun {l m} hl hm hlt => ?_
  rw [Path.key_below root (isName_of_mem_fileNames h hl),
    Path.key_below root (isName_of_mem_fileNames h hm)]
  exact keyBefore_append_left root.key (keyBefore_names hlt)

end Node

end SyntaxSweep
