import SyntaxSweep.Proofs.Scan.Faults

namespace SyntaxSweep

namespace Path

theorem textBelow_moved (root root' : Path) {way : List Bytes} (hne : way ≠ [])
    (h : ∀ n ∈ way, IsName n) :
    root.textBelow (root.below way) = root'.textBelow (root'.below way) := by
  apply String.toList_injective
  rw [textBelow_below root hne h, textBelow_below root' hne h]

theorem fileName?_below (root : Path) {way : List Bytes} (hne : way ≠ []) (h : ∀ n ∈ way, IsName n) :
    (root.below way).fileName? = way.getLast? := by
  obtain ⟨before, n, rfl⟩ := (List.eq_nil_or_concat way).resolve_left hne
  rw [List.concat_eq_append] at h ⊢
  have hseg : (root.below (before ++ [n])).segments = (root.stem ++ before) ++ [n] := by
    rw [segments_below root (by simp) h, List.append_assoc]
  rw [fileName?_of_segments _ hseg (h n (by simp)), List.getLast?_concat]

end Path

theorem Filter.admitsBelow_moved (f : Filter) (root root' : Path) {way : List Bytes} (hne : way ≠ [])
    (h : ∀ n ∈ way, Path.IsName n) :
    f.admitsBelow root (root.below way) = f.admitsBelow root' (root'.below way) := by
  rw [admitsBelow, admitsBelow, admitsName, admitsName, Path.fileName?_below root hne h,
    Path.fileName?_below root' hne h, Path.textBelow_moved root root' hne h]

def Path.IsTooLong (p : Path) : Prop :=
  Disk.longestPath < p.bytes.length

namespace Node

variable {node : Node} {p q : Path} {cause : IoProblem}

theorem obstacle_of_moved (hp : node.obstacle? p = some cause) (hq : node.obstacle? q = none) :
    cause = .nameTooLong ∧ p.IsTooLong ∧ ¬q.IsTooLong := by
  cases node with
  | directory readable entries =>
    rw [obstacle?] at hp hq
    split at hq
    · cases hq
    · next hshort =>
      split at hq
      · next hreadable =>
        rw [if_pos hreadable] at hp
        split at hp
        · next hlong =>
          cases hp
          exact ⟨rfl, hlong, hshort⟩
        · cases hp
      · cases hq
  | _ => cases hp

end Node

section Moved

variable {look look' : Path → Option Node} {f : Filter} {root root' : Path} {tree : Node}

def wantedWays (f : Filter) (root : Path) (tree : Node) : List (List Bytes) :=
  tree.fileNames.filter fun way => f.admitsBelow root (root.below way)

theorem wanted_eq_map (hl : look root = some tree) :
    wanted look f root = (wantedWays f root tree).map root.below := by
  rw [wanted, hl, wantedWays]
  exact List.filter_map

theorem wantedWays_moved (ho : tree.orderly) (hd : tree.isDirectory) (root root' : Path) :
    wantedWays f root tree = wantedWays f root' tree := by
  apply List.filter_congr
  intro way hway
  exact f.admitsBelow_moved root root' (Node.ne_nil_of_mem_fileNames hd hway)
    (Node.isName_of_mem_fileNames ho hway)

theorem scan_root_error_iff (ho : OrderlyAt look root) {e : Failure} :
    scan look f [root] = .error e ↔ Fault look f root e := by
  rw [scan_error_iff (List.forall_mem_singleton.2 ho)]
  constructor
  · rintro ⟨before, r, after, hroots, -, hfault⟩
    obtain ⟨rfl, hrest⟩ | ⟨more, rfl, hrest⟩ := List.cons_eq_append_iff.1 hroots
    · cases hrest
      exact hfault
    · simp at hrest
  · intro hfault
    exact ⟨[], root, [], rfl, nofun, hfault⟩

theorem exists_way_of_fault (hl : look root = some tree) {e : Failure} (h : Fault look f root e) :
    ∃ way directory cause, e = .traversal root (root.below way) cause ∧
      f.Reaches tree way directory ∧ directory.obstacle? (root.below way) = some cause ∧
      ∀ other directory', f.Reaches tree other directory' →
        directory'.obstacle? (root.below other) ≠ none → other = way ∨ List.Lex (· < ·) way other := by
  cases h with
  | missing hnone => cases hnone.symm.trans hl
  | unread hroot hreach hcause hfirst =>
    cases hroot.symm.trans hl
    exact ⟨_, _, _, rfl, hreach, hcause, hfirst⟩

theorem reads_of_scan (hl : look root = some tree) (ho : OrderlyAt look root) {files : List Path}
    (h : scan look f [root] = .ok files) {way : List Bytes} {directory : Node}
    (hreach : f.Reaches tree way directory) : directory.obstacle? (root.below way) = none := by
  obtain ⟨node, hnode, hreads⟩ :=
    (scan_ok_iff (List.forall_mem_singleton.2 ho)).1 ⟨files, h⟩ root (List.mem_singleton_self root)
  cases hl.symm.trans hnode
  exact hreads way directory hreach

/-- The scan from one root fails at a directory whose path from this root is too long, while it can be
opened by its path from the other root. -/
def FailsForLength (look : Path → Option Node) (f : Filter) (root root' : Path) : Prop :=
  ∃ way, scan look f [root] = .error (.traversal root (root.below way) .nameTooLong) ∧
    (root.below way).IsTooLong ∧ ¬(root'.below way).IsTooLong

theorem failsForLength_of_fault (hl : look root = some tree) (ho : tree.orderly) {way : List Bytes}
    {directory : Node} {cause : IoProblem}
    (h : Fault look f root (.traversal root (root.below way) cause))
    (hc : directory.obstacle? (root.below way) = some cause)
    (hc' : directory.obstacle? (root'.below way) = none) : FailsForLength look f root root' := by
  obtain ⟨rfl, hlong, hshort⟩ := Node.obstacle_of_moved hc hc'
  exact ⟨way, (scan_root_error_iff (orderlyAt_of_look hl ho)).2 h, hlong, hshort⟩

/-- One tree scanned from two roots. Both scans find the files at the same ways below their roots, in the
same order, or both fail at the same way below them; unless one of them fails at a directory whose path
is too long from its root and not too long from the other. -/
theorem scan_moved (hl : look root = some tree) (hl' : look' root' = some tree) (ho : tree.orderly)
    (hd : tree.isDirectory) :
    (∃ ways : List (List Bytes), scan look f [root] = .ok (ways.map root.below) ∧
        scan look' f [root'] = .ok (ways.map root'.below) ∧
        ∀ way ∈ ways, (root.below way).stripPrefix? root = some ⟨joined Path.slash way⟩ ∧
          (root'.below way).stripPrefix? root' = some ⟨joined Path.slash way⟩) ∨
      (∃ way cause cause',
        scan look f [root] = .error (.traversal root (root.below way) cause) ∧
          scan look' f [root'] = .error (.traversal root' (root'.below way) cause')) ∨
      FailsForLength look f root root' ∨ FailsForLength look' f root' root := by
  have hat : OrderlyAt look root := orderlyAt_of_look hl ho
  have hat' : OrderlyAt look' root' := orderlyAt_of_look hl' ho
  cases h : scan look f [root] with
  | ok files =>
    cases h' : scan look' f [root'] with
    | ok files' =>
      have hways : wantedWays f root tree = wantedWays f root' tree :=
        wantedWays_moved ho hd root root'
      refine .inl ⟨wantedWays f root tree, ?_, ?_, fun way hway => ?_⟩
      · rw [eq_wanted_of_scan hat h, wanted_eq_map hl]
      · rw [eq_wanted_of_scan hat' h', wanted_eq_map hl', hways]
      · have hmem : way ∈ tree.fileNames := (List.mem_filter.1 hway).1
        have hne := Node.ne_nil_of_mem_fileNames hd hmem
        have hname := Node.isName_of_mem_fileNames ho hmem
        exact ⟨Path.stripPrefix_below root hne hname, Path.stripPrefix_below root' hne hname⟩
    | error e' =>
      have hfault := (scan_root_error_iff hat').1 h'
      obtain ⟨way, directory, cause, rfl, hreach, hc, -⟩ := exists_way_of_fault hl' hfault
      have hnone := reads_of_scan hl hat h hreach
      exact .inr (.inr (.inr (failsForLength_of_fault hl' ho hfault hc hnone)))
  | error e =>
    have hfault := (scan_root_error_iff hat).1 h
    obtain ⟨way, directory, cause, rfl, hreach, hc, hfirst⟩ := exists_way_of_fault hl hfault
    cases h' : scan look' f [root'] with
    | ok files' =>
      have hnone := reads_of_scan hl' hat' h' hreach
      exact .inr (.inr (.inl (failsForLength_of_fault hl ho hfault hc hnone)))
    | error e' =>
      have hfault' := (scan_root_error_iff hat').1 h'
      obtain ⟨way', directory', cause', rfl, hreach', hc', hfirst'⟩ :=
        exists_way_of_fault hl' hfault'
      by_cases hway : way = way'
      · subst hway
        exact .inr (.inl ⟨way, cause, cause', rfl, rfl⟩)
      -- Each of the two ways would come before the other one if both could not be read from both roots.
      · by_cases hnone : directory.obstacle? (root'.below way) = none
        · exact .inr (.inr (.inl (failsForLength_of_fault hl ho hfault hc hnone)))
        · have hlt' := (hfirst' way directory hreach hnone).resolve_left hway
          by_cases hnone' : directory'.obstacle? (root.below way') = none
          · exact .inr (.inr (.inr (failsForLength_of_fault hl' ho hfault' hc' hnone')))
          · have hlt := (hfirst way' directory' hreach' hnone').resolve_left (Ne.symm hway)
            exact absurd hlt (List.lex_asymm (fun hab => List.lt_asymm hab) hlt')

end Moved

/-- A tree with a directory to leave out, and one named like a part of the root's path. -/
def vendorTree : Node :=
  .directory true [
    (bytesOf "core", .directory true [(bytesOf "a.p", .file [] false)]),
    (bytesOf "src", .directory true [(bytesOf "b.p", .file [] false), (bytesOf "c.q", .special)])]

theorem scan_vendorTree :
    ∃ ways : List (List Bytes), ways.map (Path.ofText "/srv/core//").below =
        [.ofText "/srv/core//src/b.p"] ∧
      scan (fun _ => some vendorTree) ⟨["p"], ["/core/"]⟩ [.ofText "/srv/core//"] =
        .ok (ways.map (Path.ofText "/srv/core//").below) ∧
      scan (fun _ => some vendorTree) ⟨["p"], ["/core/"]⟩ [.ofText "src/.."] =
        .ok (ways.map (Path.ofText "src/..").below) := by
  have h : scan (fun _ => some vendorTree) ⟨["p"], ["/core/"]⟩ [.ofText "/srv/core//"] =
      .ok [.ofText "/srv/core//src/b.p"] := rfl
  have h' : scan (fun _ => some vendorTree) ⟨["p"], ["/core/"]⟩ [.ofText "src/.."] =
      .ok [.ofText "src/../src/b.p"] := rfl
  have hmoved := @scan_moved (fun _ => some vendorTree) (fun _ => some vendorTree)
    ⟨["p"], ["/core/"]⟩ (.ofText "/srv/core//") (.ofText "src/..") vendorTree rfl rfl (by decide) rfl
  rcases hmoved with ⟨ways, hways, hways', -⟩ | ⟨_, _, _, herror, _⟩ | ⟨_, herror, _⟩ | ⟨_, herror, _⟩
  · exact ⟨ways, Except.ok.inj (hways.symm.trans h), hways, hways'⟩
  · cases herror.symm.trans h
  · cases herror.symm.trans h
  · cases herror.symm.trans h'

def farDisk : Disk where
  tree := .directory true [(bytesOf "directory1",
    .directory true [(bytesOf "b.php", .file (bytesOf "<?php\n") false)])]
  directory := []

/-- The working directory, spelled with slashes after its point. -/
def farRoot (slashes : Nat) : Path :=
  ⟨Path.dot :: List.replicate slashes Path.slash⟩

theorem length_farRoot (slashes : Nat) : (farRoot slashes).bytes.length = slashes + 1 := by
  rw [farRoot, List.length_cons, List.length_replicate]

theorem pieces_replicate (s : UInt8) (n : Nat) :
    pieces s (List.replicate n s) = List.replicate (n + 1) [] := by
  induction n with
  | zero => rfl
  | succ n ih => rw [List.replicate_succ, pieces, if_pos rfl, ih, ← List.replicate_succ]

theorem isFiller_of_mem_farRoot {slashes : Nat} :
    ∀ segment ∈ (farRoot slashes).segments, Path.isFiller segment := by
  have hsegments : (farRoot slashes).segments = [Path.dot] :: List.replicate slashes [] := by
    rw [Path.segments, farRoot, pieces, if_neg (by decide), pieces_replicate, List.replicate_succ]
  intro segment hsegment
  rw [hsegments] at hsegment
  rcases List.mem_cons.1 hsegment with rfl | hsegment
  · rfl
  · rw [List.eq_of_mem_replicate hsegment]
    rfl

theorem Disk.walk_fillers {tree : Node} {follow : Bool} {links : Nat} {place fillers : List Bytes}
    {readable : Bool} {entries : List (Bytes × Node)}
    (hplace : tree.at? place = some (.directory readable entries))
    (h : ∀ segment ∈ fillers, Path.isFiller segment) :
    walk tree follow links place fillers = .ok place := by
  induction fillers with
  | nil => rw [walk]
  | cons segment fillers ih =>
    obtain ⟨hsegment, hfillers⟩ := List.forall_mem_cons.1 h
    rw [walk, hplace]
    simp only [if_pos hsegment]
    exact ih hfillers

theorem root?_farRoot {slashes : Nat} (h : slashes < Disk.longestPath) :
    farDisk.root? (farRoot slashes) = some farDisk.tree := by
  have hplace (follow : Bool) : farDisk.place? follow (farRoot slashes) = .ok [] := by
    rw [Disk.place?, if_neg, if_neg, if_neg, Disk.walk_fillers rfl isFiller_of_mem_farRoot]
    · rfl
    · rw [length_farRoot]
      exact Nat.not_lt.2 h
    · exact List.cons_ne_nil _ _
    · simp [farRoot, Path.dot, Path.slash]
  have hnode (follow : Bool) : farDisk.node? follow (farRoot slashes) = .ok farDisk.tree := by
    rw [Disk.node?, hplace]
    rfl
  rw [Disk.root?, hnode, hnode]
  rfl

theorem farRoot_child (slashes : Nat) {name : Bytes} (h : Path.IsName name) :
    (farRoot (slashes + 1)).child name = ⟨(farRoot (slashes + 1)).bytes ++ name⟩ := by
  have habsolute := Path.isAbsolute_name_append h []
  rw [List.append_nil] at habsolute
  rw [Path.child, Path.join, if_neg, if_pos]
  · rw [farRoot, List.replicate_succ', ← List.cons_append, List.getLast?_concat]
  · simp [habsolute, farRoot]

/-- From one spelling of the working directory the file in it is found, and from another the directory
that holds it cannot be opened. -/
theorem far_root_fails :
    farDisk.root? (farRoot 0) = some farDisk.tree ∧
      farDisk.root? (farRoot 4089) = some farDisk.tree ∧
      scan farDisk.root? ⟨["php"], []⟩ [farRoot 0] = .ok [.ofText "./directory1/b.php"] ∧
      scan farDisk.root? ⟨["php"], []⟩ [farRoot 4089] =
        .error (.traversal (farRoot 4089) ((farRoot 4089).child (bytesOf "directory1"))
          .nameTooLong) := by
  have hnear : farDisk.root? (farRoot 0) = some farDisk.tree := root?_farRoot (by decide)
  have hfar : farDisk.root? (farRoot 4089) = some farDisk.tree := root?_farRoot (by decide)
  refine ⟨hnear, hfar, ?_, ?_⟩
  · simp only [scan, List.foldlM_cons, List.foldlM_nil, scanRoot, hnear]
    rfl
  · have hlong : Disk.longestPath < ((farRoot 4089).child (bytesOf "directory1")).bytes.length := by
      rw [farRoot_child _ (by decide), List.length_append, length_farRoot]
      decide
    have hwalk : filesOf (Filter.prunes ⟨["php"], []⟩ (farRoot 4089)) (farRoot 4089) farDisk.tree =
        .error ⟨(farRoot 4089).child (bytesOf "directory1"), .nameTooLong⟩ := by
      have hprunes (p : Path) : Filter.prunes ⟨["php"], []⟩ (farRoot 4089) p = false := rfl
      rw [farDisk, filesOf, if_neg (by rw [length_farRoot]; decide), if_pos rfl, filesIn, hprunes,
        filesOf, if_pos hlong]
      rfl
    rw [scan_root_error_iff (orderlyAt_of_look hfar (by decide)),
      ← scanRoot_error_iff (orderlyAt_of_look hfar (by decide)) [], scanRoot, hfar]
    simp only [hwalk]

end SyntaxSweep
