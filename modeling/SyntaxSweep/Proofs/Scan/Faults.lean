import SyntaxSweep.Proofs.Scan.Selection
import SyntaxSweep.Proofs.Steps

namespace SyntaxSweep

/-- Why a directory cannot be read by a path that leads to it. -/
def Node.obstacle? (path : Path) : Node → Option IoProblem
  | .directory readable _ =>
    if Disk.longestPath < path.bytes.length then some .nameTooLong
    else if readable then none
    else some .accessDenied
  | _ => none

section Walk

variable {prune : Path → Bool} {path : Path} {node : Node} {entries : List (Bytes × Node)}
  {name : Bytes} {way rest : List Bytes} {cause : IoProblem}

/-- The way leads to a directory that a walk comes to and cannot read. -/
def Stops (prune : Path → Bool) (path : Path) (node : Node) (way : List Bytes)
    (cause : IoProblem) : Prop :=
  (∃ directory, node.at? way = some directory ∧
      directory.obstacle? (path.below way) = some cause) ∧
    ∀ on, on ≠ [] → on <+: way → prune (path.below on) = false

def StopsIn (prune : Path → Bool) (path : Path) (entries : List (Bytes × Node)) (way : List Bytes)
    (cause : IoProblem) : Prop :=
  ∃ name node rest, (name, node) ∈ entries ∧ way = name :: rest ∧
    prune (path.child name) = false ∧ Stops prune (path.child name) node rest cause

/-- Of the ways that stop a walk, the first in the order of the walk: a directory comes before what
lies in it, and entries come by their names. -/
def IsFirstStop (stops : List Bytes → IoProblem → Prop) (way : List Bytes)
    (cause : IoProblem) : Prop :=
  stops way cause ∧
    ∀ other cause', stops other cause' → other = way ∨ List.Lex (· < ·) way other

def FailsFirst (walk : Except Blocked (List Path)) (path : Path)
    (stops : List Bytes → IoProblem → Prop) : Prop :=
  match walk with
  | .ok _ => ∀ way cause, ¬stops way cause
  | .error b => ∃ way cause, IsFirstStop stops way cause ∧ b = ⟨path.below way, cause⟩

theorem stops_nil : Stops prune path node [] cause ↔ node.obstacle? path = some cause := by
  constructor
  · rintro ⟨⟨directory, hd, hc⟩, -⟩
    cases hd
    exact hc
  · intro hc
    exact ⟨⟨node, rfl, hc⟩, fun on hne hon => absurd (List.prefix_nil.1 hon) hne⟩

theorem stops_cons (ho : Node.orderlyEntries entries) {readable : Bool} :
    Stops prune path (.directory readable entries) (name :: rest) cause ↔
      StopsIn prune path entries (name :: rest) cause := by
  constructor
  · rintro ⟨⟨directory, hd, hc⟩, hon⟩
    obtain ⟨child, hchild, hd⟩ := Option.bind_eq_some_iff.1 hd
    refine ⟨name, child, rest, (Node.named?_eq_some ho).1 hchild, rfl, ?_, ⟨directory, hd, hc⟩, ?_⟩
    · exact hon [name] (List.cons_ne_nil _ _) ⟨rest, rfl⟩
    · intro on _ hpre
      exact hon (name :: on) (List.cons_ne_nil _ _) (List.cons_prefix_cons.2 ⟨rfl, hpre⟩)
  · rintro ⟨_, child, _, hmem, hway, hp, ⟨directory, hd, hc⟩, hon⟩
    cases hway
    refine ⟨⟨directory, Option.bind_eq_some_iff.2 ⟨child, ?_, hd⟩, hc⟩, fun on hne hpre => ?_⟩
    · exact (Node.named?_eq_some ho).2 hmem
    · obtain ⟨first, more, rfl⟩ := List.exists_cons_of_ne_nil hne
      obtain ⟨rfl, hrest⟩ := List.cons_prefix_cons.1 hpre
      by_cases hmore : more = []
      · rw [hmore]
        exact hp
      · exact hon more hmore hrest

theorem stops_directory (ho : Node.orderlyEntries entries) {readable : Bool}
    (hc : (Node.directory readable entries).obstacle? path = none) :
    Stops prune path (.directory readable entries) way cause ↔
      StopsIn prune path entries way cause := by
  cases way with
  | nil =>
    rw [stops_nil, hc]
    constructor
    · nofun
    · rintro ⟨_, _, _, _, hway, _⟩
      cases hway
  | cons name rest => exact stops_cons ho

theorem isDirectory_of_stops (h : Stops prune path node way cause) : node.isDirectory = true := by
  obtain ⟨⟨directory, hd, hc⟩, -⟩ := h
  cases node with
  | directory readable entries => rfl
  | _ =>
    cases way with
    | nil =>
      cases hd
      cases hc
    | cons => cases hd

theorem FailsFirst.congr {walk : Except Blocked (List Path)}
    {stops stops' : List Bytes → IoProblem → Prop} (h : FailsFirst walk path stops)
    (hiff : ∀ way cause, stops' way cause ↔ stops way cause) : FailsFirst walk path stops' := by
  obtain rfl : stops' = stops := funext₂ fun way cause => propext (hiff way cause)
  exact h

theorem FailsFirst.map {walk : Except Blocked (List Path)}
    {stops : List Bytes → IoProblem → Prop} (h : FailsFirst walk path stops)
    (more : List Path → List Path) : FailsFirst (walk.map more) path stops := by
  cases walk with
  | ok files => exact h
  | error b => exact h

theorem filesOf_eq (prune : Path → Bool) (path : Path) (readable : Bool)
    (entries : List (Bytes × Node)) :
    filesOf prune path (.directory readable entries) =
      match (Node.directory readable entries).obstacle? path with
      | some cause => .error ⟨path, cause⟩
      | none => filesIn prune path entries := by
  rw [filesOf, Node.obstacle?]
  by_cases hl : Disk.longestPath < path.bytes.length
  · simp only [if_pos hl]
  · cases readable <;> simp [hl]

theorem filesIn_failsFirst (ho : Node.orderlyEntries entries)
    (hn : ∀ e ∈ entries, ∀ path, FailsFirst (filesOf prune path e.2) path (Stops prune path e.2)) :
    FailsFirst (filesIn prune path entries) path (StopsIn prune path entries) := by
  induction entries with
  | nil =>
    rintro way cause ⟨_, _, _, hmem, _⟩
    cases hmem
  | cons d others ih =>
    obtain ⟨name, node⟩ := d
    obtain ⟨-, hlt, -, hothers⟩ := Node.orderlyEntries_cons.1 ho
    have hrest := ih hothers fun e he => hn e (List.mem_cons_of_mem _ he)
    have hfirst := hn (name, node) List.mem_cons_self (path.child name)
    -- An entry that stops nothing leaves the walk to the entries after it.
    have hskip (hnone : prune (path.child name) = false →
          ∀ way cause, ¬Stops prune (path.child name) node way cause) (way : List Bytes)
        (cause : IoProblem) :
        StopsIn prune path ((name, node) :: others) way cause ↔ StopsIn prune path others way cause := by
      constructor
      · rintro ⟨m, other, rest, hmem, hway, hp, hs⟩
        rcases List.mem_cons.1 hmem with he | hmem
        · cases he
          exact absurd hs (hnone hp _ _)
        · exact ⟨m, other, rest, hmem, hway, hp, hs⟩
      · rintro ⟨m, other, rest, hmem, hs⟩
        exact ⟨m, other, rest, List.mem_cons_of_mem _ hmem, hs⟩
    by_cases hcut : node.isDirectory && prune (path.child name)
    · have hwalk : filesIn prune path ((name, node) :: others) =
          (filesIn prune path others).map ([] ++ ·) := by
        rw [filesIn, if_pos hcut]
        rfl
      rw [hwalk]
      refine (hrest.map _).congr (hskip fun hp => ?_)
      rw [hp, Bool.and_false] at hcut
      cases hcut
    · cases hnode : filesOf prune (path.child name) node with
      | ok here =>
        have hwalk : filesIn prune path ((name, node) :: others) =
            (filesIn prune path others).map (here ++ ·) := by
          rw [filesIn, if_neg hcut, hnode]
          rfl
        rw [hnode] at hfirst
        rw [hwalk]
        exact (hrest.map _).congr (hskip fun _ => hfirst)
      | error b =>
        have hwalk : filesIn prune path ((name, node) :: others) = .error b := by
          rw [filesIn, if_neg hcut, hnode]
          rfl
        rw [hnode] at hfirst
        rw [hwalk]
        obtain ⟨way, cause, ⟨hs, hbefore⟩, rfl⟩ := hfirst
        have hp : prune (path.child name) = false := by
          rw [isDirectory_of_stops hs, Bool.true_and] at hcut
          exact Bool.eq_false_iff.2 hcut
        refine ⟨name :: way, cause, ⟨⟨name, node, way, List.mem_cons_self, rfl, hp, hs⟩, ?_⟩, rfl⟩
        rintro other cause' ⟨m, node', rest, hmem, rfl, hp', hs'⟩
        rcases List.mem_cons.1 hmem with he | hmem
        · cases he
          rcases hbefore rest cause' hs' with rfl | hlex
          · exact .inl rfl
          · exact .inr (.cons hlex)
        · exact .inr (.rel (hlt (m, node') hmem))

/-- A walk fails just if it comes to a directory that it cannot read, and at the first one. -/
theorem filesOf_failsFirst (ho : node.orderly) :
    FailsFirst (filesOf prune path node) path (Stops prune path node) := by
  induction node using Node.induct generalizing path with
  | file | link | special =>
    intro way cause h
    cases isDirectory_of_stops h
  | directory readable entries ih =>
    change Node.orderlyEntries entries at ho
    rw [filesOf_eq]
    cases hc : (Node.directory readable entries).obstacle? path with
    | none =>
      have hin : FailsFirst (filesIn prune path entries) path (StopsIn prune path entries) :=
        filesIn_failsFirst ho fun e he _ => ih e he (Node.orderly_of_mem ho he).2
      exact hin.congr fun _ _ => stops_directory ho hc
    | some cause =>
      refine ⟨[], cause, ⟨stops_nil.2 hc, fun other cause' _ => ?_⟩, rfl⟩
      cases other with
      | nil => exact .inl rfl
      | cons => exact .inr .nil

end Walk

/-- The text of a directory below a root, `./` in front and a slash behind, holds an ignore pattern. -/
def Filter.Cuts (f : Filter) (way : List Bytes) : Prop :=
  ∃ pattern ∈ f.ignored,
    pattern.toList <:+: '.' :: '/' :: joined '/' (way.map Path.shownName) ++ ['/']

/-- A scan comes to the directory at the end of the way: neither it nor a directory on the way to it is
left out for an ignore pattern. The root itself never is. -/
structure Filter.Reaches (f : Filter) (tree : Node) (way : List Bytes) (directory : Node) : Prop where
  at_eq : tree.at? way = some directory
  isDirectory : directory.isDirectory = true
  not_cut : ∀ on, on ≠ [] → on <+: way → ¬f.Cuts on

/-- There is a root, and every directory that a scan from it comes to can be read. -/
def ReadsAll (look : Path → Option Node) (f : Filter) (root : Path) : Prop :=
  ∃ tree, look root = some tree ∧ ∀ way directory, f.Reaches tree way directory →
    directory.obstacle? (root.below way) = none

/-- What is wrong with a root: there is none, or this is the first of the directories that a scan comes
to and cannot read. -/
inductive Fault (look : Path → Option Node) (f : Filter) (root : Path) : Failure → Prop
  | missing (hnone : look root = none) : Fault look f root (.missingRoot root)
  | unread {tree directory : Node} {way : List Bytes} {cause : IoProblem}
      (hroot : look root = some tree) (hreach : f.Reaches tree way directory)
      (hcause : directory.obstacle? (root.below way) = some cause)
      (hfirst : ∀ other directory', f.Reaches tree other directory' →
        directory'.obstacle? (root.below other) ≠ none → other = way ∨ List.Lex (· < ·) way other) :
      Fault look f root (.traversal root (root.below way) cause)

theorem Filter.prunes_below (f : Filter) (root : Path) {way : List Bytes} (hne : way ≠ [])
    (h : ∀ n ∈ way, Path.IsName n) : f.prunes root (root.below way) = true ↔ f.Cuts way := by
  simp only [prunes, holdsAny, List.any_eq_true, occursIn_iff, String.toList_append,
    Path.textBelow_below root hne h]
  rfl

section Roots

variable {look : Path → Option Node} {f : Filter} {root : Path} {tree : Node}

theorem stops_iff_reaches (ho : tree.orderly) {way : List Bytes} {cause : IoProblem} :
    Stops (f.prunes root) root tree way cause ↔
      ∃ directory, f.Reaches tree way directory ∧
        directory.obstacle? (root.below way) = some cause := by
  have hcut {directory : Node} (hd : tree.at? way = some directory) (on : List Bytes) (hne : on ≠ [])
      (hpre : on <+: way) : f.prunes root (root.below on) = false ↔ ¬f.Cuts on := by
    rw [← Bool.not_eq_true, f.prunes_below root hne fun n hn =>
      Node.isName_of_at? ho hd n (hpre.subset hn)]
  constructor
  · rintro ⟨⟨directory, hd, hc⟩, hon⟩
    refine ⟨directory, ⟨hd, ?_, fun on hne hpre => ?_⟩, hc⟩
    · have hs : Stops (fun _ => false) (root.below way) directory [] cause := stops_nil.2 hc
      exact isDirectory_of_stops hs
    · exact (hcut hd on hne hpre).1 (hon on hne hpre)
  · rintro ⟨directory, hreach, hc⟩
    refine ⟨⟨directory, hreach.at_eq, hc⟩, fun on hne hpre => ?_⟩
    exact (hcut hreach.at_eq on hne hpre).2 (hreach.not_cut on hne hpre)

theorem readsAll_of_scanRoot (ho : OrderlyAt look root) {found found' : Found}
    (h : scanRoot look f found root = .ok found') : ReadsAll look f root := by
  obtain ⟨tree, files, hl, hfiles⟩ := exists_of_scanRoot h
  have hwalk : FailsFirst (filesOf (f.prunes root) root tree) root (Stops (f.prunes root) root tree) :=
    filesOf_failsFirst (ho tree hl)
  rw [hfiles] at hwalk
  refine ⟨tree, hl, fun way directory hreach => Option.eq_none_iff_forall_ne_some.2 ?_⟩
  intro cause hc
  exact hwalk way cause ((stops_iff_reaches (ho tree hl)).2 ⟨directory, hreach, hc⟩)

theorem fault_of_scanRoot (ho : OrderlyAt look root) {found : Found} {e : Failure}
    (h : scanRoot look f found root = .error e) : Fault look f root e := by
  unfold scanRoot at h
  cases hl : look root with
  | none =>
    rw [hl] at h
    cases h
    exact .missing hl
  | some tree =>
    have hwalk : FailsFirst (filesOf (f.prunes root) root tree) root
        (Stops (f.prunes root) root tree) := filesOf_failsFirst (ho tree hl)
    cases hfiles : filesOf (f.prunes root) root tree with
    | ok files => simp [hl, hfiles] at h
    | error b =>
      simp only [hl, hfiles] at h hwalk
      cases h
      obtain ⟨way, cause, ⟨hs, hfirst⟩, rfl⟩ := hwalk
      obtain ⟨directory, hreach, hc⟩ := (stops_iff_reaches (ho tree hl)).1 hs
      refine .unread hl hreach hc fun other directory' hother hne => ?_
      obtain ⟨cause', hc'⟩ := Option.ne_none_iff_exists'.1 hne
      exact hfirst other cause' ((stops_iff_reaches (ho tree hl)).2 ⟨directory', hother, hc'⟩)

theorem Fault.not_readsAll {e : Failure} (h : Fault look f root e) : ¬ReadsAll look f root := by
  rintro ⟨tree, hl, hreads⟩
  cases h with
  | missing hnone =>
    rw [hnone] at hl
    cases hl
  | unread hroot hreach hcause =>
    cases hroot.symm.trans hl
    rw [hreads _ _ hreach] at hcause
    cases hcause

theorem Fault.unique {e e' : Failure} (h : Fault look f root e) (h' : Fault look f root e') :
    e = e' := by
  cases h with
  | missing hnone =>
    cases h' with
    | missing => rfl
    | unread hroot => cases hnone.symm.trans hroot
  | @unread tree directory way cause hroot hreach hcause hfirst =>
    cases h' with
    | missing hnone => cases hnone.symm.trans hroot
    | @unread _ directory' way' cause' hroot' hreach' hcause' hfirst' =>
      cases hroot.symm.trans hroot'
      have hway : way' = way := by
        rcases hfirst way' directory' hreach' (by simp [hcause']) with he | hlt
        · exact he
        · rcases hfirst' way directory hreach (by simp [hcause]) with he | hgt
          · exact he.symm
          · exact absurd hgt (List.lex_asymm (fun h => List.lt_asymm h) hlt)
      subst hway
      cases hreach.at_eq.symm.trans hreach'.at_eq
      cases hcause.symm.trans hcause'
      rfl

theorem scanRoot_ok_iff (ho : OrderlyAt look root) (found : Found) :
    (∃ found', scanRoot look f found root = .ok found') ↔ ReadsAll look f root := by
  constructor
  · rintro ⟨found', h⟩
    exact readsAll_of_scanRoot ho h
  · intro hreads
    cases h : scanRoot look f found root with
    | ok found' => exact ⟨found', rfl⟩
    | error e => exact absurd hreads (fault_of_scanRoot ho h).not_readsAll

theorem scanRoot_error_iff (ho : OrderlyAt look root) (found : Found) (e : Failure) :
    scanRoot look f found root = .error e ↔ Fault look f root e := by
  constructor
  · exact fault_of_scanRoot ho
  · intro hfault
    cases h : scanRoot look f found root with
    | ok found' => exact absurd (readsAll_of_scanRoot ho h) hfault.not_readsAll
    | error e' => rw [(fault_of_scanRoot ho h).unique hfault]

end Roots

section Scan

variable {look : Path → Option Node} {f : Filter} {roots : List Path}

theorem scan_ok_iff (ho : ∀ root ∈ roots, OrderlyAt look root) :
    (∃ files, scan look f roots = .ok files) ↔ ∀ root ∈ roots, ReadsAll look f root := by
  rw [scan, map_ok_iff]
  exact (foldlM_outcome (fun root hr => scanRoot_ok_iff (ho root hr))
    (fun root hr => scanRoot_error_iff (ho root hr)) []).1

theorem scan_error_iff (ho : ∀ root ∈ roots, OrderlyAt look root) {e : Failure} :
    scan look f roots = .error e ↔ ∃ before root after, roots = before ++ root :: after ∧
      (∀ r ∈ before, ReadsAll look f r) ∧ Fault look f root e := by
  rw [scan, map_error_iff]
  exact (foldlM_outcome (fun root hr => scanRoot_ok_iff (ho root hr))
    (fun root hr => scanRoot_error_iff (ho root hr)) []).2 e

/-- A scan has a result just if nothing is wrong with any root, and then no wanted file is missing from
it. Else it fails, whatever was found below the roots before, for what is wrong with the first root that
has something wrong. A directory whose path is too long from its root cannot be read either. -/
theorem scan_outcome (ho : ∀ root ∈ roots, OrderlyAt look root) :
    ((∃ files, scan look f roots = .ok files) ↔ ∀ root ∈ roots, ReadsAll look f root) ∧
      (∀ files, scan look f roots = .ok files → ∀ root ∈ roots, ∀ p, Selects look f root p →
        ∃ q ∈ files, q.key = p.key) ∧
      ∀ e, scan look f roots = .error e ↔ ∃ before root after, roots = before ++ root :: after ∧
        (∀ r ∈ before, ReadsAll look f r) ∧ Fault look f root e := by
  refine ⟨scan_ok_iff ho, fun files h root hr p hp => ?_, fun e => scan_error_iff ho⟩
  have hsound : (Found.addAll [] (roots.flatMap (wanted look f))).Sound :=
    Found.Sound.empty.addAll _
  have hmem : p ∈ roots.flatMap (wanted look f) :=
    List.mem_flatMap.2 ⟨root, hr, (mem_wanted (ho root hr)).2 hp⟩
  obtain ⟨entry, hentry, hk⟩ := (Found.exists_key_addAll _ p.key).2 ⟨p, hmem, rfl⟩
  rw [eq_addAll_of_scan ho h]
  exact ⟨entry.2, List.mem_map_of_mem hentry, (hsound.key_eq entry hentry).symm.trans hk⟩

end Scan

/-- A tree with directories that cannot be read: one below a directory to leave out, one deep down, and
one that comes after it. -/
def lockedTree : Node :=
  .directory true [
    (bytesOf "a.p", .file [] false),
    (bytesOf "k", .directory true [(bytesOf "z", .directory false [])]),
    (bytesOf "m", .directory true [(bytesOf "b.p", .file [] false),
      (bytesOf "x", .directory true [(bytesOf "y", .directory false [])])]),
    (bytesOf "n", .directory false [])]

def lockedLook (root : Path) : Option Node :=
  if root = .ofText "a" then some mixedTree
  else if root = .ofText "b/" then some lockedTree
  else none

theorem scan_lockedTree :
    scan lockedLook ⟨["p"], ["/k/"]⟩ [.ofText "a", .ofText "b/", .ofText "c"] =
        .error (.traversal (.ofText "b/") (.ofText "b/m/x/y") .accessDenied) ∧
      ∃ before root after, [Path.ofText "a", .ofText "b/", .ofText "c"] = before ++ root :: after ∧
        (∀ r ∈ before, ReadsAll lockedLook ⟨["p"], ["/k/"]⟩ r) ∧
        Fault lockedLook ⟨["p"], ["/k/"]⟩ root
          (.traversal (.ofText "b/") (.ofText "b/m/x/y") .accessDenied) := by
  have h : scan lockedLook ⟨["p"], ["/k/"]⟩ [.ofText "a", .ofText "b/", .ofText "c"] =
      .error (.traversal (.ofText "b/") (.ofText "b/m/x/y") .accessDenied) := rfl
  have ho : ∀ root ∈ [Path.ofText "a", .ofText "b/", .ofText "c"], OrderlyAt lockedLook root := by
    intro root _ node hl
    simp only [lockedLook] at hl
    split at hl
    · cases hl
      decide
    · split at hl
      · cases hl
        decide
      · cases hl
  exact ⟨h, ((scan_outcome ho).2.2 _).1 h⟩

end SyntaxSweep
