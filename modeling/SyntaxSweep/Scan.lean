import SyntaxSweep.Disk.Resolution
import SyntaxSweep.Failure

namespace SyntaxSweep

structure Blocked where
  place : Path
  cause : IoProblem
  deriving DecidableEq, Repr

mutual

/-- The regular files of a tree spelled with `path`, directories that `prune` names left out. -/
def filesOf (prune : Path → Bool) (path : Path) : Node → Except Blocked (List Path)
  | .file _ _ => .ok [path]
  | .link _ => .ok []
  | .special => .ok []
  | .directory readable entries =>
    if Disk.longestPath < path.bytes.length then .error ⟨path, .nameTooLong⟩
    else if readable then filesIn prune path entries
    else .error ⟨path, .accessDenied⟩

def filesIn (prune : Path → Bool) (path : Path) :
    List (Bytes × Node) → Except Blocked (List Path)
  | [] => .ok []
  | (name, node) :: rest => do
    let here ←
      if node.isDirectory && prune (path.child name) then .ok []
      else filesOf prune (path.child name) node
    let more ← filesIn prune path rest
    return here ++ more

end

abbrev Found := List (List Component × Path)

def Found.add (p : Path) : Found → Found
  | [] => [(p.key, p)]
  | (k, q) :: rest =>
    if p.key = k then (k, q) :: rest
    else if keyBefore p.key k then (p.key, p) :: (k, q) :: rest
    else (k, q) :: add p rest

def scanRoot (look : Path → Option Node) (filter : Filter) (found : Found) (root : Path) :
    Except Failure Found :=
  match look root with
  | none => .error (.missingRoot root)
  | some node =>
    match filesOf (filter.prunes root) root node with
    | .error b => .error (.traversal root b.place b.cause)
    | .ok files => .ok ((files.filter (filter.admitsBelow root)).foldl (fun f p => f.add p) found)

/-- The wanted files below the roots, in the order of paths. `look` gives the node that a root
names. -/
def scan (look : Path → Option Node) (filter : Filter) (roots : List Path) :
    Except Failure (List Path) :=
  (roots.foldlM (scanRoot look filter) []).map fun found => found.map (·.2)

end SyntaxSweep
