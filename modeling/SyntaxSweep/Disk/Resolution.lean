import SyntaxSweep.Disk.Node
import SyntaxSweep.IoProblem

namespace SyntaxSweep

/-- The files of a system, seen from a working directory given by the names that lead to it. -/
structure Disk where
  tree : Node
  directory : List Bytes

namespace Disk

def longestPath : Nat := 4095

def longestName : Nat := 255

def mostLinks : Nat := 40

/-- The place that pieces of a path lead to from a directory. The last name need not be there. With
`follow` a link at the end is followed. -/
def walk (tree : Node) (follow : Bool) (links : Nat) (place : List Bytes) (todo : List Bytes) :
    Except IoProblem (List Bytes) :=
  match todo with
  | [] => .ok place
  | segment :: rest =>
    match tree.at? place with
    | some (.directory _ entries) =>
      if Path.isFiller segment then walk tree follow links place rest
      else if segment = [Path.dot, Path.dot] then walk tree follow links place.dropLast rest
      else if longestName < segment.length then .error .nameTooLong
      else
        match Node.named? segment entries with
        | none => if rest = [] then .ok (place ++ [segment]) else .error .noEntry
        | some (.link target) =>
          if rest = [] ∧ !follow then .ok (place ++ [segment])
          else
            match links with
            | 0 => .error .tooManyLinks
            | links + 1 =>
              walk tree follow links (if target.isAbsolute then [] else place)
                (target.segments ++ rest)
        | some _ => walk tree follow links (place ++ [segment]) rest
    | some _ => .error .notDirectory
    | none => .error .noEntry
termination_by (links, todo.length)

def place? (d : Disk) (follow : Bool) (p : Path) : Except IoProblem (List Bytes) :=
  if p.bytes.contains 0 then .error .nulInName
  else if p.bytes = [] then .error .noEntry
  else if longestPath < p.bytes.length then .error .nameTooLong
  else walk d.tree follow mostLinks (if p.isAbsolute then [] else d.directory) p.segments

def node? (d : Disk) (follow : Bool) (p : Path) : Except IoProblem Node :=
  match d.place? follow p with
  | .error e => .error e
  | .ok place =>
    match d.tree.at? place with
    | some node => .ok node
    | none => .error .noEntry

def isPresent (d : Disk) (p : Path) : Bool :=
  match d.node? true p with
  | .ok _ => true
  | .error _ => false

def isFile (d : Disk) (p : Path) : Bool :=
  match d.node? true p with
  | .ok node => node.isFile
  | .error _ => false

def read (d : Disk) (p : Path) : Except IoProblem Bytes := do
  match ← d.node? true p with
  | .file data _ => return data
  | .directory _ _ => .error .isDirectory
  | .link _ | .special => return []

def enter (d : Disk) (p : Path) : Except IoProblem Disk := do
  let place ← d.place? true p
  match d.tree.at? place with
  | some (.directory _ _) => return ⟨d.tree, place⟩
  | some _ => .error .notDirectory
  | none => .error .noEntry

def here (d : Disk) : Path :=
  ⟨Path.slash :: joined Path.slash d.directory⟩

/-- The node that a scan from the path starts at: a link counts as the directory it leads to, and as
a link if it leads to anything else. -/
def root? (d : Disk) (p : Path) : Option Node :=
  match d.node? true p, d.node? false p with
  | .ok target, .ok node => some (if target.isDirectory then target else node)
  | _, _ => none

end Disk

end SyntaxSweep
