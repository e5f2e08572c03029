import SyntaxSweep.Path.Basic

namespace SyntaxSweep

inductive Node where
  | file (data : Bytes) (executable : Bool)
  | directory (readable : Bool) (entries : List (Bytes × Node))
  | link (target : Path)
  | special

namespace Node

def isDirectory : Node → Bool
  | .directory _ _ => true
  | _ => false

def isFile : Node → Bool
  | .file _ _ => true
  | _ => false

def empty : Node := .directory true []

def named? (name : Bytes) : List (Bytes × Node) → Option Node
  | [] => none
  | (n, node) :: rest => if n = name then some node else named? name rest

def putEntry (name : Bytes) (node : Node) : List (Bytes × Node) → List (Bytes × Node)
  | [] => [(name, node)]
  | (n, old) :: rest =>
    if n = name then (name, node) :: rest
    else if name < n then (name, node) :: (n, old) :: rest
    else (n, old) :: putEntry name node rest

def eraseEntry (name : Bytes) (entries : List (Bytes × Node)) : List (Bytes × Node) :=
  entries.filter (·.1 ≠ name)

def child? (name : Bytes) : Node → Option Node
  | .directory _ entries => named? name entries
  | _ => none

def at? : List Bytes → Node → Option Node
  | [], node => some node
  | name :: rest, node => (node.child? name).bind (at? rest)

/-- The tree with the node that names lead to changed. Directories that are missing on the way are
made; `none` erases the node. -/
def alter (f : Option Node → Option Node) : List Bytes → Node → Node
  | [], node => (f (some node)).getD node
  | [name], .directory readable entries =>
    match f (named? name entries) with
    | some node => .directory readable (putEntry name node entries)
    | none => .directory readable (eraseEntry name entries)
  | name :: rest, .directory readable entries =>
    let below := (named? name entries).getD empty
    .directory readable (putEntry name (alter f rest below) entries)
  | _ :: _, node => node

def put (tree : Node) (place : List Bytes) (node : Node) : Node :=
  tree.alter (fun _ => some node) place

def erase (tree : Node) (place : List Bytes) : Node :=
  tree.alter (fun _ => none) place

end Node

end SyntaxSweep
