import SyntaxSweep.Disk.Resolution

namespace SyntaxSweep.Disk

def newPlace (d : Disk) (p : Path) : List Bytes :=
  match d.place? true p with
  | .ok place => place
  | .error _ =>
    p.segments.foldl (fun place segment =>
      if Path.isFiller segment then place
      else if segment = [Path.dot, Path.dot] then place.dropLast
      else
        match walk d.tree true mostLinks place [segment] with
        | .ok next => next
        | .error _ => place ++ [segment]) (if p.isAbsolute then [] else d.directory)

def linkPlace (d : Disk) (p : Path) : List Bytes :=
  match p.fileName?, p.parent? with
  | some name, some parent =>
    (if parent.bytes = [] then d.directory else d.newPlace parent) ++ [name]
  | _, _ => d.newPlace p

def makeDirectory (d : Disk) (p : Path) : Disk :=
  { d with tree := d.tree.alter (fun old => some (old.getD .empty)) (d.newPlace p) }

def write (d : Disk) (p : Path) (data : Bytes) (executable : Bool) : Disk :=
  { d with tree := d.tree.alter (fun old =>
      match old with
      | some (.file _ before) => some (.file data (before || executable))
      | some node => some node
      | none => some (.file data executable)) (d.newPlace p) }

def makeLink (d : Disk) (p target : Path) : Disk :=
  { d with tree := d.tree.put (d.linkPlace p) (.link target) }

def remove (d : Disk) (p : Path) : Disk :=
  match d.place? false p with
  | .ok place => { d with tree := d.tree.erase place }
  | .error _ => d

def nested (name : Bytes) (leaf : Bytes × Node) : Nat → Node
  | 0 => .directory true [leaf]
  | levels + 1 => .directory true [(name, nested name leaf levels)]

def makeDeep (d : Disk) (name : Bytes) (levels : Nat) (leaf : Bytes) : Disk :=
  match levels with
  | 0 => d
  | levels + 1 =>
    { d with tree := d.tree.put (d.directory ++ [name]) (nested name (leaf, .file [] false) levels) }

end SyntaxSweep.Disk
