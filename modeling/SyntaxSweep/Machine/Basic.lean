import SyntaxSweep.Disk.Resolution
import SyntaxSweep.Machine.Task

namespace SyntaxSweep

structure Content where
  pieces : List Octets := []
  size : Nat := 0

namespace Content

def ofOctets (octets : Octets) : Content :=
  ⟨[octets], octets.length⟩

def octets (c : Content) : Octets :=
  c.pieces.reverse.flatten

def write (c : Content) (position : Nat) (octets : Octets) : Content :=
  if position = c.size then ⟨octets :: c.pieces, c.size + octets.length⟩
  else
    let before := c.octets
    .ofOctets (before.take position ++ List.replicate (position - c.size) '\x00' ++ octets ++
      before.drop (position + octets.length))

end Content

inductive Target where
  | file (place : List Bytes)
  -- A file without a name.
  | scratch (number : Nat)
  | pipe (number : Nat)
  | directory (place : List Bytes)
  | device (name : Bytes)
  deriving DecidableEq, Repr

/-- An open file. `ahead` is what comes after the position, as long as the files have not changed
since the version it was read from. -/
structure OpenFile where
  target : Target
  reads : Bool
  writes : Bool
  appends : Bool := false
  position : Nat := 0
  ahead : Option (Nat × Octets) := none

/-- A stream of a process: its number, the open file, and whether programs launched later lose it. -/
structure Stream where
  number : Nat
  file : Nat
  kept : Bool := false
  deriving DecidableEq, Repr

structure Process where
  number : Nat
  parent : Nat
  task : Task
  streams : List Stream
  directory : List Bytes
  ignored : List Nat := []
  caught : List Nat := []
  pending : List Nat := []
  wakes : Option Nat := none
  -- For how many turns the process is still being set up.
  setUp : Nat := 0
  ended : Option ProcessEnd := none

/-- What a pipe holds: what is read next, and what was written after that, the last piece first. -/
structure Pipe where
  front : Octets := []
  back : Content := {}

abbrev GitScript := List Octets → Octets × Octets × Nat

/-- The programs of the system by their names: how each runs with arguments, of which the first is its
own name, and bindings. -/
abbrev Programs := Octets → Option (List Octets → List (Octets × Octets) → Task)

structure Machine where
  disk : Disk
  search : List Path
  programs : Programs
  git : GitScript := fun _ => ([], [], 0)
  now : Nat := 0
  -- How many requests have been answered since the clock was last moved on for work.
  work : Nat := 0
  -- Counts the changes of files.
  version : Nat := 0
  processes : List Process := []
  lastNumber : Nat := 1000
  opened : Array OpenFile := #[]
  scratch : Array Content := #[]
  pipes : Array Pipe := #[]
  -- Files whose contents have changed and do not yet stand in the tree.
  changed : List (List Bytes × Content) := []

namespace Machine

def settled (m : Machine) : Machine :=
  if m.changed.isEmpty then m
  else
    let tree := m.changed.foldr (fun (place, content) (tree : Node) =>
      tree.alter (fun old =>
        match old with
        | some (.file _ executable) => some (.file (Octets.toBytes content.octets) executable)
        | other => other) place) m.disk.tree
    { m with disk := ⟨tree, m.disk.directory⟩, changed := [] }

def diskOf (m : Machine) (p : Process) : Disk :=
  ⟨m.disk.tree, p.directory⟩

end Machine

namespace Process

def stream? (p : Process) (number : Nat) : Option Stream :=
  p.streams.find? (·.number = number)

def freeNumber (p : Process) (least : Nat) : Nat :=
  go (p.streams.length + 1) least
where
  go : Nat → Nat → Nat
    | 0, n => n
    | fuel + 1, n => if p.streams.any (·.number = n) then go fuel (n + 1) else n

def closed (p : Process) (number : Nat) : Process :=
  { p with streams := p.streams.filter (·.number ≠ number) }

def withStream (p : Process) (s : Stream) : Process :=
  { p with streams := s :: (p.closed s.number).streams }

def holds (p : Process) (file : Nat) : Bool :=
  p.ended.isNone && p.streams.any (·.file = file)

end Process

end SyntaxSweep
