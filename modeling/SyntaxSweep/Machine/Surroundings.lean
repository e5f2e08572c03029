import SyntaxSweep.Machine.System
import SyntaxSweep.Machine.Workers
import SyntaxSweep.Program

namespace SyntaxSweep.Machine

/-- What a run meets that does not come from the machine. -/
structure Outside where
  stdin : Input
  git : Git
  -- How long it takes until the files are selected, in milliseconds.
  selecting : Nat := 0
  -- When the run is interrupted from the keyboard.
  interrupt : Option Nat := none
  workers : Nat → Except IoProblem Unit := fun _ => .ok ()
  schedule : Schedule := {}
  clock : Workers → Workers → Nat := fun _ _ => 0

def directory? (m : Machine) : Except IoProblem Path :=
  match m.disk.tree.at? m.disk.directory with
  | some (.directory _ _) => .ok m.disk.here
  | _ => .error .noEntry

/-- The surroundings of a run whose files have been selected by the time that the machine shows. -/
def around (m : Machine) (o : Outside) : Surroundings Workers where
  directory := m.directory?
  files := m.disk.files
  stdin := o.stdin
  git := o.git
  root? := m.disk.root?
  began := m.now - o.selecting
  stopped token := Cancellation.isRaised (token.flagsAt [] o.interrupt m.now) m.now token
  workers := o.workers
  checker s token := Workers.run s.jobs token o.interrupt
  schedule := o.schedule
  clock := o.clock

def surroundings (m : Machine) (stdin : Bytes) (git : Git) : Surroundings Workers :=
  m.around { stdin := ⟨stdin, none⟩, git }

end SyntaxSweep.Machine
