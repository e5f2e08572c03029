import SyntaxSweep.Machine.Running

namespace SyntaxSweep

/-- A machine, and when each worker that has had a call is free again, the soonest first. A worker whose
call never ends has no such time. -/
structure Workers where
  machine : Machine
  free : List (Option Nat) := []

namespace Workers

def isBefore : Option Nat → Option Nat → Bool
  | some a, some b => decide (a ≤ b)
  | some _, none => true
  | none, _ => false

def insertTime (t : Option Nat) : List (Option Nat) → List (Option Nat)
  | [] => [t]
  | u :: rest => if isBefore t u then t :: u :: rest else u :: insertTime t rest

/-- The machine as the next call finds it, and when the other workers are free. There is no next call
if no worker is ever free again. -/
def next? (w : Workers) (jobs : Nat) : Option (Machine × List (Option Nat)) :=
  match w.free with
  | [] => some (w.machine, [])
  | t :: rest =>
    if w.free.length < jobs then some (w.machine, t :: rest)
    else t.map fun begin => ({ w.machine with now := begin }, rest)

def run (jobs : Nat) (token : Cancellation.Token) (interrupt : Option Nat := none) (w : Workers)
    (call : Call) : Except Failure Answer × Workers :=
  match w.next? jobs with
  | none => (Machine.noAnswer, w)
  | some (m, others) =>
    match m.run? [] token interrupt none call with
    | some (answer, after) =>
      (answer, ⟨{ after with now := m.now }, insertTime (some after.now) others⟩)
    | none => (Machine.noAnswer, ⟨m, insertTime none others⟩)

def finished (w : Workers) : Machine :=
  { w.machine with now := (w.free.filterMap id).foldl max w.machine.now }

end Workers

end SyntaxSweep
