import SyntaxSweep.Cancellation
import SyntaxSweep.Check.Outcome
import SyntaxSweep.Machine.Calls
import SyntaxSweep.Supervision

namespace SyntaxSweep.Machine

def requestsInMs : Nat := 1000

/-- How many rounds a run may take before every one of them counts as a millisecond, so that a program
that never ends comes to its deadline. -/
def swiftRounds : Nat := 2000000

/-- How many rounds are played at most. A program that is still running then never ends. -/
def mostRounds : Nat := 40000000

def worked (m : Machine) : Machine :=
  if m.work + 1 < requestsInMs then { m with work := m.work + 1 }
  else { m with work := 0, now := m.now + 1 }

def turnOf (state : Bool × Machine) (number : Nat) : Bool × Machine :=
  let (moved, m) := state
  match m.processes.find? (·.number = number) with
  | none => state
  | some p =>
    if p.ended.isSome || 0 < p.setUp then state
    else
      let (answered, m) := { m with processes := m.processes.filter (·.number ≠ number) }.turn p
      if answered then (true, m.worked) else (moved, m)

def round (m : Machine) : Bool × Machine :=
  let (moved, m) := (m.processes.map (·.number)).foldl turnOf (false, m)
  let waiting := m.processes.filter fun p => 0 < p.setUp
  match waiting with
  | [] => (moved, m)
  | first :: rest =>
    let least := if moved then 1 else rest.foldl (fun n p => min n p.setUp) first.setUp
    (true, { m with processes := m.processes.map fun p => { p with setUp := p.setUp - least } })

def nextWake? (m : Machine) : Option Nat :=
  m.processes.foldl (fun soonest p =>
    match soonest, p.wakes with
    | some a, some b => some (min a b)
    | a, none => a
    | none, b => b) none

def ending? (m : Machine) (number : Nat) : Option ProcessEnd :=
  (m.processes.find? (·.number = number)).bind (·.ended)

def proceed (number : Option Nat) (limit : Option Nat) : Nat → Nat → Machine → Machine
  | 0, _, m => m
  | fuel + 1, rounds, m =>
    if (number.bind m.ending?).isSome || limit.any (· ≤ m.now) then m
    else
      match m.round with
      | (true, m) =>
        let m := if rounds < swiftRounds then m else { m with now := m.now + 1 }
        proceed number limit fuel (rounds + 1) m
      | (false, m) =>
        -- All processes wait, so nothing happens until one of them wakes up.
        match m.nextWake?, limit with
        | some t, none => proceed number limit fuel (rounds + 1) { m with now := max t m.now }
        | some t, some l =>
          proceed number limit fuel (rounds + 1) { m with now := max (min t l) m.now }
        | none, some l => { m with now := l }
        | none, none => m

/-- A program that was started: the machine at its end, or when it was to be stopped, and what leads to
its output. -/
structure Started where
  machine : Machine
  number : Nat
  stdout : Nat
  stderr : Nat
  course : Supervision.Course

def bindings (m : Machine) : List (Octets × Octets) :=
  [("PATH".toList, joined ':' (m.search.map fun p => Octets.ofBytes p.bytes)),
    ("HOME".toList, "/root".toList)]

/-- How long it takes until a program has been started, in milliseconds. -/
def startTime : Nat := 1

def courseOf (m : Machine) (began number : Nat) : Supervision.Course :=
  match m.ending? number with
  | some (.exited code) => ⟨some (m.now - began + startTime), .exited code⟩
  | some (.killed _) => ⟨some (m.now - began + startTime), .killed⟩
  | none => ⟨none, .running⟩

/-- Starts a program in a directory and lets it run. It is found only after the directory has been
entered. -/
def start (m : Machine) (deadline : Option Nat) (within : Option Path) (call : Call) :
    Except IoProblem Started := do
  let texts := call.program :: call.args
  if texts.any fun t => t.toList.contains '\x00' then throw .nulInArgument
  if (within.map fun p => p.bytes.contains 0).getD false then throw .nulInArgument
  let d ← match within with
    | some p => m.disk.enter p
    | none => pure m.disk
  let path ← m.findProgram d (Octets.ofText call.program)
  let task ← m.launch d path (texts.map Octets.ofText) m.bindings
  let number := m.lastNumber + 1
  let stdout := m.scratch.size
  let opened (target : Target) : OpenFile := { target, reads := true, writes := true }
  let (input, m) := m.withOpened (opened (.device (bytesOf "null")))
  let (output, m) := m.withOpened (opened (.scratch stdout))
  let (errors, m) := m.withOpened (opened (.scratch (stdout + 1)))
  let p : Process := {
    number, parent := 1, task, directory := d.directory
    streams := [⟨0, input, false⟩, ⟨1, output, false⟩, ⟨2, errors, false⟩] }
  let begun := { m with
    lastNumber := number, scratch := (m.scratch.push {}).push {} }.withProcess p
  let done := proceed (some number) deadline mostRounds 0 begun
  return ⟨done, number, stdout, stdout + 1, done.courseOf m.now number⟩

def looksNeeded (deadline : Option Nat) (s : Started) : Nat :=
  match s.course.lasts, deadline with
  | some a, some b => min a b + 2
  | some a, none => a + 2
  | none, some b => b + 2
  | none, none => 0

def reaped (m : Machine) (number : Nat) : Machine :=
  match m.processes.find? (·.number = number) with
  | none => m
  | some p =>
    let others := { m with processes := m.processes.filter (·.number ≠ number) }
    others.withEnded { p with parent := 0 } (.killed killSignal)

def written (m : Machine) (scratch : Nat) : String :=
  lossyText (Octets.toBytes ((m.scratch[scratch]?).getD {}).octets)

/-- Runs a program under a token whose flag may be raised at a given time, and answers with all that it
printed. There is no answer if the program never ends and nothing ever stops it. -/
def run? (m : Machine) (flags : Cancellation.Flags) (token : Cancellation.Token)
    (interrupt : Option Nat) (within : Option Path) (call : Call) :
    Option (Except Failure Answer × Machine) :=
  let stop := token.stopTime interrupt
  let rest := stop.map (· - m.now)
  let attempt := Supervision.attempt call.program
    (Cancellation.isRaised (token.flagsAt flags interrupt m.now) m.now token)
    (fun _ => m.start stop within call) (fun s _ time => s.course.look rest time) (looksNeeded rest)
  attempt.map fun
    | ⟨some s, _, ending, elapsed⟩ =>
      let seen := m.now + elapsed
      let after := proceed none (some seen) mostRounds 0 s.machine
      (ending.map fun status => ⟨status, after.written s.stdout ++ after.written s.stderr⟩,
        (after.reaped s.number).settled)
    | ⟨none, _, ending, _⟩ => (ending.map fun status => ⟨status, ""⟩, m)

/-- What stands for the answer to a call that is never answered. -/
def noAnswer : Except Failure Answer :=
  .error (.io (.stated "the program never ends"))

def run (m : Machine) (flags : Cancellation.Flags) (token : Cancellation.Token)
    (within : Option Path) (call : Call) (interrupt : Option Nat := none) :
    Except Failure Answer × Machine :=
  (m.run? flags token interrupt within call).getD (noAnswer, m)

end SyntaxSweep.Machine
