import SyntaxSweep.Failure

namespace SyntaxSweep.Supervision

inductive Sighting where
  | running
  | exited (code : Int)
  | killed
  | unseen (cause : IoProblem)
  deriving DecidableEq, Repr

/-- One look: whether to stop is asked first, then the process is seen. -/
structure Look where
  stop : Bool
  sighting : Sighting
  deriving DecidableEq, Repr

/-- What is done to the process. Seeing that it has ended reaps it. -/
inductive Act where
  | pause (ms : Nat)
  | see
  | kill
  | reap
  deriving DecidableEq, Repr

inductive Verdict where
  | ended (status : Int)
  | interrupted
  | failed (cause : IoProblem)
  deriving DecidableEq, Repr

def shortestPause : Nat := 1

def longestPause : Nat := 50

def nextPause (pause : Nat) : Nat :=
  min (2 * pause) longestPause

def killedStatus : Int := 1

/-- What a look leads to: the acts, and the verdict unless the watch goes on. -/
def Look.judge (l : Look) : List Act × Option Verdict :=
  if l.stop then ([.kill, .reap], some .interrupted)
  else
    match l.sighting with
    | .running => ([.see], none)
    | .exited code => ([.see], some (.ended code))
    | .killed => ([.see], some (.ended killedStatus))
    | .unseen cause => ([.see, .kill, .reap], some (.failed cause))

/-- At most `fuel` looks, the first of them number `n`. `elapsed` is the time of that look. A look may
depend on its number and its time. -/
def watch (looks : Nat → Nat → Look) : (fuel n elapsed pause : Nat) → Option (List Act × Verdict × Nat)
  | 0, _, _, _ => none
  | fuel + 1, n, elapsed, pause =>
    match (looks n elapsed).judge with
    | (acts, some verdict) => some (acts, verdict, elapsed)
    | (acts, none) => do
      let (more, verdict, time) ← watch looks fuel (n + 1) (elapsed + pause) (nextPause pause)
      some (acts ++ .pause pause :: more, verdict, time)

def supervise (looks : Nat → Nat → Look) (fuel : Nat) : Option (List Act × Verdict × Nat) :=
  watch looks fuel 0 0 shortestPause

/-- How a process that was started ends, and after how many milliseconds; one that never ends has no
such time. -/
structure Course where
  lasts : Option Nat
  ending : Sighting
  deriving DecidableEq, Repr

def Course.look (c : Course) (deadline : Option Nat) (elapsed : Nat) : Look where
  stop := match deadline with
    | some d => decide (d ≤ elapsed)
    | none => false
  sighting := match c.lasts with
    | some t => if t ≤ elapsed then c.ending else .running
    | none => .running

/-- What came of an attempt to run a program: its process if it was started, what was done to that
process, and how the attempt ended. -/
structure Attempt (π : Type) where
  process : Option π
  acts : List Act
  ending : Except Failure Int
  elapsed : Nat

def Verdict.status : Verdict → Except Failure Int
  | .ended status => .ok status
  | .interrupted => .error .interrupted
  | .failed cause => .error (.io cause)

/-- An attempt to run a program. Nothing is started if it has been told to stop before. -/
def attempt {π : Type} (program : String) (stopped : Bool) (start : Unit → Except IoProblem π)
    (looks : π → Nat → Nat → Look) (fuel : π → Nat) : Option (Attempt π) :=
  if stopped then some ⟨none, [], .error .interrupted, 0⟩
  else
    match start () with
    | .error cause => some ⟨none, [], .error (.checkerNotStarted program cause), 0⟩
    | .ok process => do
      let (acts, verdict, time) ← supervise (looks process) (fuel process)
      return ⟨some process, acts, verdict.status, time⟩

end SyntaxSweep.Supervision
