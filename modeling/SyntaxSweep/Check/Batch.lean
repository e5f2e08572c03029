import SyntaxSweep.Check.Schedule

namespace SyntaxSweep

inductive Status where
  | skipped
  | passed
  | failed
  | aborted
  deriving DecidableEq, Repr

def Status.name : Status → String
  | .skipped => "skipped"
  | .passed => "passed"
  | .failed => "failed"
  | .aborted => "aborted"

def Status.exitCode : Status → Nat
  | .skipped | .passed => 0
  | .failed => 1
  | .aborted => 130

structure Result where
  status : Status
  report : String
  files : Nat
  outcomes : List Outcome
  elapsedMs : Nat
  deriving DecidableEq, Repr

def reportOf (outcomes : List Outcome) : String :=
  "\n".intercalate ((failures outcomes).map Outcome.diagnostic)

def Result.ofOutcomes (status : Status) (files : Nat) (outcomes : List Outcome) (ms : Nat) : Result :=
  ⟨status, reportOf outcomes, files, outcomes, ms⟩

def finalStatus (outcomes : List Outcome) : Status :=
  if failures outcomes = [] then .passed else .failed

/-- The result of a run from its outcomes, what stopped it, and how long it took. A run that was
interrupted shows the outcomes that it has. -/
def conclude (files : Nat) (outcomes : List Outcome) (ms : Nat) :
    Option Failure → Except Failure Result
  | none => .ok (.ofOutcomes (finalStatus outcomes) files outcomes ms)
  | some .interrupted => .ok (.ofOutcomes .aborted files outcomes ms)
  | some e => .error e

variable {σ : Type}

def checkEach (check : σ → Path → Except Failure Outcome × σ) :
    List Path → σ → (List Outcome × Option Failure) × σ
  | [], state => (([], none), state)
  | path :: rest, state =>
    match check state path with
    | (.error e, state) => (([], some e), state)
    | (.ok outcome, state) =>
      let ((outcomes, stopped), state) := checkEach check rest state
      ((outcome :: outcomes, stopped), state)

def checkTogether (schedule : Schedule) (check : σ → Path → Except Failure Outcome × σ)
    (files : List Path) (state : σ) : (List Outcome × Option Failure) × σ :=
  match schedule.checkAll check files state with
  | (.ok outcomes, state) => ((outcomes, none), state)
  | (.error e, state) => (([], some e), state)

/-- A list of files checked. Nothing is called if it is empty. The clock that measures a run tells from
the states before and after it how many milliseconds it has taken. -/
def Settings.check (s : Settings) (schedule : Schedule) (checker : Checker σ) (files : List Path)
    (state : σ) (clock : σ → σ → Nat := fun _ _ => 0) : Except Failure Result × σ :=
  if files = [] then (.ok (.ofOutcomes .skipped 0 [] (clock state state)), state)
  else
    let check := checkFile s checker
    let ((outcomes, stopped), last) :=
      if 1 < s.jobs then checkTogether schedule check files state else checkEach check files state
    (conclude files.length outcomes (clock state last) stopped, last)

end SyntaxSweep
