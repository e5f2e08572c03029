import SyntaxSweep.CommandLine.Arguments
import SyntaxSweep.PathList
import SyntaxSweep.Staged
import SyntaxSweep.Scan
import SyntaxSweep.Settings.Discovery
import SyntaxSweep.Cancellation
import SyntaxSweep.Check.Batch
import SyntaxSweep.Report.Summary
import SyntaxSweep.Report.Json

namespace SyntaxSweep

open Cancellation (Token)
open CommandLine (Arguments Format)

inductive Selection where
  | listed (paths : List Path)
  | scanned

/-- What a run finds around it. -/
structure Surroundings (σ : Type) where
  directory : Except IoProblem Path
  files : Files
  stdin : Input
  git : Git
  -- What a scan finds at its roots.
  root? : Path → Option Node
  began : Nat
  -- Whether the token tells to stop once the source of the files is known.
  stopped : Token → Bool
  -- Whether so many workers can be had.
  workers : Nat → Except IoProblem Unit
  checker : Settings → Token → Checker σ
  schedule : Schedule := {}
  -- How many milliseconds lie between two states of the checker.
  clock : σ → σ → Nat

/-- Why a run has no result. One with a limit whose end no clock can show does not even fail: it
panics. -/
inductive Halt where
  | failure (e : Failure)
  | panic

def panicCode : Nat := 101

def Halt.exitCode : Halt → Nat
  | .failure e => e.exitCode
  | .panic => panicCode

/-- Whether what is printed on each stream may be coloured. -/
structure Colours where
  stdout : Bool
  stderr : Bool

instance : Coe Bool Colours := ⟨fun colour => ⟨colour, colour⟩⟩

structure Ending where
  code : Nat
  stdout : String
  stderr : String
  deriving DecidableEq, Repr

def Selection.paths (look : Path → Option Node) (s : Settings) : Selection → Except Failure (List Path)
  | .listed paths => .ok paths
  | .scanned => scan look s.filter s.roots

def Settings.manned (s : Settings) (workers : Nat → Except IoProblem Unit) (files : List Path) :
    Except IoProblem Unit :=
  if files = [] ∨ s.jobs ≤ 1 then .ok () else workers s.jobs

def Settings.sweep {σ : Type} (s : Settings) (look : Path → Option Node) (schedule : Schedule)
    (checker : Checker σ) (selection : Selection) (state : σ) (clock : σ → σ → Nat := fun _ _ => 0)
    (workers : Nat → Except IoProblem Unit := fun _ => .ok ()) : Except Failure Result × σ :=
  match selection.paths look s with
  | .error e => (.error e, state)
  | .ok files =>
    match s.manned workers files with
    | .error cause => (.error (.io cause), state)
    | .ok () => s.check schedule checker files state clock

def Result.printed (r : Result) (colours : Colours) : Format → Except IoProblem (String × String)
  | .json => r.document.map fun text => (text ++ "\n", "")
  | .human =>
    .ok (renderSpans colours.stdout r.summary,
      if r.status = .failed then renderSpans colours.stderr r.details else "")

namespace Ending

def ofFailure (e : Failure) (colours : Colours) : Ending :=
  ⟨e.exitCode, "", renderSpans colours.stderr [.styled .red "error:", .plain s!" {e.message}\n"]⟩

def ofPanic : Ending :=
  ⟨panicCode, "", "overflow when adding duration to instant\n"⟩

def ofHalt (colours : Colours) : Halt → Ending
  | .failure e => .ofFailure e colours
  | .panic => .ofPanic

end Ending

namespace Surroundings

variable {σ : Type} (around : Surroundings σ)

def settings (args : Arguments) : Except Failure Settings := do
  let directory ← around.directory.mapError .io
  let layer ← around.files.layerFor args.config directory
  (args.layer.onTopOf layer).settings

/-- The token that stops a run. Its limit is counted from the moment at which the run begins. -/
def token? (s : Settings) : Option Token :=
  match s.timeout with
  | none => some ⟨0, none⟩
  | some seconds => Token.limited? ⟨0, none⟩ around.began (1000 * seconds)

def select (args : Arguments) (s : Settings) : Except Failure Selection :=
  if args.files ≠ [] then .ok (.listed args.files)
  else if args.stdin then (readInput around.stdin).map .listed
  else if args.staged then (stagedFiles s.filter around.files.isFile around.git).map .listed
  else .ok .scanned

def prepare (args : Arguments) : Except Halt (Settings × Token × Selection) := do
  let s ← (around.settings args).mapError .failure
  -- The limit is set before any file is selected, so it is found first that it ends beyond all clocks.
  match around.token? s with
  | none => throw .panic
  | some token =>
    let selection ← (around.select args s).mapError .failure
    if around.stopped token then throw (.failure .interrupted)
    return (s, token, selection)

def result (args : Arguments) (state : σ) : Except Halt Result × σ :=
  match around.prepare args with
  | .error halt => (.error halt, state)
  | .ok (s, token, selection) =>
    let (result, state) := s.sweep around.root? around.schedule (around.checker s token) selection
      state around.clock around.workers
    (result.mapError .failure, state)

def conclude (args : Arguments) (colours : Colours) : Except Halt Result → Ending
  | .error halt => .ofHalt colours halt
  | .ok r =>
    match r.printed colours args.format with
    | .error cause => .ofFailure (.io cause) colours
    | .ok (stdout, stderr) => ⟨r.status.exitCode, stdout, stderr⟩

def run (args : Arguments) (colours : Colours) (state : σ) : Ending × σ :=
  let (result, state) := around.result args state
  (conclude args colours result, state)

end Surroundings

end SyntaxSweep
