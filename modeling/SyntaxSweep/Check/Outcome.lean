import SyntaxSweep.Failure
import SyntaxSweep.Check.Diagnostic

namespace SyntaxSweep

structure Call where
  program : String
  args : List String
  deriving DecidableEq, Repr

structure Answer where
  status : Int
  output : String
  deriving DecidableEq, Repr

abbrev Checker (σ : Type) := σ → Call → Except Failure Answer × σ

structure Outcome where
  path : Path
  succeeded : Bool
  diagnostic : String
  line : Option Nat
  deriving DecidableEq, Repr

def Settings.callFor (s : Settings) (path : Path) : Call :=
  ⟨s.checker, s.checkerArgs ++ [path.text]⟩

def Outcome.ofAnswer (path : Path) (a : Answer) : Outcome :=
  if a.status = 0 then ⟨path, true, "", none⟩
  else ⟨path, false, diagnosticText path a.status a.output, namedLine? a.output⟩

def checkFile {σ : Type} (s : Settings) (checker : Checker σ) (state : σ) (path : Path) :
    Except Failure Outcome × σ :=
  let (answer, state) := checker state (s.callFor path)
  (answer.map (Outcome.ofAnswer path), state)

def failures (outcomes : List Outcome) : List Outcome :=
  outcomes.filter (!·.succeeded)

end SyntaxSweep
