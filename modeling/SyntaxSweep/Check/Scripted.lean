import SyntaxSweep.Check.Outcome
import SyntaxSweep.Text.Occurs

namespace SyntaxSweep

inductive Reply where
  | interrupted
  | notStarted (cause : IoProblem)
  | broken (cause : IoProblem)
  | exits (status : Int) (output : String)

structure Rule where
  holds : String
  reply : Reply

/-- Calls after the first `patience` ones are interrupted. -/
structure Script where
  rules : List Rule
  patience : Option Nat

def filledIn (output argument : String) : String :=
  String.ofList (substituted "\x7bfile\x7d".toList argument.toList output.toList)

def Reply.to (call : Call) : Reply → Except Failure Answer
  | .interrupted => .error .interrupted
  | .notStarted cause => .error (.checkerNotStarted call.program cause)
  | .broken cause => .error (.io cause)
  | .exits status output => .ok ⟨status, filledIn output (call.args.getLast?.getD "")⟩

namespace Script

def reply (script : Script) (call : Call) : Except Failure Answer :=
  let argument := call.args.getLast?.getD ""
  match script.rules.find? fun r => occursIn r.holds.toList argument.toList with
  | some r => r.reply.to call
  | none => .ok ⟨0, ""⟩

def checker (script : Script) : Checker (List Call) := fun calls call =>
  let spent := match script.patience with
    | some k => decide (k ≤ calls.length)
    | none => false
  (if spent then .error .interrupted else script.reply call, calls ++ [call])

end Script

end SyntaxSweep
