import SyntaxSweep.IoProblem
import SyntaxSweep.Settings.Basic
import SyntaxSweep.Settings.Reading

namespace SyntaxSweep

inductive SettingsFault where
  | refused (problem : SettingsProblem)
  | unreadable (file : Path) (cause : IoProblem)
  | notFound (file : Path)
  | stated (text : String)

inductive ListFault where
  | unreadable (cause : IoProblem)
  | gitNotStarted (cause : IoProblem)
  | gitFailed (args : List String) (complaint : String)
  | stated (text : String)

inductive Failure where
  | settings (fault : SettingsFault)
  | document (file : Path) (problem : DocumentProblem)
  | checkerNotStarted (program : String) (cause : IoProblem)
  | missingRoot (root : Path)
  | traversal (root place : Path) (cause : IoProblem)
  | fileList (fault : ListFault)
  | interrupted
  | io (cause : IoProblem)

namespace SettingsFault

def message : SettingsFault → String
  | .refused problem => problem.message
  | .unreadable file cause => s!"cannot read {file.text}: {cause.message}"
  | .notFound file => s!"config file not found: {file.text}"
  | .stated text => text

end SettingsFault

namespace ListFault

def message : ListFault → String
  | .unreadable cause => s!"cannot read file list: {cause.message}"
  | .gitNotStarted cause => s!"failed to run git: {cause.message}"
  | .gitFailed args complaint =>
    let args := " ".intercalate args
    s!"git {args} failed: {complaint}"
  | .stated text => text

end ListFault

namespace Failure

def message : Failure → String
  | .settings fault => s!"Configuration error: {fault.message}"
  | .document file _ => s!"Configuration error: cannot parse {file.text}"
  | .checkerNotStarted program cause =>
    s!"Syntax checker `{program}` could not be started: {cause.message}"
  | .missingRoot root => s!"Scan root does not exist: {root.text}"
  | .traversal root place cause =>
    s!"Cannot traverse {root.text}: IO error for operation on {place.text}: {cause.message}"
  | .fileList fault => s!"File context error: {fault.message}"
  | .interrupted => "Run interrupted"
  | .io cause => s!"IO error: {cause.message}"

def exitCode : Failure → Nat
  | .checkerNotStarted _ _ => 3
  | .interrupted => 130
  | _ => 2

end Failure

end SyntaxSweep
