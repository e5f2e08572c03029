import SyntaxSweep.Settings.Layer
import SyntaxSweep.Filter
import SyntaxSweep.Text.Blank

namespace SyntaxSweep

structure Settings where
  ignored : List String
  extensions : List String
  roots : List Path
  checker : String
  checkerArgs : List String
  jobs : Nat
  -- In seconds.
  timeout : Option Nat
  deriving DecidableEq, Repr

inductive SettingsProblem where
  | emptyPattern
  | noExtension
  | emptyExtension
  | noRoot
  | emptyRoot
  | noChecker
  | noCheckerArg
  | noJobs
  | noTimeout
  deriving DecidableEq, Repr

def SettingsProblem.message : SettingsProblem → String
  | .emptyPattern => "ignore_patterns must not contain empty strings"
  | .noExtension => "extensions must not be empty"
  | .emptyExtension => "extensions must not contain empty entries"
  | .noRoot => "run_on must not be empty"
  | .emptyRoot => "run_on must not contain empty paths"
  | .noChecker => "checker must not be empty"
  | .noCheckerArg => "checker_args must not be empty; the checker needs its syntax-only flag"
  | .noJobs => "jobs must be at least 1"
  | .noTimeout => "timeout_secs must be at least 1"

def insertText (text : String) : List String → List String
  | [] => [text]
  | t :: rest =>
    if text < t then text :: t :: rest
    else if text = t then t :: rest
    else t :: insertText text rest

def sortedTexts (texts : List String) : List String :=
  texts.foldr insertText []

/-- The elements less the repeated ones; the first of equals stays. -/
def firstOccurrences {α : Type} [DecidableEq α] : List α → List α
  | [] => []
  | a :: rest => a :: (firstOccurrences rest).filter (· ≠ a)

def withoutPoint (extension : String) : String :=
  match extension.toList with
  | '.' :: rest => String.ofList rest
  | _ => extension

namespace Settings

def defaults : Layer where
  ignored := some ["/vendor/", "/node_modules/", "/core/", "modules/contrib"]
  extensions := some ["php", "inc", "install", "module"]
  roots := some ["."]
  checker := some "php"
  checkerArgs := some ["-l"]
  jobs := some 1

/-- Refuses with the problem unless the condition holds. -/
def ensure (condition : Prop) [Decidable condition] (problem : SettingsProblem) :
    Except SettingsProblem Unit :=
  if condition then .ok () else .error problem

def ofLayer (layer : Layer) : Except SettingsProblem Settings := do
  let full := layer.onTopOf defaults
  let ignored := full.ignored.getD []
  let extensions := (full.extensions.getD []).map withoutPoint
  let roots := full.roots.getD []
  let checker := full.checker.getD ""
  let checkerArgs := full.checkerArgs.getD []
  let jobs := full.jobs.getD 0
  ensure ("" ∉ ignored) .emptyPattern
  ensure (extensions ≠ []) .noExtension
  ensure ("" ∉ extensions) .emptyExtension
  ensure (roots ≠ []) .noRoot
  ensure ("" ∉ roots) .emptyRoot
  ensure (trimmed checker ≠ "") .noChecker
  ensure (checkerArgs ≠ []) .noCheckerArg
  ensure (jobs ≠ 0) .noJobs
  ensure (full.timeout ≠ some 0) .noTimeout
  return {
    ignored := sortedTexts ignored
    extensions := firstOccurrences extensions
    roots := roots.map Path.ofText
    checker, checkerArgs, jobs
    timeout := full.timeout }

def filter (s : Settings) : Filter :=
  ⟨s.extensions, s.ignored⟩

def agrees (a b : Settings) : Bool :=
  a.ignored = b.ignored && a.extensions = b.extensions &&
    a.roots.map Path.components = b.roots.map Path.components && a.checker = b.checker &&
    a.checkerArgs = b.checkerArgs && a.jobs = b.jobs && a.timeout = b.timeout

def isDefault (s : Settings) : Bool :=
  match ofLayer .empty with
  | .ok d => s.agrees d
  | .error _ => false

end Settings

end SyntaxSweep
