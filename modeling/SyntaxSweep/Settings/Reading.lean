import SyntaxSweep.Settings.Layer
import SyntaxSweep.Toml.Reading
import SyntaxSweep.Decimal.Shortest
import SyntaxSweep.Text.Quoted

namespace SyntaxSweep

inductive Key where
  | ignored
  | extensions
  | roots
  | checker
  | checkerArgs
  | jobs
  | timeout
  deriving DecidableEq, Repr

namespace Key

def all : List Key :=
  [.ignored, .extensions, .roots, .checker, .checkerArgs, .jobs, .timeout]

def name : Key → String
  | .ignored => "ignore_patterns"
  | .extensions => "extensions"
  | .roots => "run_on"
  | .checker => "checker"
  | .checkerArgs => "checker_args"
  | .jobs => "jobs"
  | .timeout => "timeout_secs"

def ofName? (name : String) : Option Key :=
  all.find? (·.name = name)

end Key

inductive Wanted where
  | sequence
  | text
  | count
  | seconds
  deriving DecidableEq, Repr

def Wanted.name : Wanted → String
  | .sequence => "a sequence"
  | .text => "a string"
  | .count => "usize"
  | .seconds => "u64"

inductive DocumentProblem where
  | unreadable
  | unknownKey (name : String)
  | wrongKind (found : Toml.Value) (wanted : Wanted)
  | negative (n : Int) (wanted : Wanted)

namespace DocumentProblem

def describe : Toml.Value → String
  | .string text => "string " ++ quoted text
  | .integer n => s!"integer `{n}`"
  | .float x => s!"floating point `{x.text}`"
  | .boolean b => s!"boolean `{b}`"
  | .array _ => "sequence"
  | .dateTime _ | .table _ => "map"

def message : DocumentProblem → String
  | .unreadable => "syntax"
  | .unknownKey name =>
    let known := ", ".intercalate (Key.all.map fun k => s!"`{k.name}`")
    s!"unknown field `{name}`, expected one of {known}"
  | .wrongKind found wanted => s!"invalid type: {describe found}, expected {wanted.name}"
  | .negative n wanted => s!"invalid value: integer `{n}`, expected {wanted.name}"

end DocumentProblem

namespace Toml.Value

def text? : Value → Except DocumentProblem String
  | .string text => .ok text
  | v => .error (.wrongKind v .text)

def texts? : Value → Except DocumentProblem (List String)
  | .array items => items.mapM text?
  | v => .error (.wrongKind v .sequence)

def natural? (wanted : Wanted) : Value → Except DocumentProblem Nat
  | .integer n => if n < 0 then .error (.negative n wanted) else .ok n.toNat
  | v => .error (.wrongKind v wanted)

end Toml.Value

namespace Layer

def say (layer : Layer) (key : Key) (v : Toml.Value) : Except DocumentProblem Layer :=
  match key with
  | .ignored => v.texts?.map fun l => { layer with ignored := some l }
  | .extensions => v.texts?.map fun l => { layer with extensions := some l }
  | .roots => v.texts?.map fun l => { layer with roots := some l }
  | .checker => v.text?.map fun t => { layer with checker := some t }
  | .checkerArgs => v.texts?.map fun l => { layer with checkerArgs := some l }
  | .jobs => (v.natural? .count).map fun n => { layer with jobs := some n }
  | .timeout => (v.natural? .seconds).map fun n => { layer with timeout := some n }

def ofDocument (d : Toml.Document) : Except DocumentProblem Layer :=
  d.foldlM (fun layer e =>
    match Key.ofName? e.1 with
    | some key => layer.say key e.2
    | none => .error (.unknownKey e.1)) empty

def read (text : List Char) : Except DocumentProblem Layer :=
  match Toml.Document.read? text with
  | some d => ofDocument d
  | none => .error .unreadable

end Layer

end SyntaxSweep
