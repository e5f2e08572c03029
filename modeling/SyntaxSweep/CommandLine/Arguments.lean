import SyntaxSweep.Path.Basic
import SyntaxSweep.Settings.Layer

namespace SyntaxSweep.CommandLine

/-- An option with a value. The first three may be given again and again. -/
inductive Opt where
  | root
  | extension
  | pattern
  | checker
  | jobs
  | timeout
  | config
  | output
  deriving DecidableEq, Repr

inductive Flag where
  | stdin
  | staged
  | verbose
  | help
  | version
  deriving DecidableEq, Repr

inductive Named where
  | opt (o : Opt)
  | flag (f : Flag)
  deriving DecidableEq, Repr

def longNames : List (String × Named) :=
  [("stdin", .flag .stdin), ("staged", .flag .staged), ("run-on", .opt .root),
    ("extension", .opt .extension), ("ignore", .opt .pattern), ("checker", .opt .checker),
    ("jobs", .opt .jobs), ("timeout", .opt .timeout), ("config", .opt .config),
    ("output", .opt .output), ("verbose", .flag .verbose), ("help", .flag .help),
    ("version", .flag .version)]

def shortNames : List (Char × Named) :=
  [('j', .opt .jobs), ('v', .flag .verbose), ('h', .flag .help), ('V', .flag .version)]

def ofLong? (name : Bytes) : Option Named :=
  (longNames.find? fun e => bytesOf e.1 = name).map (·.2)

def ofShort? (letter : UInt8) : Option Named :=
  (shortNames.find? fun e => e.1.toNat = letter.toNat).map (·.2)

inductive Format where
  | human
  | json
  deriving DecidableEq, Repr

def Format.name : Format → String
  | .human => "human"
  | .json => "json"

/-- What a command line says. A field that was not given is `none`, `false` or empty. -/
structure Arguments where
  files : List Path := []
  stdin : Bool := false
  staged : Bool := false
  verbose : Bool := false
  roots : List String := []
  extensions : List String := []
  patterns : List String := []
  checker : Option String := none
  jobs : Option Nat := none
  timeout : Option Nat := none
  config : Option Path := none
  output : Option Format := none
  deriving DecidableEq, Repr

namespace Arguments

def format (a : Arguments) : Format :=
  a.output.getD .human

def given (l : List String) : Option (List String) :=
  if l = [] then none else some l

def layer (a : Arguments) : Layer where
  ignored := given a.patterns
  extensions := given a.extensions
  roots := given a.roots
  checker := a.checker
  jobs := a.jobs
  timeout := a.timeout

def sources (a : Arguments) : Nat :=
  (if a.files = [] then 0 else 1) + a.stdin.toNat + a.staged.toNat

end Arguments

end SyntaxSweep.CommandLine
