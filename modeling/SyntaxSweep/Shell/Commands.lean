import SyntaxSweep.Shell.Signalling

namespace SyntaxSweep.Shell

/-- Builtins that are there even if no program of their name can be found. -/
def regularBuiltins : List String :=
  ["alias", "bg", "cd", "chdir", "command", "false", "fg", "getopts", "hash", "jobs", "kill", "pwd",
    "read", "true", "type", "ulimit", "umask", "unalias", "wait"]

def plainBuiltins : List String :=
  ["echo", "printf", "test", "["]

def isBuiltin (name : Octets) : Bool :=
  let name := String.ofList name
  specialBuiltins.contains name || regularBuiltins.contains name || plainBuiltins.contains name

def isSpecialBuiltin (name : Octets) : Bool :=
  specialBuiltins.contains (String.ofList name)

def takesAssignments (name : Octets) : Bool :=
  ["alias", "export", "local", "readonly"].contains (String.ofList name)

inductive Command where
  | builtin (name : Octets)
  | routine (body : Tree)
  -- A program to be found on the paths, from this one on.
  | program (paths : List Octets)
  | unknown (problem : IoProblem)

def usualSearch : Octets :=
  "/usr/local/sbin:/usr/local/bin:/usr/sbin:/usr/bin:/sbin:/bin".toList

def State.search (s : State) : Octets :=
  (s.value? "PATH".toList).getD []

def directoriesIn (octets : Octets) : List Octets :=
  octets.splitOn ':'

def pathIn (directory name : Octets) : Octets :=
  if directory = [] then name else directory ++ '/' :: name

/-- Looks for a program in directories. What cannot be run is passed over, and remembered. -/
def findProgram (name : Octets) : List Octets → IoProblem → Run Command
  | [], problem => return .unknown problem
  | d :: rest, problem => do
    let path := pathIn d name
    match ← Act.ask (.info path true) with
    | .ok i =>
      if i.kind = .regular ∧ i.executable then return .program (path :: rest.map (pathIn · name))
      findProgram name rest .accessDenied
    | .error e =>
      findProgram name rest (if e = .noEntry ∨ e = .notDirectory then problem else e)

/-- Looks for a command. With `search` the directories are given; with `present` a path must lead
somewhere. -/
def findCommand (name : Octets) (functions : Bool) (search : Option Octets) (present : Bool) :
    Run Command := do
  let s ← get
  if name.contains '/' then
    if present then
      match ← Act.ask (.info name true) with
      | .ok _ => return .program [name]
      | .error e => return .unknown e
    return .program [name]
  match if functions then s.functions.lookup name else none with
  | some body => return .routine body
  | none =>
    if isBuiltin name then return .builtin name
    match if search.isNone then s.known.lookup name else none with
    | some path => return .program [path]
    | none =>
      let found ← findProgram name (directoriesIn (search.getD s.search)) .noEntry
      match search, found with
      | none, .program (path :: _) =>
        modify fun s => { s with known := State.put name path s.known }
      | _, _ => pure ()
      return found

def runText (e : IoProblem) : String :=
  if e = .noEntry ∨ e = .notDirectory then "not found" else e.text

/-- Looks for a command, and complains if there is none. -/
def findOrComplain (name : Octets) (functions : Bool) (search : Option Octets) : Run Command := do
  let found ← findCommand name functions search false
  match found with
  | .unknown e => complain s!"{shown name}: {runText e}"
  | _ => pure ()
  return found

def showAlias (name meaning : Octets) : Run Unit :=
  print (name ++ '=' :: quoted meaning ++ ['\n'])

def describe (name : Octets) (search : Option Octets) (verbose : Bool) : Run Nat := do
  let s ← get
  let told (octets : Octets) : Run Nat := do
    print (if verbose then name ++ octets ++ ['\n'] else octets ++ ['\n'])
    return 0
  let say (text : String) : Run Nat := told (if verbose then text.toList else name)
  if (Keyword.find? name).isSome then return (← say " is a shell keyword")
  match s.aliases.lookup name with
  | some meaning =>
    if verbose then return (← told (" is an alias for ".toList ++ meaning))
    printText "alias "
    showAlias name meaning
    return 0
  | none =>
    let isKnown := search.isNone && (s.known.lookup name).isSome
    match ← findCommand name true search true with
    | .builtin _ =>
      say (if isSpecialBuiltin name then " is a special shell builtin" else " is a shell builtin")
    | .routine _ => say " is a shell function"
    | .program paths =>
      let path := paths.headD name
      if verbose then told ((if isKnown then " is a tracked alias for " else " is ").toList ++ path)
      else told path
    | .unknown _ =>
      if verbose then print (name ++ ": not found\n".toList)
      return 127

def typeBuiltin (arguments : List Octets) : Run Nat := do
  let mut status := 0
  for name in ← operands arguments do
    if 0 < (← describe name none true) then status := 127
  return status

def commandBuiltin (arguments : List Octets) : Run Nat := do
  let (letters, words) ← flags "pvV" arguments
  let search := if letters.contains 'p' then some usualSearch else none
  match words with
  | name :: _ =>
    if letters.contains 'v' ∨ letters.contains 'V' then describe name search (letters.contains 'V')
    else return 0
  | [] => return 0

def hashBuiltin (arguments : List Octets) : Run Nat := do
  let (letters, words) ← flags "r" arguments
  if letters ≠ [] then
    modify fun s => { s with known := [] }
    return 0
  if words = [] then
    for (_, path) in State.byRows 31 (← get).known do
      print (path ++ ['\n'])
  let mut status := 0
  for name in words do
    modify fun s => { s with known := State.without name s.known }
    match ← findOrComplain name true none with
    | .unknown _ => status := 1
    | _ => pure ()
  return status

end SyntaxSweep.Shell
