import SyntaxSweep.Machine.Task
import SyntaxSweep.Shell.Reading

namespace SyntaxSweep.Shell

/-- Why a script, or a part of it, is left early. The status is that of the shell at the time. -/
inductive Leave where
  | refused
  | over
  deriving DecidableEq, Repr

/-- What is passed over on the way out of loops and functions. -/
inductive Skip where
  | nothing
  | loops
  | round
  | function
  -- A function is left with the status that there is.
  | functionAsIs
  deriving DecidableEq, Repr

structure Binding where
  value : Option Octets
  exported : Bool := false
  fixed : Bool := false
  deriving DecidableEq, Repr

/-- Commands that were started together, and what has become of each. -/
structure Job where
  place : Nat
  processes : List (Nat × Option ProcessEnd)
  heard : Bool := false

structure State where
  name : Octets
  arguments : List Octets
  bindings : List (Octets × Binding)
  functions : List (Octets × Tree) := []
  aliases : List (Octets × Octets) := []
  options : List Char := []
  status : Nat := 0
  -- The status of the last output that a command gave to a word.
  inner : Nat := 0
  -- The status when the script was told to end, or a signal was seen.
  held : Option Nat := none
  line : Nat := 0
  reached : Nat := 0
  command : Option Octets := none
  loops : Nat := 0
  skip : Skip := .nothing
  -- How many loops are left.
  skips : Nat := 0
  shell : Nat := 0
  parent : Nat := 0
  lastBackground : Nat := 0
  jobs : List Job := []
  traps : List (Nat × Octets) := []
  -- The signals that were ignored from the beginning.
  deaf : List Nat := []
  -- The other signals with which anything has been done.
  touched : List Nat := []
  signals : List Nat := []
  -- Where programs have been found.
  known : List (Octets × Octets) := []
  -- The directory by the name under which it was entered.
  here : Octets := []
  -- What variables were before a function or a command had them for itself. The options stand under
  -- a dash.
  covered : List (List (Octets × Option Binding)) := []
  -- Where the streams led that were redirected, for each command that did so.
  saved : List (List (Nat × Option Nat)) := []
  errors : Nat := 2
  printed : List Octets := []
  documents : Array Word := #[]
  -- The place of the next argument that `getopts` looks at, and of the letter in it.
  optionPlace : Nat := 1
  optionLetter : Option Nat := none
  mask : Nat := 0o22

abbrev Run := Act State Leave

def shown (octets : Octets) : String :=
  Octets.text octets

def decimalValue (digits : Octets) : Nat :=
  digits.foldl (fun n d => n * 10 + (d.toNat - '0'.toNat)) 0

namespace State

def has (s : State) (option : Char) : Bool :=
  s.options.contains option

def value? (s : State) (name : Octets) : Option Octets :=
  (s.bindings.lookup name).bind (·.value)

def put {α : Type} (name : Octets) (a : α) : List (Octets × α) → List (Octets × α)
  | [] => [(name, a)]
  | (n, b) :: rest => if n = name then (name, a) :: rest else (n, b) :: put name a rest

def without {α : Type} (name : Octets) (l : List (Octets × α)) : List (Octets × α) :=
  l.filter (·.1 ≠ name)

def dividers (s : State) : Octets :=
  (s.value? "IFS".toList).getD [' ', '\t', '\n']

def row (rows : Nat) (name : Octets) : Nat :=
  (16 * ((name.head?).map Char.toNat).getD 0 + name.foldl (fun n c => n + c.toNat) 0) % rows

def byRows {α : Type} (rows : Nat) (l : List (Octets × α)) : List (Octets × α) :=
  l.mergeSort fun a b => decide (row rows a.1 ≤ row rows b.1)

def exports (s : State) : List (Octets × Octets) :=
  byRows 39 (s.bindings.filterMap fun (name, b) =>
    if b.exported then b.value.map (name, ·) else none)

end State

def send (stream : Nat) (octets : Octets) : Run Unit := do
  if octets ≠ [] then let _ ← Act.ask (.write stream octets)

def sendText (stream : Nat) (text : String) : Run Unit :=
  send stream (Octets.ofText text)

def print (octets : Octets) : Run Unit :=
  modify fun s => { s with printed := octets :: s.printed }

def printText (text : String) : Run Unit :=
  print (Octets.ofText text)

def complain (text : String) : Run Unit := do
  let s ← get
  let about := match s.command with
    | some command => s!"{shown command}: "
    | none => ""
  sendText 2 s!"{shown s.name}: {s.line}: {about}{text}\n"

def refuse {α : Type} (text : String) : Run α := do
  complain text
  modify fun s => { s with status := 2 }
  throw .refused

def setStatus (code : Nat) : Run Unit :=
  modify fun s => { s with status := code }

/-- A whole number that octets spell in base ten, blanks around it left out. -/
def integer? (octets : Octets) : Option Int :=
  let isBlank (c : Char) : Bool := c == ' ' || ('\t' ≤ c && c ≤ '\r')
  let word := octets.dropWhile isBlank
  let (minus, word) := match word with
    | '-' :: r => (true, r)
    | '+' :: r => (false, r)
    | r => (false, r)
  let digits := word.takeWhile Char.isDigit
  let rest := (word.drop digits.length).dropWhile isBlank
  let n : Int := if minus then -(decimalValue digits : Int) else decimalValue digits
  if digits = [] ∨ rest ≠ [] ∨ n < -9223372036854775808 ∨ 9223372036854775807 < n then none
  else some n

def badNumber {α : Type} (octets : Octets) : Run α :=
  refuse s!"Illegal number: {shown octets}"

def integer (octets : Octets) : Run Int :=
  match integer? octets with
  | some n => return n
  | none => badNumber octets

def number (octets : Octets) : Run Nat := do
  let n ← integer octets
  if n < 0 ∨ 2147483647 < n then badNumber octets else return n.toNat

def assign (name value : Octets) (exported : Bool) : Run Unit := do
  if !isName name then refuse s!"{shown name}: bad variable name"
  let s ← get
  let before := (s.bindings.lookup name).getD ⟨none, false, false⟩
  if before.fixed then refuse s!"{shown name}: is read only"
  let b : Binding := { before with
    value := some value, exported := before.exported || exported || s.has 'a' }
  set { s with bindings := State.put name b s.bindings }
  if name = "PATH".toList then modify fun s => { s with known := [] }
  if name = "OPTIND".toList then
    let n ← number value
    modify fun s => { s with optionPlace := max n 1, optionLetter := none }

def unassign (name : Octets) : Run Unit := do
  if !isName name then refuse s!"{shown name}: bad variable name"
  let s ← get
  if ((s.bindings.lookup name).map (·.fixed)).getD false then refuse s!"{shown name}: is read only"
  set { s with bindings := State.without name s.bindings }

def assignmentIn (octets : Octets) : Octets × Option Octets :=
  let name := octets.takeWhile (· ≠ '=')
  (name, if name.length < octets.length then some (octets.drop (name.length + 1)) else none)

/-- A variable is kept as it is for the time after the function or the command, and then changed. -/
def cover (octets : Octets) (exported : Bool) : Run Unit := do
  let (name, value) := assignmentIn octets
  let s ← get
  let keep (b : Option Binding) : Run Unit := do
    match s.covered with
    | [] => pure ()
    | first :: rest => set { s with covered := ((name, b) :: first) :: rest }
  if octets = ['-'] then return (← keep (some ⟨some s.options, false, false⟩))
  if !isName name then refuse s!"{shown name}: bad variable name"
  keep (s.bindings.lookup name)
  match value with
  | some value => assign name value exported
  | none => pure ()

def uncover : Run Unit :=
  modify fun s =>
    match s.covered with
    | [] => s
    | first :: rest =>
      let options := (first.lookup ['-']).bind fun b => b.bind (·.value)
      let others := first.filter (·.1 ≠ ['-'])
      { s with
        covered := rest
        options := options.getD s.options
        known := if others.any (·.1 = "PATH".toList) then [] else s.known
        bindings := others.foldl (fun l (name, before) =>
          match before with
          | some b => State.put name b l
          | none => State.without name l) s.bindings }

end SyntaxSweep.Shell
