import SyntaxSweep.Machine.Streams

namespace SyntaxSweep

def imageMark : Octets := ['\x7f', 'E', 'L', 'F']

inductive Image where
  | program (name : Octets)
  | script (interpreter : Octets) (argument : Option Octets)
  | unknown

namespace Image

def headSize : Nat := 256

def isBlank (c : Char) : Bool :=
  c == ' ' || c == '\t'

/-- The line that names an interpreter, out of the head of a file. Blanks at its end are no part of it.
A line that does not end there must show where its first word does. -/
def line? (head : Octets) : Option Octets :=
  let whole := head.takeWhile (· ≠ '\x00')
  let line := whole.takeWhile (· ≠ '\n')
  let trimmed (l : Octets) : Octets := (l.reverse.dropWhile isBlank).reverse
  if line.length < whole.length then some (trimmed line)
  else
    let words := line.dropWhile isBlank
    if words = [] then none
    else if whole.length + 2 < headSize then some line
    else if words.any isBlank then some (trimmed line.dropLast)
    else none

def ofOctets (data : Octets) : Image :=
  if imageMark.isPrefixOf data then .program (data.drop imageMark.length)
  else
    match data.take headSize with
    | '#' :: '!' :: head =>
      match line? head with
      | none => .unknown
      | some line =>
        let line := line.dropWhile isBlank
        let interpreter := line.takeWhile (!isBlank ·)
        let rest := (line.drop interpreter.length).dropWhile isBlank
        if interpreter = [] then .unknown
        else .script interpreter (if rest = [] then none else some rest)
    | _ => .unknown

end Image

namespace Machine

def runnable? (m : Machine) (d : Disk) (path : Octets) : Except IoProblem Octets :=
  let path : Path := ⟨Octets.toBytes path⟩
  match d.node? true path, d.place? true path with
  | .error e, _ | _, .error e => .error e
  | .ok (.file data true), .ok place =>
    match m.changed.lookup place with
    | some content => .ok content.octets
    | none => .ok (Octets.ofBytes data)
  | .ok _, _ => .error .accessDenied

/-- The path of the first program of a name in directories. A file that may not be run is passed over,
and remembered. -/
def findIn (m : Machine) (d : Disk) (name : Octets) (problem : IoProblem) :
    List Path → Except IoProblem Octets
  | [] => .error problem
  | directory :: rest =>
    let path := Octets.ofBytes (directory.join ⟨Octets.toBytes name⟩).bytes
    match m.runnable? d path with
    | .ok _ => .ok path
    | .error .accessDenied => findIn m d name .accessDenied rest
    | .error _ => findIn m d name problem rest

def findProgram (m : Machine) (d : Disk) (name : Octets) : Except IoProblem Octets :=
  if name = [] then .error .noEntry
  else if name.contains '/' then .ok name
  else if Disk.longestName < name.length then .error .nameTooLong
  else m.findIn d name .noEntry m.search

def mostInterpreters : Nat := 5

def longestArgument : Nat := 131072

def argumentRoom : Nat := 2088960

def resolve (m : Machine) (d : Disk) (path : Octets) (arguments : List Octets) :
    Nat → Except IoProblem ((List Octets → List (Octets × Octets) → Task) × List Octets)
  | 0 => .error .tooManyLinks
  | fuel + 1 => do
    let data ← m.runnable? d path
    match Image.ofOctets data with
    | .unknown => .error .notExecutable
    | .program name =>
      match m.programs name with
      | some program => .ok (program, arguments)
      | none => .error .notExecutable
    | .script interpreter argument =>
      resolve m d interpreter
        (interpreter :: argument.toList ++ path :: arguments.drop 1) fuel

def launch (m : Machine) (d : Disk) (path : Octets) (arguments : List Octets)
    (bindings : List (Octets × Octets)) : Except IoProblem Task := do
  let _ ← m.runnable? d path
  let lengths := arguments.map List.length ++
    bindings.map fun b => b.1.length + b.2.length + 1
  if lengths.any (longestArgument ≤ ·) then .error .tooManyArguments
  else if argumentRoom < lengths.foldl (· + · + 9) 0 then .error .tooManyArguments
  else
    let (program, arguments) ← m.resolve d path arguments (mostInterpreters + 1)
    return program arguments bindings

end Machine

end SyntaxSweep
