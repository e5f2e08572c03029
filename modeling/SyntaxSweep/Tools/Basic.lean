import SyntaxSweep.Machine.Task

namespace SyntaxSweep

abbrev Tool := Act Unit Nat

namespace Tool

def task (x : Tool Nat) : Task :=
  x () (fun code _ => .exit code) fun code _ => .exit code

variable {σ : Type}

def send (stream : Nat) (octets : Octets) : Act σ Nat (Except IoProblem Unit) :=
  if octets = [] then return .ok () else Act.ask (.write stream octets)

def complain (text : String) : Act σ Nat Unit := do
  let _ ← send 2 (Octets.ofText text)

def plenty : Nat := 1000000000000

def readAll (stream : Nat) : Nat → List Octets → Act σ Nat (Except IoProblem Octets)
  | 0, before => return .ok before.reverse.flatten
  | fuel + 1, before => do
    match ← Act.ask (.read stream 65536) with
    | .ok [] => return .ok before.reverse.flatten
    | .ok octets => readAll stream fuel (octets :: before)
    | .error e => return .error e

end Tool

inductive Need where
  | nothing
  | value
  | perhaps
  deriving DecidableEq, Repr

/-- An option by its letter, its longer names, and its need. Options without a letter have a sign that
cannot be typed as one. -/
structure Flag where
  letter : Char
  names : List String := []
  need : Need := .nothing

/-- What is read off the arguments of a program, one after the other. -/
inductive Item where
  | option (letter : Char) (value : Option Octets)
  | operand (word : Octets)
  -- The options end here.
  | problem (text : String)
  deriving Repr

namespace Flag

def named (flags : List Flag) (name : String) : List (String × Flag) :=
  let all := flags.flatMap fun f => f.names.map fun n => (n, f)
  match all.filter (·.1 = name) with
  | [] => all.filter fun (n, _) => name.toList.isPrefixOf n.toList
  | exact => exact

def long (flags : List Flag) (word : Octets) (rest : List Octets) : Item × List Octets :=
  let name := word.takeWhile (· ≠ '=')
  let value := if name.length < word.length then some (word.drop (name.length + 1)) else none
  match named flags (Octets.text name) with
  | [] => (.problem s!"unrecognized option '--{Octets.text word}'", rest)
  | (full, f) :: others =>
    if others.any fun o => o.2.letter ≠ f.letter then
      let all := " ".intercalate (((full, f) :: others).map fun o => s!"'--{o.1}'")
      (.problem s!"option '--{Octets.text name}' is ambiguous; possibilities: {all}", rest)
    else
      match f.need, value, rest with
      | .nothing, some _, _ => (.problem s!"option '--{full}' doesn't allow an argument", rest)
      | .value, none, value :: rest => (.option f.letter (some value), rest)
      | .value, none, [] => (.problem s!"option '--{full}' requires an argument", rest)
      | _, value, _ => (.option f.letter value, rest)

def short (flags : List Flag) : Octets → List Octets → List Item × List Octets
  | [], rest => ([], rest)
  | c :: more, rest =>
    match flags.find? fun f => f.letter = c ∧ ' ' ≤ c with
    | none => ([.problem s!"invalid option -- '{Octets.text [c]}'"], rest)
    | some f =>
      match f.need, more, rest with
      | .nothing, more, rest =>
        let (items, rest) := short flags more rest
        (.option c none :: items, rest)
      | .perhaps, more, rest => ([.option c (if more = [] then none else some more)], rest)
      | .value, [], value :: rest => ([.option c (some value)], rest)
      | .value, [], [] => ([.problem s!"option requires an argument -- '{Octets.text [c]}'"], rest)
      | .value, value, rest => ([.option c (some value)], rest)

/-- All that arguments hold. With `ordered` the first word that is no option ends the options. -/
def items (flags : List Flag) (ordered : Bool) : Nat → List Octets → List Item
  | 0, _ => []
  | fuel + 1, words =>
    match words with
    | [] => []
    | ['-', '-'] :: rest => rest.map .operand
    | ('-' :: '-' :: word) :: rest =>
      let (item, rest) := long flags word rest
      item :: items flags ordered fuel rest
    | ('-' :: c :: letters) :: rest =>
      let (found, rest) := short flags (c :: letters) rest
      found ++ items flags ordered fuel rest
    | word :: rest =>
      if ordered then (word :: rest).map .operand else .operand word :: items flags ordered fuel rest

end Flag

def itemsOf (flags : List Flag) (ordered : Bool) (arguments : List Octets) : List Item :=
  Flag.items flags ordered (arguments.length + 1) arguments

end SyntaxSweep
