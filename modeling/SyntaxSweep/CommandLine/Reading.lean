import SyntaxSweep.CommandLine.Arguments

namespace SyntaxSweep.CommandLine

inductive UsageProblem where
  | helpAsked
  | versionAsked
  | unknownArgument
  | invalidValue
  | badNumber
  | notUtf8
  | tooManyValues
  | conflict
  deriving DecidableEq, Repr

def UsageProblem.exitCode : UsageProblem → Nat
  | .helpAsked | .versionAsked => 0
  | _ => 2

inductive Pending where
  | nothing
  | opt (o : Opt) (value : Option Bytes)
  | files (paths : List Bytes)
  deriving DecidableEq, Repr

def dash : UInt8 := 0x2D

def equals : UInt8 := 0x3D

inductive Token where
  | escape
  | long (name : Bytes) (value : Option Bytes)
  | short (letters : Bytes)
  | word
  deriving DecidableEq, Repr

def afterEquals? (bytes : Bytes) : Option Bytes :=
  match bytes.dropWhile (· ≠ equals) with
  | [] => none
  | _ :: value => some value

def Token.ofBytes (bytes : Bytes) : Token :=
  match bytes with
  | a :: b :: rest =>
    if a ≠ dash then .word
    else if b ≠ dash then .short (b :: rest)
    else if rest = [] then .escape
    else .long (rest.takeWhile (· ≠ equals)) (afterEquals? rest)
  | _ => .word

def textValue (value : Bytes) : Except UsageProblem String :=
  match strictText? value with
  | some s => .ok s
  | none => .error .notUtf8

/-- A number below `2 ^ 64` in decimal digits, perhaps after a plus. -/
def count? (s : List Char) : Option Nat :=
  let digits := match s with
    | '+' :: r => r
    | s => s
  if digits = [] ∨ !digits.all Char.isDigit then none
  else
    let n := digits.foldl (fun n d => n * 10 + (d.toNat - '0'.toNat)) 0
    if n < Nat.pow 2 64 then some n else none

def countValue (value : Bytes) : Except UsageProblem Nat := do
  let s ← textValue value
  match count? s.toList with
  | some n => .ok n
  | none => .error .badNumber

def pathValue (value : Bytes) : Except UsageProblem Path :=
  if value = [] then .error .invalidValue else .ok ⟨value⟩

def formatValue (value : Bytes) : Except UsageProblem Format :=
  if value = bytesOf Format.human.name then .ok .human
  else if value = bytesOf Format.json.name then .ok .json
  else .error .invalidValue

def once {α : Type} (before : Option α) : Except UsageProblem Unit :=
  if before.isSome then .error .conflict else .ok ()

namespace Arguments

/-- The arguments with an option's value stored. That it is given again is found before the value is
looked at. -/
def store (a : Arguments) (o : Opt) (value : Bytes) : Except UsageProblem Arguments :=
  match o with
  | .root => (textValue value).map fun s => { a with roots := a.roots ++ [s] }
  | .extension => (textValue value).map fun s => { a with extensions := a.extensions ++ [s] }
  | .pattern => (textValue value).map fun s => { a with patterns := a.patterns ++ [s] }
  | .checker => do
    once a.checker
    let s ← textValue value
    return { a with checker := some s }
  | .jobs => do
    once a.jobs
    let n ← countValue value
    return { a with jobs := some n }
  | .timeout => do
    once a.timeout
    let n ← countValue value
    return { a with timeout := some n }
  | .config => do
    once a.config
    let p ← pathValue value
    return { a with config := some p }
  | .output => do
    once a.output
    let f ← formatValue value
    return { a with output := some f }

def raise (a : Arguments) : Flag → Except UsageProblem Arguments
  | .stdin => if a.stdin then .error .conflict else .ok { a with stdin := true }
  | .staged => if a.staged then .error .conflict else .ok { a with staged := true }
  | .verbose => if a.verbose then .error .conflict else .ok { a with verbose := true }
  | .help => .error .helpAsked
  | .version => .error .versionAsked

def settle (a : Arguments) : Pending → Except UsageProblem Arguments
  | .nothing => .ok a
  | .opt _ none => .error .invalidValue
  | .opt o (some value) => a.store o value
  | .files paths => do
    let paths ← paths.mapM pathValue
    return { a with files := a.files ++ paths }

end Arguments

/-- A value that is a token of its own, and files, wait and are stored only when the next known thing begins
or the line ends, so an unknown name after them is found first. -/
structure Progress where
  stored : Arguments
  pending : Pending

namespace Progress

def start : Progress := ⟨{}, .nothing⟩

def file (p : Progress) (bytes : Bytes) : Except UsageProblem Progress :=
  match p.pending with
  | .files paths => .ok ⟨p.stored, .files (paths ++ [bytes])⟩
  | _ => do
    let a ← p.stored.settle p.pending
    return ⟨a, .files [bytes]⟩

def opt (p : Progress) (o : Opt) (attached : Option Bytes) : Except UsageProblem Progress := do
  let a ← p.stored.settle p.pending
  match attached with
  | some value =>
    let a ← a.store o value
    return ⟨a, .nothing⟩
  | none => return ⟨a, .opt o none⟩

def flag (p : Progress) (f : Flag) : Except UsageProblem Progress := do
  let a ← p.stored.settle p.pending
  let a ← a.raise f
  return ⟨a, .nothing⟩

/-- A name after two dashes. A flag takes no value, whatever is pending. -/
def long (p : Progress) (name : Bytes) (value : Option Bytes) : Except UsageProblem Progress :=
  match ofLong? name with
  | some (.opt o) => p.opt o value
  | some (.flag f) => if value.isSome then .error .tooManyValues else p.flag f
  | none => .error .unknownArgument

/-- Letters after one dash. What follows the letter of an option is its value, less an equals sign
before it. -/
def short (p : Progress) : Bytes → Except UsageProblem Progress
  | [] => .ok p
  | letter :: rest =>
    match ofShort? letter with
    | some (.opt o) =>
      match rest with
      | [] => p.opt o none
      | first :: value => p.opt o (some (if first = equals then value else first :: value))
    | some (.flag f) => do
      let p ← p.flag f
      p.short rest
    | none => .error .unknownArgument

def word (p : Progress) (bytes : Bytes) : Except UsageProblem Progress :=
  match p.pending with
  | .opt o none => .ok ⟨p.stored, .opt o (some bytes)⟩
  | _ => p.file bytes

/-- The end of the line. Only now it is seen whether two sources of files were named. -/
def finish (p : Progress) : Except UsageProblem Arguments := do
  let a ← p.stored.settle p.pending
  if 1 < a.sources then .error .conflict else .ok a

def read (p : Progress) : List Bytes → Except UsageProblem Arguments
  | [] => p.finish
  | token :: rest =>
    match Token.ofBytes token with
    | .escape => do
      let p ← rest.foldlM file p
      p.finish
    | .long name value => do
      let p ← p.long name value
      p.read rest
    | .short letters => do
      let p ← p.short letters
      p.read rest
    | .word => do
      let p ← p.word token
      p.read rest

end Progress

def read (tokens : List Bytes) : Except UsageProblem Arguments :=
  Progress.start.read tokens

end SyntaxSweep.CommandLine
