import SyntaxSweep.Shell.Syntax

namespace SyntaxSweep.Shell

/-- What is being looked for when the next token is read. -/
structure Look where
  -- The ends of lines mean nothing here.
  newlines : Bool := false
  keywords : Bool := false
  aliases : Bool := false
  -- The token is the mark that ends a document.
  mark : Bool := false
  deriving DecidableEq, Repr

/-- A document of which only the beginning was seen. It stands in the lines that follow. -/
structure Promise where
  number : Nat
  mark : Octets
  indented : Bool
  expanded : Bool
  deriving DecidableEq, Repr

structure Below where
  name : Octets
  endsBlank : Bool
  ahead : List Char

/-- The kind of a redirection whose word is still to come. -/
inductive RedirectionKind where
  | read
  | update
  | write
  | overwrite
  | extend
  | copy
  | document (indented : Bool)
  deriving DecidableEq, Repr

structure Reader where
  ahead : List Char
  below : List Below := []
  line : Nat := 1
  aliases : List (Octets × Octets) := []
  -- The last token is read again.
  again : Bool := false
  token : Token := .newline
  word : Word := []
  quoted : Bool := false
  kind : RedirectionKind := .read
  stream : Nat := 0
  look : Look := {}
  promises : List Promise := []
  documents : Array Word := #[]

abbrev Read := EStateM SyntaxProblem Reader

def plenty : Nat := 1000000000000

namespace Read

def leaveAliases (r : Reader) : List Below → Option Char × Reader
  | [] => (none, { r with below := [] })
  | b :: more =>
    let r := { r with look := { r.look with aliases := r.look.aliases || b.endsBlank } }
    match b.ahead with
    | c :: rest => (some c, { r with ahead := rest, below := more })
    | [] => leaveAliases r more

def next : Read (Option Char) :=
  modifyGet fun r =>
    match r.ahead with
    | c :: rest => (some c, { r with ahead := rest })
    | [] => leaveAliases r r.below

def back : Option Char → Read Unit
  | some c => modify fun r => { r with ahead := c :: r.ahead }
  | none => pure ()

def lineEnd : Read Unit :=
  modify fun r => { r with line := r.line + 1 }

def nextJoined : Nat → Read (Option Char)
  | 0 => pure none
  | fuel + 1 => do
    match ← next with
    | some '\\' =>
      match ← next with
      | some '\n' => do
        lineEnd
        nextJoined fuel
      | c => do
        back c
        return some '\\'
    | c => return c

def joined : Read (Option Char) :=
  nextJoined plenty

def again : Read Unit :=
  modify fun r => { r with again := true }

def look (l : Look) : Read Unit :=
  modify fun r => { r with look := l }

def found (t : Token) : Read Token := do
  modify fun r => { r with token := t }
  return t

def unexpected {α : Type} (expected : Option Token) : Read α := do
  throw (.unexpected (← get).token expected)

def enterAlias (name text : Octets) : Read Unit :=
  modify fun r =>
    let endsBlank := text.getLast? == some ' ' || text.getLast? == some '\t'
    { r with ahead := text, below := ⟨name, endsBlank, r.ahead⟩ :: r.below }

end Read

end SyntaxSweep.Shell
