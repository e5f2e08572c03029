import SyntaxSweep.Shell.Expansion

namespace SyntaxSweep.Shell

inductive Lead where
  | file (stream : Nat) (path : Octets) (access : Access)
  | copy (stream source : Nat)
  | close (stream : Nat)
  | document (stream number : Nat) (expanded : Bool)
  deriving Repr

def Lead.stream : Lead → Nat
  | .file stream _ _ | .copy stream _ | .close stream | .document stream _ _ => stream

def badStream {α : Type} : Run α := do
  modify fun s => { s with line := s.reached }
  refuse "Syntax error: Bad fd number"

def leadsOf (capture : Option Tree → Run Octets) : List Redirection → Run (List Lead)
  | [] => return []
  | r :: rest => do
    let named (stream : Nat) (word : Word) (access : Access) : Run Lead := do
      return .file stream (← expandText capture .name word) access
    let first ← match r with
      | .read stream word => named stream word .read
      | .update stream word => named stream word .update
      | .write stream word =>
        named stream word (if (← get).has 'C' then .create else .replace)
      | .overwrite stream word => named stream word .replace
      | .extend stream word => named stream word .extend
      | .copy stream source => pure (.copy stream source)
      | .close stream => pure (.close stream)
      | .document stream number expanded => pure (.document stream number expanded)
      | .copyNamed stream word => do
        match (← expandWord capture word).head? with
        | some ['-'] => pure (.close stream)
        | some [d] => if d.isDigit then pure (.copy stream (d.toNat - '0'.toNat)) else badStream
        | _ => badStream
    return first :: (← leadsOf capture rest)

def openFor (path : Octets) (access : Access) : Run Nat := do
  let access : Access ←
    if access ≠ .create then pure access
    else
      match ← Act.ask (.info path true) with
      | .ok i => pure (if i.kind = .regular then Access.create else .write)
      | .error _ => pure .create
  match ← Act.ask (.openFile path access) with
  | .ok stream => return stream
  | .error e =>
    let missing := e = .noEntry ∨ e = .notDirectory
    if access = .read then
      let why := if missing then "No such file" else e.text
      refuse s!"cannot open {shown path}: {why}"
    else
      let why := if missing then "Directory nonexistent" else e.text
      refuse s!"cannot create {shown path}: {why}"

def remember (stream : Nat) (opened : Option Nat) : Run Unit := do
  match (← get).saved with
  | [] => pure ()
  | first :: _ =>
    if (first.lookup stream).isNone then
      let kept : Option Nat ←
        if opened = some stream then pure none
        else do
          let kept ← Act.ask (.keep stream)
          Act.ask (.close stream)
          pure kept
      modify fun s =>
        match s.saved with
        | [] => s
        | first :: rest => { s with saved := ((stream, kept) :: first) :: rest }

def lead (capture : Option Tree → Run Octets) (keeping : Bool) (l : Lead) : Run Unit := do
  let stream := l.stream
  let remembered (opened : Option Nat) : Run Unit := if keeping then remember stream opened else pure ()
  let moved (opened : Nat) : Run Unit := do
    remembered (some opened)
    if opened ≠ stream then
      let _ ← Act.ask (.copy opened stream)
      Act.ask (.close opened)
  match l with
  | .file _ path access => moved (← openFor path access)
  | .document _ number expanded =>
    let word := ((← get).documents[number]?).getD []
    let text ← if expanded then expandText capture .document word else pure (Read.markText word)
    moved (← Act.ask (.document text))
  | .copy _ source =>
    if source ≠ stream then
      remembered (some source)
      match ← Act.ask (.copy source stream) with
      | .ok () => pure ()
      | .error e => refuse s!"{source}: {e.text}"
  | .close _ =>
    remembered none
    Act.ask (.close stream)

/-- Leads the streams of the last command that redirected any back to where they led. With `forget` they
stay where they are. -/
def leadBack (forget : Bool) : Run Unit := do
  match (← get).saved with
  | [] => pure ()
  | frame :: rest =>
    modify fun s => { s with saved := rest }
    for (stream, kept) in frame do
      match kept with
      | none => if !forget then Act.ask (.close stream)
      | some kept =>
        if !forget then
          let _ ← Act.ask (.copy kept stream)
        Act.ask (.close kept)

def unwind (saved covered : Nat) : Run Unit := do
  let s ← get
  for _ in List.range (s.saved.length - saved) do
    leadBack false
  for _ in List.range (s.covered.length - covered) do
    uncover

end SyntaxSweep.Shell
