import SyntaxSweep.IoProblem
import SyntaxSweep.Path.Basic
import SyntaxSweep.Text.Octets

namespace SyntaxSweep

inductive Access where
  | read
  -- The file is made if it is missing and emptied if it is there.
  | replace
  -- The file must be missing.
  | create
  -- Whatever is written comes to stand at the end.
  | extend
  -- The file must be there and is left as it is.
  | write
  | update
  deriving DecidableEq, Repr

inductive FileKind where
  | regular
  | directory
  | link
  | device
  | pipe
  deriving DecidableEq, Repr

/-- What is known of a file without opening it. Files with one mark are one file. -/
structure FileInfo where
  kind : FileKind
  size : Nat
  executable : Bool
  mark : List Bytes
  position : Nat := 0
  appends : Bool := false
  deriving DecidableEq, Repr

inductive Disposition where
  | default
  | ignored
  | caught
  deriving DecidableEq, Repr

inductive ProcessEnd where
  | exited (code : Nat)
  | killed (signal : Nat)
  deriving DecidableEq, Repr

/-- What is heard of the children that are waited for. -/
inductive News where
  | ended (child : Nat) (how : ProcessEnd)
  | childless
  | running
  | interrupted
  deriving DecidableEq, Repr

/-- What a program can ask of the machine. Streams and processes go by numbers. -/
inductive Request where
  | step
  | openFile (path : Octets) (access : Access)
  | document (text : Octets)
  | makePipe
  | close (stream : Nat)
  | copy (source target : Nat)
  -- A copy with a high number, which a program launched later does not get.
  | keep (stream : Nat)
  | read (stream count : Nat)
  | readLine (stream : Nat)
  | write (stream : Nat) (octets : Octets)
  | seek (stream position : Nat)
  | info (path : Octets) (follow : Bool)
  | streamInfo (stream : Nat)
  | entries (path : Octets)
  | enter (path : Octets)
  | here
  | wait (child : Option Nat) (patient : Bool)
  | sleep (ms : Nat)
  | signal (target number : Nat)
  | onSignal (number : Nat) (disposition : Disposition)
  | identity
  | clock
  -- Goes on as another program, which gets arguments, the first of them its name, and bindings.
  | launch (path : Octets) (arguments : List Octets) (bindings : List (Octets × Octets))
  | askGit (arguments : List Octets)

def Request.Answer : Request → Type
  | .step => List Nat
  | .openFile _ _ => Except IoProblem Nat
  | .document _ => Nat
  | .makePipe => Nat × Nat
  | .close _ => Unit
  | .copy _ _ => Except IoProblem Unit
  | .keep _ => Option Nat
  | .read _ _ => Except IoProblem Octets
  | .readLine _ => Except IoProblem Octets
  | .write _ _ => Except IoProblem Unit
  | .seek _ _ => Unit
  | .info _ _ => Except IoProblem FileInfo
  | .streamInfo _ => Except IoProblem FileInfo
  | .entries _ => Except IoProblem (List Octets)
  | .enter _ => Except IoProblem Unit
  | .here => Octets
  | .wait _ _ => News
  | .sleep _ => Unit
  | .signal _ _ => Except IoProblem Unit
  | .onSignal _ _ => Disposition
  | .identity => Nat × Nat
  | .clock => Nat
  | .launch _ _ _ => IoProblem
  | .askGit _ => Octets × Octets × Nat

inductive Task where
  | exit (code : Nat)
  | ask (request : Request) (next : request.Answer → Task)
  | fork (child : Task) (next : Nat → Task)

def Act (σ ε α : Type) : Type :=
  σ → (α → σ → Task) → (ε → σ → Task) → Task

namespace Act

variable {σ ε α β : Type}

@[always_inline, inline]
protected def pure (a : α) : Act σ ε α := fun s next _ => next a s

@[always_inline, inline]
protected def bind (x : Act σ ε α) (f : α → Act σ ε β) : Act σ ε β := fun s next leave =>
  x s (fun a s => f a s next leave) leave

instance : Monad (Act σ ε) where
  pure := Act.pure
  bind := Act.bind

instance : MonadStateOf σ (Act σ ε) where
  get := fun s next _ => next s s
  set s := fun _ next _ => next () s
  modifyGet f := fun s next _ => let (a, s) := f s; next a s

instance : MonadExceptOf ε (Act σ ε) where
  throw e := fun s _ leave => leave e s
  tryCatch x handle := fun s next leave => x s next fun e s => handle e s next leave

def ask (r : Request) : Act σ ε r.Answer := fun s next _ => .ask r fun a => next a s

def fork (child : σ → Task) : Act σ ε Nat := fun s next _ => .fork (child s) fun n => next n s

end Act

end SyntaxSweep
