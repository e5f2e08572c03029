namespace SyntaxSweep.Cancellation

/-- A token: the family whose flag it shares, and its deadline in milliseconds. -/
structure Token where
  family : Nat
  deadline : Option Nat
  deriving DecidableEq, Repr

abbrev Flags := List Nat

def isRaised (flags : Flags) (now : Nat) (t : Token) : Bool :=
  flags.contains t.family || (match t.deadline with
    | some d => decide (d ≤ now)
    | none => false)

/-- The last time that a clock can show, whose seconds are numbers of 63 bits. -/
def lastTime : Nat := 1000 * 0x8000000000000000 - 1

namespace Token

def limited? (t : Token) (now ms : Nat) : Option Token :=
  if now + ms ≤ lastTime then some ⟨t.family, some (now + ms)⟩ else none

/-- The flags at a time, if that of the token is raised by an interruption. -/
def flagsAt (t : Token) (flags : Flags) (interrupt : Option Nat) (now : Nat) : Flags :=
  if interrupt.any (· ≤ now) then t.family :: flags else flags

/-- When the token begins to tell to stop, if there is an interruption at the given time. -/
def stopTime (t : Token) (interrupt : Option Nat) : Option Nat :=
  t.deadline.merge min interrupt

end Token

inductive Action where
  | create (as : String)
  | copy (on as : String)
  | limit (on as : String) (ms : Nat)
  | cancel (on : String)
  | ask (on : String)
  | wait (ms : Nat)
  deriving DecidableEq, Repr

structure State where
  tokens : List (String × Token) := []
  flags : Flags := []
  families : Nat := 0
  now : Nat := 0
  deriving DecidableEq, Repr

namespace State

def find? (s : State) (name : String) : Option Token :=
  s.tokens.lookup name

def put (s : State) (name : String) (t : Token) : State :=
  { s with tokens := (name, t) :: s.tokens }

/-- One action, with the answer if it asks. An action on an unknown name changes nothing. Limits are
taken to end at a time that clocks can show: what sets another one (see `Token.limited?`) panics, and
there is no state after it. -/
def act (s : State) : Action → State × Option Bool
  | .create as => ({ s with families := s.families + 1 }.put as ⟨s.families, none⟩, none)
  | .copy on as =>
    match s.find? on with
    | some t => (s.put as t, none)
    | none => (s, none)
  | .limit on as ms =>
    match s.find? on with
    | some t => (s.put as ⟨t.family, some (s.now + ms)⟩, none)
    | none => (s, none)
  | .cancel on =>
    match s.find? on with
    | some t => ({ s with flags := t.family :: s.flags }, none)
    | none => (s, none)
  | .ask on => (s, (s.find? on).map (isRaised s.flags s.now))
  | .wait ms => ({ s with now := s.now + ms }, none)

end State

def after (history : List Action) : State :=
  history.foldl (fun s a => (s.act a).1) {}

end SyntaxSweep.Cancellation
