import SyntaxSweep.Text.Octets

namespace SyntaxSweep

/-- A set of characters: those in the ranges, or all others. -/
structure CharSet where
  turned : Bool := false
  ranges : List (Char × Char) := []
  deriving DecidableEq, Repr

namespace CharSet

def has (s : CharSet) (c : Char) : Bool :=
  s.ranges.any (fun r => r.1 ≤ c && c ≤ r.2) != s.turned

def single (c : Char) : CharSet :=
  { ranges := [(c, c)] }

def shifted (low high : Char) (up : Bool) (r : Char × Char) : Option (Char × Char) :=
  let a := if low ≤ r.1 then r.1 else low
  let b := if r.2 ≤ high then r.2 else high
  let moved (c : Char) : Char := Char.ofNat (if up then c.toNat - 32 else c.toNat + 32)
  if a ≤ b then some (moved a, moved b) else none

def caseless (s : CharSet) : CharSet :=
  { s with
    ranges := s.ranges ++ s.ranges.filterMap (shifted 'a' 'z' true) ++
      s.ranges.filterMap (shifted 'A' 'Z' false) }

def word : CharSet :=
  { ranges := [('a', 'z'), ('A', 'Z'), ('0', '9'), ('_', '_')] }

def blank : CharSet :=
  { ranges := [(' ', ' '), ('\t', '\r')] }

def turn (s : CharSet) : CharSet :=
  { s with turned := !s.turned }

end CharSet

inductive Edge where
  | lineStart
  | lineEnd
  | wordStart
  | wordEnd
  | wordEdge
  | noWordEdge
  deriving DecidableEq, Repr

inductive Regex where
  | empty
  | one (set : CharSet)
  | edge (e : Edge)
  | sequence (first second : Regex)
  | either (first second : Regex)
  | times (least : Nat) (most : Option Nat) (body : Regex)
  | group (number : Nat) (body : Regex)
  | again (number : Nat) (caseless : Bool)
  deriving DecidableEq, Repr

abbrev Line := Array Char

def Line.isWordAt (text : Line) (n : Nat) : Bool :=
  match text[n]? with
  | some c => CharSet.word.has c
  | none => false

def Edge.holds (text : Line) (n : Nat) (e : Edge) : Bool :=
  let before := 0 < n && text.isWordAt (n - 1)
  let after := text.isWordAt n
  match e with
  | .lineStart => n = 0
  | .lineEnd => n = text.size
  | .wordStart => !before && after
  | .wordEnd => before && !after
  | .wordEdge => before != after
  | .noWordEdge => before == after

namespace Regex

def refersBack : Regex → Bool
  | .sequence a b | .either a b => a.refersBack || b.refersBack
  | .times _ _ body | .group _ body => body.refersBack
  | .again _ _ => true
  | _ => false

def spelled (octets : Octets) : Regex :=
  octets.foldr (fun c e => .sequence (.one (.single c)) e) .empty

def union : Nat → List Nat → List Nat → List Nat → List Nat
  | 0, _, _, done => done.reverse
  | _, [], b, done => done.reverseAux b
  | _, a, [], done => done.reverseAux a
  | fuel + 1, x :: a, y :: b, done =>
    if x < y then union fuel a (y :: b) (x :: done)
    else if y < x then union fuel (x :: a) b (y :: done)
    else union fuel a b (x :: done)

/-- What stands in the first of two lists in order, but not in the second. -/
def without : Nat → List Nat → List Nat → List Nat → List Nat
  | 0, _, _, done => done.reverse
  | _, [], _, done => done.reverse
  | _, a, [], done => done.reverseAux a
  | fuel + 1, x :: a, y :: b, done =>
    if x < y then without fuel a (y :: b) (x :: done)
    else if y < x then without fuel (x :: a) b done
    else without fuel a b done

def merge (a b : List Nat) : List Nat :=
  union (a.length + b.length) a b []

def minus (a b : List Nat) : List Nat :=
  without (a.length + b.length) a b []

def exactly {α : Type} (f : List α → List α) : Nat → List α → List α
  | 0, l => l
  | n + 1, l => if l.isEmpty then [] else exactly f n (f l)

/-- Takes `f` at most so many times, as long as it leads to new places. -/
def atMost (f : List Nat → List Nat) : Nat → List Nat → List Nat → List Nat
  | 0, reached, _ => reached
  | n + 1, reached, last =>
    match minus (f last) reached with
    | [] => reached
    | new => atMost f n (merge reached new) new

/-- The places from `n` on that can be reached from it, or from one of the later places, over characters
that are admitted. -/
def spread (admits : Nat → Bool) : Nat → Nat → List Nat → List Nat → List Nat
  | 0, _, _, done => done.reverse
  | fuel + 1, n, later, done =>
    match later with
    | m :: rest =>
      if m ≤ n + 1 then spread admits fuel m rest (n :: done)
      else if admits n then spread admits fuel (n + 1) later (n :: done)
      else spread admits fuel m rest (n :: done)
    | [] => if admits n then spread admits fuel (n + 1) [] (n :: done) else (n :: done).reverse

def admitsAt (text : Line) (s : CharSet) (n : Nat) : Bool :=
  match text[n]? with
  | some c => s.has c
  | none => false

def ends (text : Line) : Regex → List Nat → List Nat
  | .empty, l => l
  | .one s, l => (l.filter (admitsAt text s)).map (· + 1)
  | .edge e, l => l.filter fun n => e.holds text n
  | .sequence a b, l => ends text b (ends text a l)
  | .either a b, l => merge (ends text a l) (ends text b l)
  | .times least most body, l =>
    let start := exactly (ends text body) least l
    match most, body, start with
    | none, .one s, n :: later => spread (admitsAt text s) (text.size + 2) n later []
    | most, _, start =>
      atMost (ends text body) ((most.map (· - least)).getD (text.size + 1)) start start
  | .group _ body, l => ends text body l
  | .again _ _, _ => []

/-- A place that has been reached, and where the groups were. -/
structure Trace where
  place : Nat
  groups : List (Nat × Nat × Nat) := []
  deriving DecidableEq, Repr

def standsAt (text : Line) (caseless : Bool) (first last n : Nat) : Bool :=
  let same (a b : Char) : Bool := a = b || (caseless && a.toLower = b.toLower)
  n + (last - first) ≤ text.size &&
    (List.range (last - first)).all fun i =>
      match text[first + i]?, text[n + i]? with
      | some a, some b => same a b
      | _, _ => false

/-- Takes `f` at most so many times, as long as it leads to new traces. -/
def atMostTraces (f : List Trace → List Trace) : Nat → List Trace → List Trace → List Trace
  | 0, reached, _ => reached
  | n + 1, reached, last =>
    match (f last).eraseDups.filter (!reached.contains ·) with
    | [] => reached
    | new => atMostTraces f n (reached ++ new) new

def traces (text : Line) : Regex → List Trace → List Trace
  | .empty, l => l
  | .one s, l =>
    (l.filter fun t => admitsAt text s t.place).map fun t => { t with place := t.place + 1 }
  | .edge e, l => l.filter fun t => e.holds text t.place
  | .sequence a b, l => traces text b (traces text a l)
  | .either a b, l => (traces text a l ++ traces text b l).eraseDups
  | .times least most body, l =>
    let start := exactly (traces text body) least l
    atMostTraces (traces text body) ((most.map (· - least)).getD (text.size + 1)) start start
  | .group number body, l =>
    l.flatMap fun t => (traces text body [t]).map fun u =>
      { u with groups := (number, t.place, u.place) :: u.groups.filter (·.1 ≠ number) }
  | .again number caseless, l => l.filterMap fun t => do
    let (a, b) ← t.groups.lookup number
    if standsAt text caseless a b t.place then some { t with place := t.place + (b - a) } else none

def endsFrom (text : Line) (e : Regex) (n : Nat) : List Nat :=
  if e.refersBack then
    (traces text e [⟨n, []⟩]).foldl (fun l t => merge l [t.place]) []
  else ends text e [n]

def occurs (text : Line) (e : Regex) : Bool :=
  let all := List.range (text.size + 1)
  if e.refersBack then all.any fun n => !(traces text e [⟨n, []⟩]).isEmpty
  else !(ends text e all).isEmpty

end Regex

end SyntaxSweep
