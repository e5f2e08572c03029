import SyntaxSweep.Shell.State
import SyntaxSweep.Shell.Pattern

namespace SyntaxSweep.Shell

inductive Cell where
  | plain (c : Char)
  | literal (c : Char)
  | quote
  deriving DecidableEq, Repr

/-- A stretch of a word that may be divided. With `bounds` it is divided only where one parameter ends
and the next begins. -/
structure Stretch where
  first : Nat
  last : Nat
  bounds : Bool
  deriving DecidableEq, Repr

/-- A word as far as it has been worked out, the last cell and the last stretch first. -/
structure Worked where
  cells : List Cell := []
  size : Nat := 0
  stretches : List Stretch := []

namespace Worked

def push (w : Worked) (c : Cell) : Worked :=
  { w with cells := c :: w.cells, size := w.size + 1 }

def append (w : Worked) (cells : List Cell) : Worked :=
  cells.foldl push w

def divisible (w : Worked) (first : Nat) (bounds : Bool) : Worked :=
  { w with stretches := ⟨first, w.size, bounds⟩ :: w.stretches }

def since (w : Worked) (first : Nat) : List Cell :=
  (w.cells.take (w.size - first)).reverse

end Worked

namespace Cell

def char? : Cell → Option Char
  | .plain c | .literal c => some c
  | .quote => none

def text (cells : List Cell) : Octets :=
  cells.filterMap char?

def pattern (cells : List Cell) : Pattern :=
  (go true cells []).reverse
where
  go : Bool → List Cell → Pattern → Pattern
    | _, [], out => out
    | _, .quote :: rest, out => go true rest out
    | _, .plain '\\' :: rest, out => go false rest ('\\' :: out)
    | _, .plain c :: rest, out => go true rest (c :: out)
    | fresh, .literal c :: rest, out => go true rest (if fresh then c :: '\\' :: out else c :: out)

end Cell

structure Division where
  start : Nat := 0
  -- From where on the last field is cut off.
  stop : Option Nat := none
  blank : Bool := false
  left : Option Nat
  fields : List (List Cell) := []

def isBlankDivider (c : Char) : Bool :=
  c == ' ' || c == '\t' || c == '\n' || c == '\x00'

def slice (cells : Array Cell) (first last : Nat) : List Cell :=
  (cells.extract first last).toList

def Division.step (cells : Array Cell) (dividers : Octets) (bounds : Bool) (d : Division)
    (place : Nat) : Division :=
  let c := (cells[place]?).bind Cell.char?
  let divides := (c.map fun c => c == '\x00' || dividers.contains c).getD false
  let blank := divides && (c.map isBlankDivider).getD false
  if d.left = some 0 then
    if blank then { d with stop := some (d.stop.getD place) }
    else
      let stop := if divides && d.blank then d.stop else none
      { d with stop, blank := false }
  else
    let (passed, q, d, divides) :=
      if d.blank then
        let q := if divides then place + 1 else place
        (blank, q, { d with start := q }, false)
      else (false, place, d, divides)
    if passed then d
    else if !divides then { d with blank := false }
    else
      let d := if bounds then d else { d with blank }
      if q = d.start ∧ d.blank then { d with start := place + 1, blank := false }
      else
        match d.left with
        | some 1 => { d with left := some 0, stop := some q }
        | left =>
          { d with
            left := left.map (· - 1), fields := slice cells d.start q :: d.fields
            start := place + 1 }

def fieldsOf (w : Worked) (dividers : Octets) (most : Option Nat) : List (List Cell) :=
  let cells := w.cells.reverse.toArray
  let (d, bounds) := w.stretches.reverse.foldl (fun (d, before) (r : Stretch) =>
    let ifs := if r.bounds then [] else dividers
    let d := (List.range (r.last - r.first)).foldl
      (fun d n => d.step cells ifs (before || r.bounds) (r.first + n)) { d with blank := false }
    (d, r.bounds)) (({ left := most } : Division), false)
  let rest := slice cells d.start ((d.stop).getD cells.size)
  (if rest.isEmpty && !bounds then d.fields else rest :: d.fields).reverse

end SyntaxSweep.Shell
