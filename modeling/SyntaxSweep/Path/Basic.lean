import SyntaxSweep.Text.Utf8
import SyntaxSweep.Text.Lines

namespace SyntaxSweep

structure Path where
  bytes : Bytes
  deriving DecidableEq, Repr

inductive Component where
  | root
  | here
  | up
  | name (bytes : Bytes)
  deriving DecidableEq, Repr

namespace Path

def slash : UInt8 := 0x2F

def dot : UInt8 := 0x2E

def ofText (text : String) : Path :=
  ⟨bytesOf text⟩

def text (p : Path) : String :=
  lossyText p.bytes

def segments (p : Path) : List Bytes :=
  pieces slash p.bytes

/-- A piece that names nothing, unless it is the first one. -/
def isFiller (segment : Bytes) : Bool :=
  segment = [] || segment = [dot]

def stepOf (segment : Bytes) : Component :=
  if segment = [dot, dot] then .up else .name segment

def stepsOf (segments : List Bytes) : List Component :=
  (segments.filter (!isFiller ·)).map stepOf

def isAbsolute (p : Path) : Bool :=
  p.bytes.head? = some slash

/-- The steps of a path. Empty pieces and single dots count only at the start, where they are the
root and the place itself. -/
def components (p : Path) : List Component :=
  match p.segments with
  | [] => []
  | first :: rest =>
    if first = [] then (if rest = [] then [] else .root :: stepsOf rest)
    else if first = [dot] then .here :: stepsOf rest
    else stepOf first :: stepsOf rest

def fileName? (p : Path) : Option Bytes :=
  match p.components.getLast? with
  | some (.name n) => some n
  | _ => none

def join (p q : Path) : Path :=
  if q.isAbsolute ∨ p.bytes = [] then q
  else if p.bytes.getLast? = some slash then ⟨p.bytes ++ q.bytes⟩
  else ⟨p.bytes ++ slash :: q.bytes⟩

def child (p : Path) (name : Bytes) : Path :=
  p.join ⟨name⟩

def trimSegments (segments : List Bytes) : List Bytes :=
  (segments.reverse.dropWhile isFiller).reverse

def ofSegments (first : Bytes) (rest : List Bytes) : Path :=
  let rest := trimSegments rest
  if first = [] ∧ rest = [] then ⟨[slash]⟩ else ⟨joined slash (first :: rest)⟩

def trimmed (p : Path) : Path :=
  match p.segments with
  | first :: second :: rest => ofSegments first (second :: rest)
  | _ => p

/-- The path less its last step, as far as it can go up: to the root, or to the empty path. -/
def parent? (p : Path) : Option Path :=
  match p.segments with
  | [] => none
  | first :: rest =>
    match (trimSegments rest).reverse with
    | _ :: before => some (ofSegments first before.reverse)
    | [] => if first = [] then none else some ⟨[]⟩

def dropSteps : Nat → List Bytes → List Bytes
  | 0, segments => segments.dropWhile isFiller
  | n + 1, segments => dropSteps n (segments.dropWhile isFiller).tail

def stripPrefix? (p base : Path) : Option Path :=
  let steps := base.components
  if steps = [] then some p.trimmed
  else if steps.isPrefixOf p.components then
    let marks := if steps.head? = some .root ∨ steps.head? = some .here then 1 else 0
    some ⟨joined slash (trimSegments (dropSteps (steps.length - marks) p.segments))⟩
  else none

/-- The steps of a path without the mark of the place itself. Spellings of one way differ in nothing
else. -/
def key (p : Path) : List Component :=
  p.components.filter (· ≠ .here)

end Path

namespace Component

/-- Steps in order: the root, the place itself, upwards, then names octet by octet. -/
def rank : Component → Nat
  | .root => 0
  | .here => 1
  | .up => 2
  | .name _ => 3

def before : Component → Component → Bool
  | .name a, .name b => decide (a < b)
  | a, b => a.rank < b.rank

end Component

def keyBefore : List Component → List Component → Bool
  | [], [] => false
  | [], _ :: _ => true
  | _ :: _, [] => false
  | a :: as, b :: bs => a.before b || (a == b && keyBefore as bs)

end SyntaxSweep
