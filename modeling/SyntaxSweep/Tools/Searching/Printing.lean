import SyntaxSweep.Tools.Searching.Finding

namespace SyntaxSweep.Search

/-- The output of a search that has not been sent yet, the last piece first, and what has gone wrong. -/
structure Output where
  pieces : List Octets := []
  size : Nat := 0
  lost : Bool := false
  used : Bool := false
  failed : Bool := false

abbrev Work := Act Output Nat

def heldBack : Nat := 4096

def release (c : Caller) : Work Unit := do
  let o ← get
  set { o with pieces := [], size := 0 }
  match ← Tool.send 1 o.pieces.reverse.flatten with
  | .ok () => pure ()
  | .error e =>
    Tool.complain s!"{c.text}: write error: {e.text}\n"
    throw 2

/-- Sends the output before something else is said. A failure is told of at the end. -/
def releaseFirst : Work Unit := do
  let o ← get
  set { o with pieces := [], size := 0 }
  match ← Tool.send 1 o.pieces.reverse.flatten with
  | .ok () => pure ()
  | .error _ => modify fun o => { o with lost := true }

def say (c : Caller) (text : String) : Work Unit := do
  releaseFirst
  Tool.complain s!"{c.text}: {text}\n"

def wrong (c : Caller) (a : Asked) (name : Octets) (why : String) : Work Unit := do
  if !a.silent then say c s!"{Octets.text name}: {why}"
  modify fun o => { o with failed := true }

def put (c : Caller) (octets : Octets) : Work Unit := do
  modify fun o => { o with pieces := octets :: o.pieces, size := o.size + octets.length }
  if heldBack ≤ (← get).size then release c

structure Entry where
  octets : Octets
  number : Nat
  offset : Nat

structure Source where
  name : Octets
  named : Bool
  width : Nat

namespace Asked

def lineEnd (a : Asked) : Char :=
  if a.zeros then '\x00' else '\n'

def paint (a : Asked) (colour : String) (octets : Octets) : Octets :=
  if a.coloured then
    "\x1b[".toList ++ colour.toList ++ "m\x1b[K".toList ++ octets ++ "\x1b[m\x1b[K".toList
  else octets

def nameText (a : Asked) (s : Source) (mark : Char) : Octets :=
  if s.named then
    a.paint "35" s.name ++ (if a.zeroNames then ['\x00'] else a.paint "36" [mark])
  else []

/-- What stands before a line, or before a part of it that begins later. -/
def lead (a : Asked) (s : Source) (e : Entry) (start length : Nat) (mark : Char) : Octets :=
  let number (n : Nat) : Octets :=
    let digits := Octets.ofNat n
    a.paint "32" (List.replicate (s.width - digits.length) ' ' ++ digits) ++ a.paint "36" [mark]
  a.nameText s mark ++ (if a.numbers then number e.number else []) ++
    (if a.offsets then number (e.offset + start) else []) ++
    (if a.aligned && (s.named || a.numbers || a.offsets) && length ≠ 0 then ['\t'] else [])

/-- A line as it is printed; lines that only stand around others have another mark. -/
def lineText (a : Asked) (sought : Sought) (s : Source) (e : Entry) (selected : Bool) : Octets :=
  let mark := if selected then ':' else '-'
  let isMatch := selected != a.inverted
  let isEnd := [a.lineEnd]
  if a.only then
    if isMatch then
      let text := e.octets.toArray
      (sought.allMatches text).flatMap fun (n, m) =>
        a.lead s e n (m - n) mark ++ a.paint "01;31" ((text.extract n m).toList) ++ isEnd
    else []
  else if a.coloured && isMatch then
    let text := e.octets.toArray
    let (pieces, last) := (sought.allMatches text).foldl (fun (done, at_) (n, m) =>
      (a.paint "01;31" (text.extract n m).toList :: (text.extract at_ n).toList :: done, m))
      (([] : List Octets), 0)
    a.lead s e 0 e.octets.length mark ++ pieces.reverse.flatten ++
      (text.extract last text.size).toList ++ isEnd
  else a.lead s e 0 e.octets.length mark ++ e.octets ++ isEnd

end Asked

structure Progress where
  number : Nat := 0
  offset : Nat := 0
  found : Nat := 0
  left : Option Nat := none
  -- How many lines after the last match are still to be printed.
  pending : Nat := 0
  recent : List Entry := []
  -- How many lines have come since the last one that was printed.
  since : Option Nat := none
  afterMatch : Nat := 0
  quiet : Bool := false
  brief : Bool := false
  -- How many lines had been found when the file proved to be no text.
  foundInText : Option Nat := none

namespace Progress

def isDone (p : Progress) : Bool :=
  (p.left = some 0 && p.pending = 0) || (p.brief && p.foundInText.getD 0 < p.found)

end Progress

def putAround (c : Caller) (a : Asked) (sought : Sought) (s : Source) (e : Entry) : Work Unit :=
  put c (a.lineText sought s e false)

def putSelected (c : Caller) (a : Asked) (sought : Sought) (s : Source) (p : Progress) (e : Entry) :
    Work Unit := do
  let hasContext := a.before.isSome || a.after.isSome || a.around.isSome
  if hasContext && (← get).used && p.since ≠ some p.recent.length then
    match a.separator with
    | some separator => put c (a.paint "36" separator ++ ['\n'])
    | none => pure ()
  for e in p.recent.reverse do
    putAround c a sought s e
  put c (a.lineText sought s e true)

def nextLine (c : Caller) (a : Asked) (sought : Sought) (s : Source) (p : Progress) (octets : Octets) :
    Work Progress := do
  let e : Entry := ⟨octets, p.number + 1, p.offset⟩
  let p := { p with number := p.number + 1, offset := p.offset + octets.length + 1 }
  if p.left ≠ some 0 && (sought.fits octets.toArray != a.inverted) then
    if !p.quiet then putSelected c a sought s p e
    modify fun o => { o with used := true }
    return { p with
      found := p.found + 1, left := p.left.map (· - 1)
      pending := if p.quiet then 0 else (a.after.or a.around).getD 0
      recent := [], since := some 0, afterMatch := p.offset }
  else if 0 < p.pending then
    putAround c a sought s e
    return { p with pending := p.pending - 1, recent := [], since := some 0 }
  else
    return { p with
      recent := (e :: p.recent).take ((a.before.or a.around).getD 0)
      since := p.since.map (· + 1) }

def nextLines (c : Caller) (a : Asked) (sought : Sought) (s : Source) :
    List Octets → Progress → Work Progress
  | [], p => return p
  | l :: rest, p => do
    let p ← nextLine c a sought s p l
    if p.isDone then return p
    nextLines c a sought s rest p

end SyntaxSweep.Search
