import SyntaxSweep.Regex.Bracket

namespace SyntaxSweep.Regex

structure Spelling where
  extended : Bool := false
  caseless : Bool := false
  deriving DecidableEq, Repr

inductive Token where
  | finish
  | char (c : Char)
  | set (s : CharSet)
  | bracket
  | opens
  | closes
  | bar
  | again (number : Nat)
  | edge (e : Edge)
  | star
  | plus
  | question
  | count
  | countEnd
  | stray
  deriving DecidableEq, Repr

def escapes : List (Char × Token) :=
  [('<', .edge .wordStart), ('>', .edge .wordEnd), ('b', .edge .wordEdge), ('B', .edge .noWordEdge),
    ('\x60', .edge .lineStart), ('\x27', .edge .lineEnd), ('w', .set .word), ('W', .set CharSet.word.turn),
    ('s', .set .blank), ('S', .set CharSet.blank.turn)]

def marks : List (Char × Token) :=
  [('(', .opens), (')', .closes), ('|', .bar), ('+', .plus), ('?', .question), ('\x7b', .count),
    ('\x7d', .countEnd)]

def token (x : Spelling) (opening : Bool) : Octets → Token × Octets
  | [] => (.finish, [])
  | ['\\'] => (.stray, [])
  | '\\' :: c :: r =>
    if '1' ≤ c && c ≤ '9' then (.again (c.toNat - '0'.toNat), r)
    else
      match escapes.lookup c, marks.lookup c with
      | some t, _ => (t, r)
      | none, some t => (if x.extended then .char c else t, r)
      | none, none => (.char c, r)
  | '*' :: r => (.star, r)
  | '[' :: r => (.bracket, r)
  | '.' :: r => (.set (CharSet.turn {}), r)
  | '^' :: r => (if x.extended || opening then .edge .lineStart else .char '^', r)
  | '$' :: r =>
    let isLast := match r with
      | [] => true
      | '\\' :: c :: _ => c = ')' || c = '|'
      | _ => false
    (if x.extended || isLast then .edge .lineEnd else .char '$', r)
  | c :: r =>
    match x.extended, marks.lookup c with
    | true, some t => (t, r)
    | _, _ => (.char c, r)

def mostTimes : Nat := 32767

structure Cursor where
  rest : Octets
  opening : Bool := true
  bare : Bool := true
  groups : Nat := 0
  complete : List Nat := []
  -- How many groups must be closed twice, since there was nothing to repeat right before their end.
  unpaid : Nat := 0
  -- What seems odd, the last one first.
  oddities : List String := []
  -- What is found to be wrong once all patterns have been read.
  mistake : Option String := none

abbrev Read := StateT Cursor (Except String)

def peek (x : Spelling) : Read Token := do
  let c ← get
  return (token x c.opening c.rest).1

def skip (x : Spelling) : Read Unit :=
  modify fun c => { c with rest := (token x c.opening c.rest).2, opening := false }

def remark (text : String) : Read Unit :=
  modify fun c => if c.mistake.isSome then c else { c with oddities := text :: c.oddities }

def mistaken (text : String) : Read Unit :=
  modify fun c => { c with mistake := c.mistake.or (some text) }

structure Count where
  least : Nat
  most : Option Nat
  rest : Octets

/-- Reads a number of times after its brace, if nothing but digits and a comma stands there. -/
def plainCount? (x : Spelling) (s : Octets) : Option Count := do
  let number (digits : Octets) : Nat :=
    digits.foldl (fun n d => min (mostTimes + 1) (n * 10 + (d.toNat - '0'.toNat))) 0
  let first := s.takeWhile Char.isDigit
  let (most, r) ← match s.drop first.length with
    | ',' :: r =>
      let second := r.takeWhile Char.isDigit
      some (if second = [] then none else some (number second), r.drop second.length)
    | r => if first = [] then none else some (some (number first), r)
  let rest ← match x.extended, r with
    | true, '\x7d' :: rest => some rest
    | false, '\\' :: '\x7d' :: rest => some rest
    | _, _ => none
  match most with
  | some n => if n < number first then none else some ⟨number first, most, rest⟩
  | none => some ⟨number first, most, rest⟩

inductive Numeral where
  | absent
  | value (n : Nat)
  | malformed
  deriving DecidableEq

def numeral (x : Spelling) : Nat → Numeral → Octets → Numeral × Token × Octets
  | 0, _, s => (.malformed, .finish, s)
  | fuel + 1, n, s =>
    match token x false s with
    | (.finish, r) => (.malformed, .finish, r)
    | (.countEnd, r) => (n, .countEnd, r)
    | (.char ',', r) => (n, .char ',', r)
    | (.char c, r) =>
      let digit := c.toNat - '0'.toNat
      let next : Numeral := match n with
        | .malformed => .malformed
        | .absent => if c.isDigit then .value digit else .malformed
        | .value v => if c.isDigit then .value (min (mostTimes + 1) (v * 10 + digit)) else .malformed
      numeral x fuel next r
    | (_, r) => numeral x fuel .malformed r

def badGroup : String := "Unmatched ( or \\("

def badCount : String := "Invalid content of \\\x7b\\\x7d"

/-- Whether a number of times stands after a brace. What is no such thing is an error in the basic
spelling. -/
def isCount (x : Spelling) (s : Octets) : Except String Bool := do
  let fuel := s.length + 1
  let (first, t, r) := numeral x fuel .absent s
  let first ← match first, t with
    | .absent, .char ',' => pure (Numeral.value 0)
    | .absent, _ => throw badCount
    | n, _ => pure n
  let (second, t) : Numeral × Token :=
    if first = .malformed then (.malformed, t)
    else if t = .countEnd then (first, t)
    else
      let (n, t, _) := numeral x fuel .absent r
      (n, t)
  match first, second with
  | .malformed, _ | _, .malformed =>
    if x.extended then return false
    else throw (if t = .finish then "Unmatched \\\x7b" else badCount)
  | .value a, .value b =>
    if b < a || t ≠ .countEnd then throw badCount
    else if mostTimes < b then throw "Regular expression too big"
    else return true
  | .value a, .absent =>
    if t ≠ .countEnd then throw badCount
    else if mostTimes < a then throw "Regular expression too big"
    else return true
  | .absent, _ => return true

def ofSet (x : Spelling) (s : CharSet) : Regex :=
  .one (if x.caseless then s.caseless else s)

/-- The repetitions that stand after an expression. `loose` says that it is none that could be repeated
by the book. -/
def repeated (x : Spelling) : Nat → Bool → Regex → Read Regex
  | 0, _, e => return e
  | fuel + 1, loose, e => do
    let c ← get
    let t ← peek x
    let ready (mark : String) : Read Unit := do
      if c.bare then remark s!"{mark} at start of expression"
      skip x
    if c.bare && !x.extended then return e
    match t with
    | .star => do
      ready "*"
      repeated x fuel loose (.times 0 none e)
    | .plus => do
      ready "+"
      repeated x fuel loose (.times 1 none e)
    | .question => do
      ready "?"
      repeated x fuel loose (.times 0 (some 1) e)
    | .count => do
      let inside := (token x false c.rest).2
      let meant ← if loose then pure true else liftM (isCount x inside)
      match if meant then plainCount? x inside else none with
      | some count =>
        ready "\x7b...\x7d"
        if mostTimes < count.most.getD 0 then mistaken "regular expression too big"
        modify fun c => { c with rest := count.rest, bare := false }
        repeated x fuel loose (.times count.least count.most e)
      | none =>
        if !x.extended then mistaken "invalid content of \\\x7b\\\x7d"
        skip x
        modify fun c => { c with bare := false }
        let more ← repeated x fuel false (ofSet x (.single '\x7b'))
        return .sequence e more
    | _ => return e

def repeatable (x : Spelling) (e : Regex) : Read Regex := do
  modify fun c => { c with bare := false }
  let c ← get
  repeated x (c.rest.length + 1) false e

mutual

def alternatives (x : Spelling) : Nat → Bool → Read Regex
  | 0, _ => return .empty
  | fuel + 1, inside => do
    let before := (← get).complete
    let first ← branch x fuel inside
    otherwise x fuel inside before first

def otherwise (x : Spelling) : Nat → Bool → List Nat → Regex → Read Regex
  | 0, _, _, e => return e
  | fuel + 1, inside, before, e => do
    if (← peek x) = .bar then
      skip x
      let known := (← get).complete
      modify fun c => { c with opening := true, bare := true, complete := before }
      let second ← branch x fuel inside
      modify fun c => { c with complete := known ++ c.complete }
      otherwise x fuel inside before (.either e second)
    else return e

def branch (x : Spelling) : Nat → Bool → Read Regex
  | 0, _ => return .empty
  | fuel + 1, inside => do
    match ← peek x with
    | .finish | .bar => return .empty
    | .closes =>
      if inside then return .empty
      else
        let first ← piece x fuel inside
        return .sequence first (← branch x fuel inside)
    | _ =>
      let first ← piece x fuel inside
      return .sequence first (← branch x fuel inside)

/-- One expression with its repetitions. A mark that has nothing to repeat stands for itself, or for
nothing. -/
def piece (x : Spelling) : Nat → Bool → Read Regex
  | 0, _ => return .empty
  | fuel + 1, inside => do
    let literal (c : Char) : Read Regex := do
      skip x
      repeatable x (ofSet x (.single c))
    let loose (e : Regex) : Read Regex := do
      let r := (← get).rest
      let e ← repeated x (r.length + 1) true e
      let after := (← get).rest
      if inside && after.length < r.length && after.head? = some ')' && x.extended then
        modify fun c => { c with unpaid := c.unpaid + 1 }
      return e
    let bare (c : Char) : Read Regex :=
      if x.extended then loose .empty else literal c
    match ← peek x with
    | .finish | .bar => return .empty
    | .stray => throw "Trailing backslash"
    | .char c => literal c
    | .set s => do
      skip x
      repeatable x (ofSet x s)
    | .bracket => do
      skip x
      let (s, isConfusing, rest) ← liftM (bracket x.caseless (← get).rest)
      if isConfusing then mistaken "character class syntax is [[:space:]], not [:space:]"
      modify fun c => { c with rest }
      repeatable x (ofSet x s)
    | .opens => do
      skip x
      let number := (← get).groups + 1
      modify fun c => { c with groups := number, opening := true, bare := true }
      let body ← alternatives x fuel true
      if (← peek x) ≠ .closes then throw badGroup
      skip x
      modify fun c => { c with complete := number :: c.complete }
      repeatable x (.group number body)
    | .closes =>
      if x.extended then
        modify fun c => { c with unpaid := c.unpaid - 1 }
        literal ')'
      else throw "Unmatched ) or \\)"
    | .again n => do
      if !(← get).complete.contains n then throw "Invalid back reference"
      skip x
      repeatable x (.again n x.caseless)
    | .edge e => do
      skip x
      loose (.edge e)
    | .star => bare '*'
    | .plus => bare '+'
    | .question => bare '?'
    | .count => bare '\x7b'
    | .countEnd => literal '\x7d'

end

/-- A pattern that has been read, and what is odd or wrong with it. -/
structure Reading where
  expression : Regex
  oddities : List String
  mistake : Option String

def read (x : Spelling) (pattern : Octets) : Except String Reading := do
  let (e, c) ← (alternatives x (4 * pattern.length + 10) false).run { rest := pattern }
  if 0 < c.unpaid then throw badGroup
  return ⟨e, c.oddities.reverse, c.mistake⟩

end SyntaxSweep.Regex
