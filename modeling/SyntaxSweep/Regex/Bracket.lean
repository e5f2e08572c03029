import SyntaxSweep.Regex.Basic

namespace SyntaxSweep.Regex

def badPattern : String := "Invalid regular expression"

def badBracket : String := "Unmatched [, [^, [:, [., or [="

def badRange : String := "Invalid range end"

def badCollation : String := "Invalid collation character"

def classes : List (String × List (Char × Char)) :=
  [("alpha", [('a', 'z'), ('A', 'Z')]), ("digit", [('0', '9')]),
    ("alnum", [('a', 'z'), ('A', 'Z'), ('0', '9')]), ("upper", [('A', 'Z')]), ("lower", [('a', 'z')]),
    ("space", [(' ', ' '), ('\t', '\r')]), ("blank", [(' ', ' '), ('\t', '\t')]),
    ("xdigit", [('0', '9'), ('a', 'f'), ('A', 'F')]),
    ("punct", [('!', '/'), (':', '@'), ('[', '\x60'), ('\x7b', '~')]), ("print", [(' ', '~')]),
    ("graph", [('!', '~')]), ("cntrl", [('\x00', '\x1f'), ('\x7f', '\x7f')])]

inductive Member where
  | char (c : Char)
  | symbol (name : Octets)
  | equals (name : Octets)
  | named (name : Octets)
  deriving DecidableEq, Repr

def nameUpTo (mark : Char) : Nat → Octets → Octets → Except String (Octets × Octets)
  | 0, _, _ => .error badBracket
  | fuel + 1, name, s =>
    match s with
    | c :: ']' :: rest => if c = mark then .ok (name.reverse, rest) else nameUpTo mark fuel (c :: name) (']' :: rest)
    | c :: d :: rest => nameUpTo mark fuel (c :: name) (d :: rest)
    | _ => .error badBracket

def longestClass : Nat := 32

/-- The member that stands first. A dash may be one where it can be no sign of a range. -/
def member (dashes : Bool) : Octets → Except String (Member × Octets)
  | [] => .error badBracket
  | '[' :: '.' :: s => (nameUpTo '.' longestClass [] s).map fun (n, r) => (.symbol n, r)
  | '[' :: '=' :: s => (nameUpTo '=' longestClass [] s).map fun (n, r) => (.equals n, r)
  | '[' :: ':' :: s => (nameUpTo ':' longestClass [] s).map fun (n, r) => (.named n, r)
  | '-' :: s => if dashes || s.head? = some ']' then .ok (.char '-', s) else .error badRange
  | c :: s => .ok (.char c, s)

def Member.ranges : Member → Except String (List (Char × Char))
  | .char c => .ok [(c, c)]
  | .symbol [c] | .equals [c] => .ok [(c, c)]
  | .symbol _ | .equals _ => .error badCollation
  | .named name =>
    match classes.lookup (String.ofList name) with
    | some l => .ok l
    | none => .error "Invalid character class name"

def Member.bound : Member → Except String Char
  | .char c | .symbol [c] => .ok c
  | .symbol _ => .error badCollation
  | _ => .error badRange

def range (caseless : Bool) (a b : Member) : Except String (List (Char × Char)) := do
  match a, b with
  | .symbol _, .named _ | .symbol _, .equals _ => throw badRange
  | _, _ => pure ()
  let first ← a.bound
  let last ← b.bound
  let up (c : Char) : Char := if caseless then c.toUpper else c
  if up last < up first then throw badRange
  return [(first, last)]

/-- What has been read of a set: its ranges, and its single characters, the last one first, as long as
there was nothing else. -/
structure Members where
  ranges : List (Char × Char) := []
  plain : Option Octets := some []

namespace Members

def isConfusing (m : Members) : Bool :=
  match m.plain with
  | some l => l.head? = some ':' && l.getLast? = some ':' && l.any (· ≠ ':')
  | none => false

def add (m : Members) (ranges : List (Char × Char)) (plain : Option Char) : Members :=
  { ranges := m.ranges ++ ranges
    plain := match plain, m.plain with
      | some c, some l => some (c :: l)
      | _, _ => none }

end Members

def members (caseless : Bool) : Nat → Bool → Members → Octets → Except String (Members × Octets)
  | 0, _, _, _ => .error badBracket
  | fuel + 1, isFirst, m, s => do
    let (a, s) ← member isFirst s
    let isEnd : Bool := match a with
      | .char _ | .symbol _ => true
      | _ => false
    if isEnd && s = [] then throw badBracket
    let (m, s) ← match isEnd, s with
      | true, '-' :: next :: more =>
        if next = ']' then do pure (m.add (← a.ranges) (plainOf a), s)
        else do
          let (b, s) ← member true (next :: more)
          pure (m.add (← range caseless a b) none, s)
      | true, ['-'] => throw badBracket
      | _, s => do pure (m.add (← a.ranges) (plainOf a), s)
    match s with
    | [] => throw badBracket
    | ']' :: rest => return (m, rest)
    | s => members caseless fuel false m s
where
  plainOf : Member → Option Char
    | .char c => some c
    | _ => none

/-- A set after its opening bracket, whether it is confusing, and what comes after it. -/
def bracket (caseless : Bool) (s : Octets) : Except String (CharSet × Bool × Octets) := do
  if s = [] then throw badPattern
  let (turned, s) := match s with
    | '^' :: rest => (true, rest)
    | s => (false, s)
  if s = [] then throw badPattern
  let (m, rest) ← members caseless (s.length + 1) true {} s
  return ({ turned, ranges := m.ranges }, m.isConfusing, rest)

end SyntaxSweep.Regex
