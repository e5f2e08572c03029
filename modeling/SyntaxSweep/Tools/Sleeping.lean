import SyntaxSweep.Tools.Basic

namespace SyntaxSweep.Sleeping

def mostPower : Nat := 400

def never : Nat := Nat.pow 10 15

def units : List (Octets × Nat) :=
  [([], 1000), (['s'], 1000), (['m'], 60000), (['h'], 3600000), (['d'], 86400000)]

def digitValue (c : Char) : Nat :=
  if c.isDigit then c.toNat - '0'.toNat else c.toLower.toNat - 'a'.toNat + 10

def isHexDigit (c : Char) : Bool :=
  c.isDigit || ('a' ≤ c.toLower && c.toLower ≤ 'f')

/-- A number in a base, with a point and a power after a letter: numerator, denominator, and what comes
after it. -/
def quotient? (base powerBase : Nat) (letter : Char) (s : Octets) : Option (Nat × Nat × Octets) := do
  let isPart (c : Char) : Bool := if base = 16 then isHexDigit c else c.isDigit
  let whole := s.takeWhile isPart
  let r := s.drop whole.length
  let part := match r with
    | '.' :: r => r.takeWhile isPart
    | _ => []
  if whole = [] ∧ part = [] then none
  let r := match r with
    | '.' :: r => r.drop part.length
    | r => r
  let n := (whole ++ part).foldl (fun n c => n * base + digitValue c) 0
  let d := Nat.pow base part.length
  match r with
  | c :: more =>
    let (minus, digits) := match more with
      | '-' :: more => (true, more.takeWhile Char.isDigit)
      | '+' :: more => (false, more.takeWhile Char.isDigit)
      | more => (false, more.takeWhile Char.isDigit)
    if c.toLower = letter ∧ digits ≠ [] then
      let signs := match more with
        | '-' :: _ | '+' :: _ => 1
        | _ => 0
      let power := digits.foldl (fun n c => min mostPower (n * 10 + digitValue c)) 0
      let scale := Nat.pow powerBase power
      let rest := more.drop (signs + digits.length)
      if minus then some (n, d * scale, rest) else some (n * scale, d, rest)
    else some (n, d, r)
  | [] => some (n, d, [])

def milliseconds? (word : Octets) : Option Nat := do
  let s := word.dropWhile fun c => c = ' ' || ('\t' ≤ c && c ≤ '\r')
  let s := match s with
    | '+' :: r => r
    | r => r
  let lower := s.map Char.toLower
  let endless (length : Nat) : Option Nat := (units.lookup (s.drop length)).map fun _ => never
  if "infinity".toList.isPrefixOf lower then endless 8
  else if "inf".toList.isPrefixOf lower then endless 3
  else
    let hexadecimal := match s with
      | '0' :: x :: r => if x.toLower = 'x' then quotient? 16 2 'p' r else none
      | _ => none
    let (n, d, rest) ← hexadecimal.or (quotient? 10 10 'e' s)
    let unit ← units.lookup rest
    return min never ((n * unit + d - 1) / d)

def run (arguments : List Octets) : Tool Nat := do
  let program := Octets.text (arguments.headD "sleep".toList)
  let hint := s!"Try '{program} --help' for more information.\n"
  let items := itemsOf [] false (arguments.drop 1)
  for item in items do
    match item with
    | .problem text => do
      Tool.complain s!"{program}: {text}\n{hint}"
      throw 1
    | _ => pure ()
  let words := items.filterMap fun
    | .operand w => some w
    | _ => none
  if words = [] then
    Tool.complain s!"{program}: missing operand\n{hint}"
    throw 1
  let wrong := words.filter fun w => (milliseconds? w).isNone
  for w in wrong do
    Tool.complain s!"{program}: invalid time interval '{Octets.text w}'\n"
  if wrong ≠ [] then
    Tool.complain hint
    throw 1
  Act.ask (.sleep (words.foldl (fun n w => n + (milliseconds? w).getD 0) 0))
  return 0

end SyntaxSweep.Sleeping
