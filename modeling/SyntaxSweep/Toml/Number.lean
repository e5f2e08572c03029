import SyntaxSweep.Toml.Value

namespace SyntaxSweep.Toml

/-- The digits that follow a digit. An underscore must have a digit after it. -/
def moreDigits? (isDigit : Char → Bool) : List Char → Option (List Char × List Char)
  | '_' :: d :: r =>
    if isDigit d then do
      let (digits, rest) ← moreDigits? isDigit r
      some (d :: digits, rest)
    else none
  | ['_'] => none
  | d :: r =>
    if isDigit d then do
      let (digits, rest) ← moreDigits? isDigit r
      some (d :: digits, rest)
    else some ([], d :: r)
  | [] => some ([], [])

def digits? (isDigit : Char → Bool) : List Char → Option (List Char × List Char)
  | d :: r =>
    if isDigit d then do
      let (digits, rest) ← moreDigits? isDigit r
      some (d :: digits, rest)
    else none
  | [] => none

def wholeDigits? : List Char → Option (List Char × List Char)
  | '0' :: r => some (['0'], r)
  | s => digits? Char.isDigit s

def digitValue (c : Char) : Nat :=
  if c.isDigit then c.toNat - '0'.toNat
  else if 'a' ≤ c then c.toNat - 'a'.toNat + 10
  else c.toNat - 'A'.toNat + 10

def valueIn (base : Nat) (digits : List Char) : Nat :=
  digits.foldl (fun n d => n * base + digitValue d) 0

def integer? (negative : Bool) (n : Nat) : Option Value :=
  if negative then if n ≤ Nat.pow 2 63 then some (.integer (-n)) else none
  else if n < Nat.pow 2 63 then some (.integer n) else none

def sign? : List Char → Option Bool × List Char
  | '+' :: r => (some false, r)
  | '-' :: r => (some true, r)
  | s => (none, s)

def fraction? : List Char → Option (Option (List Char) × List Char)
  | '.' :: r => do
    let (digits, rest) ← digits? Char.isDigit r
    some (some digits, rest)
  | s => some (none, s)

def power? : List Char → Option (Option Int × List Char)
  | c :: r =>
    if c = 'e' ∨ c = 'E' then do
      let (sign, r) := sign? r
      let (digits, rest) ← digits? Char.isDigit r
      let n : Int := valueIn 10 digits
      some (some (if sign = some true then -n else n), rest)
    else some (none, c :: r)
  | [] => some (none, [])

def decimal? (sign : Option Bool) (s : List Char) : Option (Value × List Char) := do
  let negative := sign.getD false
  let (whole, s) ← wholeDigits? s
  let (fraction, s) ← fraction? s
  let (power, s) ← power? s
  if fraction.isNone ∧ power.isNone then
    let v ← integer? negative (valueIn 10 whole)
    some (v, s)
  else
    let places := (fraction.getD []).length
    let x := Binary64.ofDecimal negative (valueIn 10 (whole ++ fraction.getD []))
      (power.getD 0 - places)
    if x = .infinite false then none else some (.float x, s)

/-- A number in base 16, 8 or 2, after its two leading characters. -/
def based? (base : Nat) (isDigit : Char → Bool) (s : List Char) : Option (Value × List Char) := do
  let (digits, rest) ← digits? isDigit s
  let v ← integer? false (valueIn base digits)
  some (v, rest)

def isHexDigit (c : Char) : Bool :=
  c.isDigit || ('a' ≤ c && c ≤ 'f') || ('A' ≤ c && c ≤ 'F')

def number? (s : List Char) : Option (Value × List Char) :=
  match s with
  | '0' :: 'x' :: r => based? 16 isHexDigit r
  | '0' :: 'o' :: r => based? 8 (fun c => '0' ≤ c && c ≤ '7') r
  | '0' :: 'b' :: r => based? 2 (fun c => c == '0' || c == '1') r
  | s =>
    match sign? s with
    | (sign, 'i' :: 'n' :: 'f' :: r) => some (.float (.infinite (sign.getD false)), r)
    | (_, 'n' :: 'a' :: 'n' :: r) => some (.float .notANumber, r)
    | (sign, r) => decimal? sign r

end SyntaxSweep.Toml
