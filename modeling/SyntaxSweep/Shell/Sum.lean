import SyntaxSweep.Shell.State

namespace SyntaxSweep.Shell

inductive Operator where
  | times
  | over
  | modulo
  | plus
  | minus
  | shiftLeft
  | shiftRight
  | less
  | atMost
  | greater
  | atLeast
  | equal
  | unequal
  | bitAnd
  | bitXor
  | bitOr
  deriving DecidableEq, Repr

namespace Operator

def looseness : Operator → Nat
  | .times | .over | .modulo => 0
  | .plus | .minus => 1
  | .shiftLeft | .shiftRight => 2
  | .less | .atMost | .greater | .atLeast => 3
  | .equal | .unequal => 4
  | .bitAnd => 5
  | .bitXor => 6
  | .bitOr => 7

def ofBool (b : Bool) : Int64 :=
  if b then 1 else 0

def result? (o : Operator) (a b : Int64) : Option Int64 :=
  match o with
  | .times => some (a * b)
  | .over => if b = 0 then none else some (a / b)
  | .modulo => if b = 0 then none else some (a % b)
  | .plus => some (a + b)
  | .minus => some (a - b)
  | .shiftLeft => some (a <<< b)
  | .shiftRight => some (a >>> b)
  | .less => some (ofBool (a < b))
  | .atMost => some (ofBool (a ≤ b))
  | .greater => some (ofBool (b < a))
  | .atLeast => some (ofBool (b ≤ a))
  | .equal => some (ofBool (a == b))
  | .unequal => some (ofBool (a != b))
  | .bitAnd => some (a &&& b)
  | .bitXor => some (a ^^^ b)
  | .bitOr => some (a ||| b)

end Operator

inductive SumToken where
  | number (n : Int64)
  | name (name : Octets)
  | operator (o : Operator)
  | assign (o : Option Operator)
  | both
  | either
  | not
  | flip
  | openParen
  | closeParen
  | question
  | colon
  | unknown
  deriving DecidableEq, Repr

def clamped (n : Int) : Int64 :=
  Int64.ofInt (max (-9223372036854775808) (min n 9223372036854775807))

def digitOf? (base : Nat) (c : Char) : Option Nat :=
  let d :=
    if c.isDigit then c.toNat - '0'.toNat
    else if c.isAlpha then c.toLower.toNat - 'a'.toNat + 10
    else base
  if d < base then some d else none

def spanDigits (base : Nat) (s : Octets) : Nat × Octets :=
  let digits := s.takeWhile fun c => (digitOf? base c).isSome
  (digits.foldl (fun n c => n * base + (digitOf? base c).getD 0) 0, s.drop digits.length)

/-- The number at the front, in the base that its first digits tell, and what follows it. -/
def spanNumber (s : Octets) : Nat × Octets :=
  match s with
  | '0' :: x :: c :: r =>
    if (x = 'x' ∨ x = 'X') ∧ (digitOf? 16 c).isSome then spanDigits 16 (c :: r) else spanDigits 8 s
  | '0' :: _ => spanDigits 8 s
  | s => spanDigits 10 s

/-- The number that a variable holds, if it holds one. Blanks alone are zero. -/
def variableNumber? (octets : Octets) : Option Int64 :=
  let isBlank (c : Char) : Bool := c == ' ' || ('\t' ≤ c && c ≤ '\r')
  let s := octets.dropWhile isBlank
  if s = [] then some 0
  else
    let (minus, s) := match s with
      | '-' :: r => (true, r)
      | '+' :: r => (false, r)
      | r => (false, r)
    let (n, rest) := spanNumber s
    let n : Int := if minus then -(n : Int) else n
    if (s.head?.map Char.isDigit).getD false ∧ (rest.dropWhile isBlank) = [] ∧
      -9223372036854775808 ≤ n ∧ n ≤ 9223372036854775807
    then some (Int64.ofInt n) else none

def sumOperators : List (String × SumToken) :=
  [("<<=", .assign (some .shiftLeft)), (">>=", .assign (some .shiftRight)),
    ("<<", .operator .shiftLeft), (">>", .operator .shiftRight), ("<=", .operator .atMost),
    (">=", .operator .atLeast), ("==", .operator .equal), ("!=", .operator .unequal), ("&&", .both),
    ("||", .either), ("&=", .assign (some .bitAnd)), ("|=", .assign (some .bitOr)),
    ("^=", .assign (some .bitXor)), ("*=", .assign (some .times)), ("/=", .assign (some .over)),
    ("%=", .assign (some .modulo)), ("+=", .assign (some .plus)), ("-=", .assign (some .minus)),
    ("<", .operator .less), (">", .operator .greater), ("&", .operator .bitAnd),
    ("|", .operator .bitOr), ("^", .operator .bitXor), ("*", .operator .times), ("/", .operator .over),
    ("%", .operator .modulo), ("+", .operator .plus), ("-", .operator .minus), ("=", .assign none),
    ("!", .not), ("~", .flip), ("(", .openParen), (")", .closeParen), ("?", .question), (":", .colon)]

def sumTokens : Nat → Octets → List SumToken
  | 0, _ => []
  | fuel + 1, s =>
    match s.dropWhile fun c => c == ' ' || c == '\t' || c == '\n' with
    | [] => []
    | c :: r =>
      if c.isDigit then
        let (n, rest) := spanNumber (c :: r)
        .number (clamped n) :: sumTokens fuel rest
      else if isNameStart c then
        let name := (c :: r).takeWhile isNameChar
        .name name :: sumTokens fuel ((c :: r).drop name.length)
      else
        match sumOperators.find? fun o => o.1.toList.isPrefixOf (c :: r) with
        | some (spelled, t) => t :: sumTokens fuel ((c :: r).drop spelled.length)
        | none => [.unknown]

def badSum {α : Type} (sum : Octets) (why : String) : Run α :=
  refuse s!"arithmetic expression: {why}: \"{shown sum}\""

def variableNumber (name : Octets) : Run Int64 := do
  let value := ((← get).value? name).getD []
  match variableNumber? value with
  | some n => return n
  | none => badNumber value

/-- Two numbers joined in a sum, unless the result does not count. -/
def joinNumbers (sum : Octets) (idle : Bool) (o : Operator) (a b : Int64) : Run Int64 :=
  if idle then return b
  else
    match o.result? a b with
    | some n => return n
    | none => badSum sum "division by zero"

mutual

/-- A number, a variable, or a sum in parentheses, with signs before it. -/
def operand (sum : Octets) : Nat → Bool → List SumToken → Run (Int64 × List SumToken)
  | 0, _, _ => badSum sum "expecting primary"
  | fuel + 1, idle, tokens => do
    match tokens with
    | .openParen :: r => do
      let (n, r) ← assignment sum fuel idle r
      match r with
      | .closeParen :: rest => return (n, rest)
      | _ => badSum sum "expecting ')'"
    | .number n :: rest => return (n, rest)
    | .name name :: rest =>
      if idle then return (0, rest)
      return (← variableNumber name, rest)
    | .operator .plus :: r => operand sum fuel idle r
    | .operator .minus :: r => do
      let (n, rest) ← operand sum fuel idle r
      return (-n, rest)
    | .not :: r => do
      let (n, rest) ← operand sum fuel idle r
      return (Operator.ofBool (n == 0), rest)
    | .flip :: r => do
      let (n, rest) ← operand sum fuel idle r
      return (~~~n, rest)
    | _ => badSum sum "expecting primary"

/-- What follows a number, as far as operators bind closer than `bound`. -/
def climb (sum : Octets) : Nat → Bool → Nat → Int64 → List SumToken → Run (Int64 × List SumToken)
  | 0, _, _, n, tokens => return (n, tokens)
  | fuel + 1, idle, bound, a, tokens => do
    match tokens with
    | .operator o :: r =>
      if bound ≤ o.looseness then return (a, tokens)
      let (b, r) ← operand sum fuel idle r
      let (b, r) ← climb sum fuel idle o.looseness b r
      climb sum fuel idle bound (← joinNumbers sum idle o a b) r
    | _ => return (a, tokens)

def conjunction (sum : Octets) : Nat → Bool → List SumToken → Run (Int64 × List SumToken)
  | 0, _, _ => badSum sum "expecting primary"
  | fuel + 1, idle, tokens => do
    let (a, r) ← operand sum fuel idle tokens
    let (a, r) ← climb sum fuel idle 8 a r
    match r with
    | .both :: r => do
      let (b, rest) ← conjunction sum fuel (idle || a == 0) r
      return (Operator.ofBool (a != 0 && b != 0), rest)
    | r => return (a, r)

def disjunction (sum : Octets) : Nat → Bool → List SumToken → Run (Int64 × List SumToken)
  | 0, _, _ => badSum sum "expecting primary"
  | fuel + 1, idle, tokens => do
    let (a, r) ← conjunction sum fuel idle tokens
    match r with
    | .either :: r => do
      let (b, rest) ← disjunction sum fuel (idle || a != 0) r
      return (Operator.ofBool (a != 0 || b != 0), rest)
    | r => return (a, r)

def ternary (sum : Octets) : Nat → Bool → List SumToken → Run (Int64 × List SumToken)
  | 0, _, _ => badSum sum "expecting primary"
  | fuel + 1, idle, tokens => do
    let (a, r) ← disjunction sum fuel idle tokens
    match r with
    | .question :: r => do
      let (b, r) ← assignment sum fuel (idle || a == 0) r
      match r with
      | .colon :: r => do
        let (c, rest) ← ternary sum fuel (idle || a != 0) r
        return (if a == 0 then c else b, rest)
      | _ => badSum sum "expecting ':'"
    | r => return (a, r)

def assignment (sum : Octets) : Nat → Bool → List SumToken → Run (Int64 × List SumToken)
  | 0, _, _ => badSum sum "expecting primary"
  | fuel + 1, idle, tokens => do
    match tokens with
    | .name name :: .assign o :: r => do
      let (n, rest) ← assignment sum fuel idle r
      if idle then return (n, rest)
      let n ← match o with
        | none => pure n
        | some o => do joinNumbers sum idle o (← variableNumber name) n
      assign name (Octets.ofInt n.toInt) false
      return (n, rest)
    | tokens => ternary sum fuel idle tokens

end

def sumValue (sum : Octets) : Run Int := do
  let tokens := sumTokens (sum.length + 1) sum
  let (n, rest) ← assignment sum (8 * tokens.length + 8) false tokens
  if rest ≠ [] then badSum sum "expecting EOF"
  return n.toInt

end SyntaxSweep.Shell
