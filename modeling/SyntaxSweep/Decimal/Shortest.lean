import SyntaxSweep.Decimal.Binary64

namespace SyntaxSweep.Binary64

def gapBelow (mantissa : Nat) (exponent : Int) : Nat :=
  if mantissa = Nat.pow 2 52 ∧ exponent > leastExponent then 1 else 2

def asQuotient (n : Nat) (exponent : Int) : Nat × Nat :=
  if 0 ≤ exponent then (n * Nat.pow 2 exponent.toNat, 1) else (n, Nat.pow 2 (-exponent).toNat)

def leadingPower (numerator denominator : Nat) : Int :=
  if denominator ≤ numerator then (digitCount (numerator / denominator) : Int) - 1
  else -(digitCount ((numerator + denominator - 1) / numerator - 1) : Int)

def tenfold (n : Nat) (power : Int) : Nat × Nat :=
  if 0 ≤ power then (n * Nat.pow 10 power.toNat, 1) else (n, Nat.pow 10 (-power).toNat)

def readsBack (mantissa : Nat) (exponent : Int) (n : Nat) (power : Int) : Bool :=
  let low := asQuotient (4 * mantissa - gapBelow mantissa exponent) (exponent - 2)
  let high := asQuotient (4 * mantissa + 2) (exponent - 2)
  let d := tenfold n power
  if mantissa % 2 = 0 then
    low.1 * d.2 ≤ d.1 * low.2 && d.1 * high.2 ≤ high.1 * d.2
  else
    low.1 * d.2 < d.1 * low.2 && d.1 * high.2 < high.1 * d.2

/-- The neighbour of the number on the grid `10 ^ power` that reads back and is nearest, if one does.
Of two equally near ones it is the greater. -/
def onGrid? (mantissa : Nat) (exponent : Int) (power : Int) : Option (Nat × Int) :=
  let v := asQuotient mantissa exponent
  let g := tenfold 1 power
  let below := v.1 * g.2 / (v.2 * g.1)
  let part := v.1 * g.2 % (v.2 * g.1)
  let candidates := if 2 * part < v.2 * g.1 then [below, below + 1] else [below + 1, below]
  (candidates.find? (readsBack mantissa exponent · power)).map (·, power)

/-- The decimal `n * 10 ^ power` with the fewest digits that reads back. Seventeen digits always do.
The search begins one place above the first digit, because a number just below a power of ten can be
read from that power. -/
def shortest (mantissa : Nat) (exponent : Int) : Nat × Int :=
  let v := asQuotient mantissa exponent
  let first := leadingPower v.1 v.2
  ((List.range 18).findSome? fun (k : Nat) => onGrid? mantissa exponent (first + 1 - k)).getD (0, 0)

def positional (n : Nat) (power : Int) : List Char :=
  let digits := Nat.toDigits 10 n
  if 0 ≤ power then digits ++ List.replicate power.toNat '0' ++ ['.', '0']
  else
    let places := (-power).toNat
    let padded := List.replicate (places + 1 - digits.length) '0' ++ digits
    let whole := padded.length - places
    padded.take whole ++ '.' :: padded.drop whole

def text : Binary64 → String
  | .notANumber => "NaN"
  | .infinite negative => if negative then "-inf" else "inf"
  | .finite negative mantissa exponent =>
    let (n, power) := if mantissa = 0 then (0, 0) else shortest mantissa exponent
    (if negative then "-" else "") ++ String.ofList (positional n power)

end SyntaxSweep.Binary64
