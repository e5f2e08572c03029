import SyntaxSweep.Decimal.Shortest

namespace SyntaxSweep

def Binary64.tenths : Binary64 → Nat
  | .finite _ mantissa exponent =>
    let v := asQuotient mantissa exponent
    roundedQuotient (v.1 * 10) v.2
  | _ => 0

/-- The milliseconds and then their quotient by a thousand are taken in the 64-bit format. -/
def secondsText (ms : Nat) : String :=
  let seconds : Binary64 :=
    match Binary64.ofDecimal false ms 0 with
    | .finite _ mantissa exponent =>
      let v := Binary64.asQuotient mantissa exponent
      if mantissa = 0 then .finite false 0 0 else Binary64.ofQuotient false v.1 (v.2 * 1000)
    | x => x
  let tenths := seconds.tenths
  s!"{tenths / 10}.{tenths % 10}"

end SyntaxSweep
