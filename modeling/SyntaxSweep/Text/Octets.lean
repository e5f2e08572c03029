import SyntaxSweep.Text.Utf8

namespace SyntaxSweep

abbrev Octets := List Char

namespace Octets

def ofBytes (bytes : Bytes) : Octets :=
  bytes.map fun b => Char.ofNat b.toNat

def toBytes (octets : Octets) : Bytes :=
  octets.map fun c => UInt8.ofNat c.toNat

def ofText (text : String) : Octets :=
  ofBytes (bytesOf text)

def text (octets : Octets) : String :=
  lossyText (toBytes octets)

def ofInt (n : Int) : Octets :=
  (toString n).toList

def ofNat (n : Nat) : Octets :=
  Nat.toDigits 10 n

/-- The order of names: octet by octet, and a beginning comes first. -/
def notAfter : Octets → Octets → Bool
  | [], _ => true
  | _ :: _, [] => false
  | c :: a, d :: b => c.toNat < d.toNat || (c.toNat == d.toNat && notAfter a b)

end Octets

end SyntaxSweep
