namespace SyntaxSweep

abbrev Bytes := List UInt8

namespace Utf8

/-- A character some of whose octets are read: the number they give, how many octets are owed after
the next one, and the bounds of the next one. -/
structure Begun where
  number : Nat
  owed : Nat
  low : Nat
  high : Nat
  deriving DecidableEq, Repr

inductive Start where
  | whole (c : Char)
  | begun (b : Begun)
  | stray
  deriving DecidableEq, Repr

/-- The bounds of the second octet keep out overlong forms, surrogates and numbers past the last
character. -/
def Start.ofOctet (b : UInt8) : Start :=
  let n := b.toNat
  if n < 0x80 then .whole (Char.ofNat n)
  else if n < 0xC2 then .stray
  else if n < 0xE0 then .begun ⟨n - 0xC0, 0, 0x80, 0xBF⟩
  else if n < 0xF0 then
    .begun ⟨n - 0xE0, 1, if n = 0xE0 then 0xA0 else 0x80, if n = 0xED then 0x9F else 0xBF⟩
  else if n < 0xF5 then
    .begun ⟨n - 0xF0, 2, if n = 0xF0 then 0x90 else 0x80, if n = 0xF4 then 0x8F else 0xBF⟩
  else .stray

/-- The pieces that one octet settles and what is left open after it. An octet that cannot go on
with the open character ends it as a piece of its own and is read afresh. -/
def step (state : Option Begun) (b : UInt8) : List (Option Char) × Option Begun :=
  let afresh : List (Option Char) × Option Begun :=
    match Start.ofOctet b with
    | .whole c => ([some c], none)
    | .begun s => ([], some s)
    | .stray => ([none], none)
  match state with
  | none => afresh
  | some s =>
    if s.low ≤ b.toNat ∧ b.toNat ≤ s.high then
      let number := s.number * 64 + (b.toNat - 0x80)
      match s.owed with
      | 0 => ([some (Char.ofNat number)], none)
      | k + 1 => ([], some ⟨number, k, 0x80, 0xBF⟩)
    else (none :: afresh.1, afresh.2)

def scanFrom : Option Begun → Bytes → List (Option Char)
  | none, [] => []
  | some _, [] => [none]
  | state, b :: rest => (step state b).1 ++ scanFrom (step state b).2 rest

def scan (bytes : Bytes) : List (Option Char) :=
  scanFrom none bytes

def decode? (bytes : Bytes) : Option (List Char) :=
  (scan bytes).mapM id

def decodeLossy (bytes : Bytes) : List Char :=
  (scan bytes).map (·.getD '\ufffd')

def encode (text : List Char) : Bytes :=
  text.flatMap String.utf8EncodeChar

def goesOn (b : UInt8) : Bool :=
  0x80 ≤ b.toNat && b.toNat < 0xC0

/-- The octets of a text up to a place. A text that ends before the place cannot be cut there, nor one
of which a character stands across it. -/
def upTo? (octets : Bytes) (place : Nat) : Option Bytes :=
  if octets.length < place ∨ place ≠ 0 ∧ octets[place]?.any goesOn then none
  else some (octets.take place)

theorem encode_append (a b : List Char) : encode (a ++ b) = encode a ++ encode b := by
  simp [encode]

theorem scanFrom_cons (state : Option Begun) (b : UInt8) (rest : Bytes) :
    scanFrom state (b :: rest) = (step state b).1 ++ scanFrom (step state b).2 rest := by
  cases state <;> rfl

theorem step_ascii (state : Option Begun) (b : UInt8) (h : b.toNat < 0x80) (hs : ∀ s ∈ state, 0x80 ≤ s.low) :
    step state b = (state.toList.map (fun _ => none) ++ [some (Char.ofNat b.toNat)], none) := by
  have hw : Start.ofOctet b = .whole (Char.ofNat b.toNat) := by simp [Start.ofOctet, h]
  cases state with
  | none => simp [step, hw]
  | some s =>
    have hl : ¬ s.low ≤ b.toNat := by have := hs s rfl; omega
    simp [step, hw, hl]

end Utf8

def bytesOf (text : String) : Bytes :=
  Utf8.encode text.toList

def lossyText (bytes : Bytes) : String :=
  String.ofList (Utf8.decodeLossy bytes)

def strictText? (bytes : Bytes) : Option String :=
  (Utf8.decode? bytes).map String.ofList

end SyntaxSweep
