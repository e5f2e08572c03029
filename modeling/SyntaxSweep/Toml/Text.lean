import SyntaxSweep.Toml.Blank

namespace SyntaxSweep.Toml

def hexValue? (c : Char) : Option Nat :=
  if '0' ≤ c ∧ c ≤ '9' then some (c.toNat - '0'.toNat)
  else if 'a' ≤ c ∧ c ≤ 'f' then some (c.toNat - 'a'.toNat + 10)
  else if 'A' ≤ c ∧ c ≤ 'F' then some (c.toNat - 'A'.toNat + 10)
  else none

/-- The character whose number the digits give; a surrogate is none. -/
def scalar? (digits : List Char) : Option Char := do
  let values ← digits.mapM hexValue?
  let n := values.foldl (fun n d => n * 16 + d) 0
  if n < 0xD800 ∨ (0xDFFF < n ∧ n < 0x110000) then some (Char.ofNat n) else none

def escaped? : Char → Option Char
  | 'b' => some '\x08'
  | 't' => some '\t'
  | 'n' => some '\n'
  | 'f' => some '\x0c'
  | 'r' => some '\r'
  | '"' => some '"'
  | '\\' => some '\\'
  | _ => none

def basicText? : List Char → Option (List Char × List Char)
  | '\\' :: 'u' :: a :: b :: c :: d :: r => do
    let x ← scalar? [a, b, c, d]
    let (text, rest) ← basicText? r
    some (x :: text, rest)
  | '\\' :: 'U' :: a :: b :: c :: d :: e :: f :: g :: h :: r => do
    let x ← scalar? [a, b, c, d, e, f, g, h]
    let (text, rest) ← basicText? r
    some (x :: text, rest)
  | '\\' :: k :: r => do
    let x ← escaped? k
    let (text, rest) ← basicText? r
    some (x :: text, rest)
  | '"' :: r => some ([], r)
  | c :: r =>
    if isPlain c then do
      let (text, rest) ← basicText? r
      some (c :: text, rest)
    else none
  | [] => none

def literalText? : List Char → Option (List Char × List Char)
  | '\'' :: r => some ([], r)
  | c :: r =>
    if isPlain c then do
      let (text, rest) ← literalText? r
      some (c :: text, rest)
    else none
  | [] => none

def closing (quote : Char) : List Char → List Char × List Char
  | a :: b :: r =>
    if a = quote ∧ b = quote then ([a, b], r)
    else if a = quote then ([a], b :: r)
    else ([], a :: b :: r)
  | [a] => if a = quote then ([a], []) else ([], [a])
  | [] => ([], [])

/-- What a backslash at the end of a line does to the text after it: first the line must end, then
all blanks and line ends are dropped. -/
inductive Folding where
  | none
  | lineOwed
  | dropping
  deriving DecidableEq

/-- The text up to three closing double quotes. A line end is a line feed however it is spelled. -/
def basicLines? : Folding → List Char → Option (List Char × List Char)
  | .dropping, ' ' :: r => basicLines? .dropping r
  | .dropping, '\t' :: r => basicLines? .dropping r
  | .dropping, '\n' :: r => basicLines? .dropping r
  | .dropping, '\r' :: '\n' :: r => basicLines? .dropping r
  | .lineOwed, ' ' :: r => basicLines? .lineOwed r
  | .lineOwed, '\t' :: r => basicLines? .lineOwed r
  | .lineOwed, '\n' :: r => basicLines? .dropping r
  | .lineOwed, '\r' :: '\n' :: r => basicLines? .dropping r
  | .lineOwed, _ => none
  | _, '"' :: '"' :: '"' :: r => some (closing '"' r)
  | _, '\\' :: ' ' :: r => basicLines? .lineOwed r
  | _, '\\' :: '\t' :: r => basicLines? .lineOwed r
  | _, '\\' :: '\n' :: r => basicLines? .dropping r
  | _, '\\' :: '\r' :: '\n' :: r => basicLines? .dropping r
  | _, '\\' :: 'u' :: a :: b :: c :: d :: r => do
    let x ← scalar? [a, b, c, d]
    let (text, rest) ← basicLines? .none r
    some (x :: text, rest)
  | _, '\\' :: 'U' :: a :: b :: c :: d :: e :: f :: g :: h :: r => do
    let x ← scalar? [a, b, c, d, e, f, g, h]
    let (text, rest) ← basicLines? .none r
    some (x :: text, rest)
  | _, '\\' :: k :: r => do
    let x ← escaped? k
    let (text, rest) ← basicLines? .none r
    some (x :: text, rest)
  | _, '\r' :: '\n' :: r => do
    let (text, rest) ← basicLines? .none r
    some ('\n' :: text, rest)
  | _, c :: r =>
    if isPlain c ∨ c = '\n' then do
      let (text, rest) ← basicLines? .none r
      some (c :: text, rest)
    else none
  | _, [] => none

def literalLines? : List Char → Option (List Char × List Char)
  | '\'' :: '\'' :: '\'' :: r => some (closing '\'' r)
  | '\r' :: '\n' :: r => do
    let (text, rest) ← literalLines? r
    some ('\n' :: text, rest)
  | c :: r =>
    if isPlain c ∨ c = '\n' then do
      let (text, rest) ← literalLines? r
      some (c :: text, rest)
    else none
  | [] => none

def afterOpening (s : List Char) : List Char :=
  (lineEnd? s).getD s

def lineText? : List Char → Option (List Char × List Char)
  | '"' :: r => basicText? r
  | '\'' :: r => literalText? r
  | _ => none

def text? : List Char → Option (List Char × List Char)
  | '"' :: '"' :: '"' :: r => basicLines? .none (afterOpening r)
  | '\'' :: '\'' :: '\'' :: r => literalLines? (afterOpening r)
  | s => lineText? s

end SyntaxSweep.Toml
