import SyntaxSweep.Toml.Text
import SyntaxSweep.Toml.DateTime
import SyntaxSweep.Toml.Assembly

namespace SyntaxSweep.Toml

def nestingLimit : Nat := 80

def isBare (c : Char) : Bool :=
  c.isAlpha || c.isDigit || c == '_' || c == '-'

def keyPart? (s : List Char) : Option (String × List Char) :=
  match s with
  | '"' :: _ | '\'' :: _ => (lineText? s).map fun (text, rest) => (String.ofList text, rest)
  | s =>
    let name := s.takeWhile isBare
    if name = [] then none else some (String.ofList name, s.dropWhile isBare)

def keyParts? : Nat → List Char → Option (List String × List Char)
  | 0, _ => none
  | fuel + 1, s => do
    let (part, s) ← keyPart? (spaces s)
    match spaces s with
    | '.' :: r =>
      let (parts, rest) ← keyParts? fuel r
      some (part :: parts, rest)
    | s => some ([part], s)

def key? (s : List Char) : Option (KeyPath × List Char) := do
  let (parts, rest) ← keyParts? (nestingLimit - 1) s
  let last ← parts.getLast?
  some (⟨parts.dropLast, last⟩, rest)

def scalarValue? (s : List Char) : Option (Value × List Char) :=
  match s with
  | '"' :: _ | '\'' :: _ => (text? s).map fun (text, rest) => (.string (String.ofList text), rest)
  | 't' :: 'r' :: 'u' :: 'e' :: r => some (.boolean true, r)
  | 'f' :: 'a' :: 'l' :: 's' :: 'e' :: r => some (.boolean false, r)
  | s => (dateTime? s).getD (number? s)

mutual

/-- A value. `depth` counts the arrays and tables around it; every step into one or on to the next
item uses up fuel, of which the length of the text is enough. -/
def value? : Nat → Nat → List Char → Option (Value × List Char)
  | 0, _, _ => none
  | fuel + 1, depth, '[' :: r => do
    if nestingLimit ≤ depth + 1 then none
    let r ← filler false r
    match r with
    | ']' :: rest => some (.array [], rest)
    | r =>
      let (items, rest) ← items? fuel (depth + 1) r
      some (.array items, rest)
  | fuel + 1, depth, '\x7b' :: r => do
    if nestingLimit ≤ depth + 1 then none
    match spaces r with
    | '\x7d' :: rest => some (.table [], rest)
    | r =>
      let (pairs, rest) ← pairs? fuel (depth + 1) r
      let table ← inlineTable? pairs
      some (table, rest)
  | _ + 1, _, s => scalarValue? s

/-- The items of an array from the first one on. A comma may stand after the last one. -/
def items? : Nat → Nat → List Char → Option (List Value × List Char)
  | 0, _, _ => none
  | fuel + 1, depth, s => do
    let (v, s) ← value? fuel depth s
    let s ← filler false s
    match s with
    | ']' :: rest => some ([v], rest)
    | ',' :: r =>
      let r ← filler false r
      match r with
      | ']' :: rest => some ([v], rest)
      | r =>
        let (items, rest) ← items? fuel depth r
        some (v :: items, rest)
    | _ => none

def pairs? : Nat → Nat → List Char → Option (List Pair × List Char)
  | 0, _, _ => none
  | fuel + 1, depth, s => do
    let (key, s) ← key? s
    match s with
    | '=' :: r =>
      let (v, s) ← value? fuel depth (spaces r)
      match spaces s with
      | '\x7d' :: rest => some ([⟨key, v⟩], rest)
      | ',' :: r =>
        let (pairs, rest) ← pairs? fuel depth r
        some (⟨key, v⟩ :: pairs, rest)
      | _ => none
    | _ => none

end

end SyntaxSweep.Toml
