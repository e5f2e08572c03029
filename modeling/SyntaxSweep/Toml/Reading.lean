import SyntaxSweep.Toml.Expression

namespace SyntaxSweep.Toml

inductive Line where
  | pair (p : Pair)
  | header (repeated : Bool) (key : KeyPath)

def line? (s : List Char) : Option (Line × List Char) :=
  match s with
  | '[' :: '[' :: r => do
    let (key, s) ← key? r
    match s with
    | ']' :: ']' :: r =>
      let rest ← lineRest? r
      some (.header true key, rest)
    | _ => none
  | '[' :: r => do
    let (key, s) ← key? r
    match s with
    | ']' :: r =>
      let rest ← lineRest? r
      some (.header false key, rest)
    | _ => none
  | s => do
    let (key, s) ← key? s
    match s with
    | '=' :: r =>
      let (v, s) ← value? (r.length + 1) 0 (spaces r)
      let rest ← lineRest? s
      some (.pair ⟨key, v⟩, rest)
    | _ => none

def lines? : Nat → List Char → Option (List Line)
  | 0, _ => none
  | fuel + 1, s => do
    let s ← filler false s
    if s = [] then some []
    else
      let (line, rest) ← line? s
      let more ← lines? fuel rest
      some (line :: more)

def sections : List Line → List Pair × List Section
  | [] => ([], [])
  | .pair p :: rest => (p :: (sections rest).1, (sections rest).2)
  | .header repeated key :: rest => ([], ⟨repeated, key, (sections rest).1⟩ :: (sections rest).2)

/-- The document that a text spells, if it spells one. One byte order mark may stand before it. -/
def Document.read? (s : List Char) : Option Document := do
  let s := match s with
    | '\ufeff' :: r => r
    | s => s
  let all ← lines? (s.length + 1) s
  let (top, rest) := sections all
  Document.assemble? top rest

end SyntaxSweep.Toml
