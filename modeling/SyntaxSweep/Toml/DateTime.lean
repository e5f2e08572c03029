import SyntaxSweep.Toml.Number

namespace SyntaxSweep.Toml

def field? (count low high : Nat) (s : List Char) : Option (Nat × List Char) :=
  let digits := s.take count
  let n := valueIn 10 digits
  if digits.length = count ∧ digits.all Char.isDigit ∧ low ≤ n ∧ n ≤ high then
    some (n, s.drop count)
  else none

def mark? (c : Char) : List Char → Option (List Char)
  | a :: r => if a = c then some r else none
  | [] => none

def daysIn (year month : Nat) : Nat :=
  if month = 2 then
    if year % 4 = 0 ∧ (year % 100 ≠ 0 ∨ year % 400 = 0) then 29 else 28
  else if month = 4 ∨ month = 6 ∨ month = 9 ∨ month = 11 then 30
  else 31

def date? (s : List Char) : Option (List Char) := do
  let (year, s) ← field? 4 0 9999 s
  let s ← mark? '-' s
  let (month, s) ← field? 2 1 12 s
  let s ← mark? '-' s
  let (_, s) ← field? 2 1 (daysIn year month) s
  some s

def time? (s : List Char) : Option (List Char) := do
  let (_, s) ← field? 2 0 23 s
  let s ← mark? ':' s
  let (_, s) ← field? 2 0 59 s
  let s ← mark? ':' s
  let (_, s) ← field? 2 0 60 s
  match s with
  | '.' :: r =>
    let rest := r.dropWhile Char.isDigit
    if rest.length < r.length then some rest else none
  | s => some s

def offset? (s : List Char) : Option (List Char) :=
  match s with
  | 'Z' :: r => some r
  | 'z' :: r => some r
  | '+' :: r => hours r
  | '-' :: r => hours r
  | s => some s
where
  hours (r : List Char) : Option (List Char) := do
    let (_, r) ← field? 2 0 23 r
    let r ← mark? ':' r
    let (_, r) ← field? 2 0 59 r
    some r

def opensWith (count : Nat) (c : Char) (s : List Char) : Bool :=
  (s.take count).length == count && (s.take count).all Char.isDigit && (s.drop count).head? == some c

/-- The text after what follows a date: a time of day with its offset, or nothing. A blank belongs to
the date only if a time comes after it. -/
def dateRest? (s : List Char) : Option (List Char) :=
  match s with
  | c :: r =>
    if (c = 'T' ∨ c = 't' ∨ c = ' ') ∧ opensWith 2 ':' r then time? r >>= offset?
    else some s
  | [] => some []

/-- A date, a time of day or both; `none` if the text does not begin like one. -/
def dateTime? (s : List Char) : Option (Option (Value × List Char)) :=
  let spelled (rest : List Char) : Value × List Char :=
    (.dateTime (String.ofList (s.take (s.length - rest.length))), rest)
  if opensWith 4 '-' s then some ((date? s >>= dateRest?).map spelled)
  else if opensWith 2 ':' s then some ((time? s).map spelled)
  else none

end SyntaxSweep.Toml
