namespace SyntaxSweep.Toml

def isSpace (c : Char) : Bool :=
  c == ' ' || c == '\t'

def isPlain (c : Char) : Bool :=
  c == '\t' || (0x20 ≤ c.toNat && c.toNat ≠ 0x7F)

def spaces (s : List Char) : List Char :=
  s.dropWhile isSpace

def lineEnd? : List Char → Option (List Char)
  | '\n' :: r => some r
  | '\r' :: '\n' :: r => some r
  | _ => none

/-- The rest of a line: blanks, perhaps a comment, and its end or the end of the document. -/
def lineRest? (s : List Char) : Option (List Char) :=
  let s := spaces s
  let s := match s with
    | '#' :: r => r.dropWhile isPlain
    | s => s
  match s with
  | [] => some []
  | s => lineEnd? s

def filler : Bool → List Char → Option (List Char)
  | _, [] => some []
  | _, '\n' :: r => filler false r
  | _, '\r' :: '\n' :: r => filler false r
  | true, c :: r => if isPlain c then filler true r else none
  | false, '#' :: r => filler true r
  | false, c :: r => if isSpace c then filler false r else some (c :: r)

end SyntaxSweep.Toml
