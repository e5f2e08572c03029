import SyntaxSweep.Path.Basic
import SyntaxSweep.Text.Blank
import SyntaxSweep.Unicode.Digit
import SyntaxSweep.Unicode.Word

namespace SyntaxSweep

def diagnosticText (path : Path) (status : Int) (output : String) : String :=
  let output := trimmedEnd output
  if output = "" then s!"{path.text}: checker exited with status {status}"
  else s!"{path.text}:\n{output}"

def lineMark : List Char :=
  "on line ".toList

/-- The digits after the first `on line ` that has some. `inWord` says that the character before the
text belongs to a word; the mark has to begin a word. -/
def lineDigits? (isWord isDigit : Char → Bool) (inWord : Bool) : List Char → Option (List Char)
  | [] => none
  | c :: rest =>
    let digits := ((c :: rest).drop lineMark.length).takeWhile isDigit
    if !inWord ∧ lineMark.isPrefixOf (c :: rest) ∧ digits ≠ [] then some digits
    else lineDigits? isWord isDigit (isWord c) rest

def lineNumber? (digits : List Char) : Option Nat :=
  if digits.all Char.isDigit then
    let n := digits.foldl (fun n d => n * 10 + (d.toNat - '0'.toNat)) 0
    if n < Nat.pow 2 32 then some n else none
  else none

def namedLine? (output : String) : Option Nat :=
  (lineDigits? Unicode.isWord Unicode.isDigit false output.toList).bind lineNumber?

end SyntaxSweep
