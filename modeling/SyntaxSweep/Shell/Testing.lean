import SyntaxSweep.Shell.State

namespace SyntaxSweep.Shell

namespace Condition

inductive Comparison where
  | same
  | other
  | before
  | after
  | equal
  | unequal
  | atLeast
  | greater
  | atMost
  | less
  | newer
  | older
  | sameFile
  deriving DecidableEq, Repr

inductive Operator where
  | unary (letter : Char)
  | binary (c : Comparison)
  | not
  | and
  | or
  | openParen
  | closeParen
  deriving DecidableEq, Repr

def unaryLetters : List Char :=
  "rwxefdcbpugkstznhOGLS".toList

def spellings : List (String × Operator) :=
  [("=", .binary .same), ("!=", .binary .other), ("<", .binary .before), (">", .binary .after),
    ("-eq", .binary .equal), ("-ne", .binary .unequal), ("-ge", .binary .atLeast),
    ("-gt", .binary .greater), ("-le", .binary .atMost), ("-lt", .binary .less),
    ("-nt", .binary .newer), ("-ot", .binary .older), ("-ef", .binary .sameFile), ("!", .not),
    ("-a", .and), ("-o", .or), ("(", .openParen), (")", .closeParen)]

def operator? (word : Octets) : Option Operator :=
  match word with
  | ['-', c] =>
    if unaryLetters.contains c then some (.unary c)
    else (spellings.find? (·.1.toList = word)).map (·.2)
  | _ => (spellings.find? (·.1.toList = word)).map (·.2)

def isBinary : Option Operator → Bool
  | some (.binary _) => true
  | _ => false

inductive Piece where
  | missing
  | operand
  | operator (o : Operator)
  deriving DecidableEq, Repr

/-- A unary operator is one only if an operand follows it. -/
def isOperand (words : Array Octets) (n : Nat) : Bool :=
  match words[n + 1]?, words[n + 2]? with
  | none, _ => true
  | some _, none => false
  | some w, some _ => isBinary (operator? w)

def piece (words : Array Octets) (n : Nat) : Piece :=
  match words[n]? with
  | none => .missing
  | some w =>
    match operator? w with
    | none => .operand
    | some o =>
      let stands := match o with
        | .unary _ => !isOperand words n
        | .openParen => (words[n + 1]?).isSome
        | _ => true
      if stands then .operator o else .operand

def malformed {α : Type} (word : Octets) (why : String) : Run α :=
  refuse (if word = [] then why else s!"{shown word}: {why}")

def holdsOf (letter : Char) (word : Octets) : Run Bool := do
  match letter with
  | 'z' => return word.isEmpty
  | 'n' => return !word.isEmpty
  | 't' =>
    let _ ← integer word
    return false
  | _ =>
    let follow := letter ≠ 'h' ∧ letter ≠ 'L'
    match ← Act.ask (.info word follow) with
    | .error _ => return false
    | .ok i =>
      return match letter with
        | 'r' | 'w' | 'e' | 'O' | 'G' => true
        | 'x' => i.executable
        | 'f' => i.kind == .regular
        | 'd' => i.kind == .directory
        | 'c' => i.kind == .device
        | 'p' => i.kind == .pipe
        | 's' => 0 < i.size
        | 'h' | 'L' => i.kind == .link
        | _ => false

/-- What a comparison of two words comes to. Which of two files is newer is not known. -/
def compare (c : Comparison) (a b : Octets) : Run Bool := do
  let numbers (holds : Int → Int → Bool) : Run Bool := do
    let n ← integer a
    return holds n (← integer b)
  match c with
  | .same => return a == b
  | .other => return a != b
  | .before => return decide (a < b)
  | .after => return decide (b < a)
  | .equal => numbers (· == ·)
  | .unequal => numbers (· != ·)
  | .atLeast => numbers fun n k => decide (k ≤ n)
  | .greater => numbers fun n k => decide (k < n)
  | .atMost => numbers fun n k => decide (n ≤ k)
  | .less => numbers fun n k => decide (n < k)
  | .newer | .older => return false
  | .sameFile =>
    match ← Act.ask (.info a true), ← Act.ask (.info b true) with
    | .ok i, .ok j => return i.mark == j.mark
    | _, _ => return false

mutual

/-- Conditions of which one has to hold, from the piece `p` at the place `n` on; the answer comes with
the place of the last word. -/
def disjunction (words : Array Octets) : Nat → Piece → Nat → Run (Bool × Nat)
  | 0, _, n => return (false, n)
  | fuel + 1, p, n => do
    let (a, n) ← conjunction words fuel p n
    if piece words (n + 1) ≠ .operator .or then return (a, n)
    let (b, n) ← disjunction words fuel (piece words (n + 2)) (n + 2)
    return (a || b, n)

def conjunction (words : Array Octets) : Nat → Piece → Nat → Run (Bool × Nat)
  | 0, _, n => return (false, n)
  | fuel + 1, p, n => do
    let (a, n) ← negation words fuel p n
    if piece words (n + 1) ≠ .operator .and then return (a, n)
    let (b, n) ← conjunction words fuel (piece words (n + 2)) (n + 2)
    return (a && b, n)

def negation (words : Array Octets) : Nat → Piece → Nat → Run (Bool × Nat)
  | 0, _, n => return (false, n)
  | fuel + 1, p, n => do
    if p ≠ .operator .not then return (← primary words fuel p n)
    let q := piece words (n + 1)
    let (b, n) ← negation words fuel q (if q = .missing then n else n + 1)
    return (!b, n)

def primary (words : Array Octets) : Nat → Piece → Nat → Run (Bool × Nat)
  | 0, _, n => return (false, n)
  | fuel + 1, p, n => do
    let word (n : Nat) : Octets := (words[n]?).getD []
    match p with
    | .missing => return (false, n)
    | .operator .openParen =>
      let q := piece words (n + 1)
      if q = .operator .closeParen then return (false, n + 1)
      let (b, n) ← disjunction words fuel q (n + 1)
      if piece words (n + 1) ≠ .operator .closeParen then malformed [] "closing paren expected"
      return (b, n + 1)
    | .operator (.unary letter) =>
      if n + 1 ≥ words.size then malformed (word n) "argument expected"
      return (← holdsOf letter (word (n + 1)), n + 1)
    | _ =>
      match piece words (n + 1) with
      | .operator (.binary c) =>
        if n + 2 ≥ words.size then malformed (word (n + 1)) "argument expected"
        return (← compare c (word n) (word (n + 2)), n + 2)
      | _ => return (!(word n).isEmpty, n)

end

def whole (words : List Octets) (first : Piece) : Run Bool := do
  let words := words.toArray
  let (b, n) ← disjunction words (4 * words.size + 8) first 0
  if n + 1 < words.size then malformed ((words[n]?).getD []) "unexpected operator"
  return b

/-- The condition that the words state, or its opposite. Few words are understood by their number;
among them a negation at the front counts once, however often it stands there. -/
def holds : Nat → Bool → List Octets → Run Bool
  | 0, turned, _ => return turned
  | fuel + 1, turned, words => do
    let plain (words : List Octets) (first : Piece) : Run Bool := do
      return (← whole words first) != turned
    let first := piece words.toArray 0
    let more : Run Bool := do
      if words.head? = some ['('] ∧ words.getLast? = some [')'] then
        let inside := (words.drop 1).dropLast
        plain inside (piece inside.toArray 0)
      else if words.head? = some ['!'] then holds fuel true (words.drop 1)
      else plain words first
    match words with
    | [] => return turned
    | [_, b, _] => if isBinary (operator? b) then plain words .operand else more
    | [_, _, _, _] => more
    | _ => plain words first

end Condition

def testBuiltin (name : Octets) (arguments : List Octets) : Run Nat := do
  let words ←
    if name.head? = some '[' then
      if ((name :: arguments).getLast?.bind List.head?) ≠ some ']' then refuse "missing ]"
      pure ((name :: arguments).dropLast.drop 1)
    else pure arguments
  return if ← Condition.holds (words.length + 1) false words then 0 else 1

end SyntaxSweep.Shell
