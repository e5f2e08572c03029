import SyntaxSweep.Decimal.Shortest
import SyntaxSweep.Text.Octets

namespace SyntaxSweep.Formatted

def isOctal (c : Char) : Bool :=
  '0' ≤ c && c ≤ '7'

def digitValue (c : Char) : Nat :=
  if c.isDigit then c.toNat - '0'.toNat else c.toLower.toNat - 'a'.toNat + 10

def numeral (base : Nat) (digits : Octets) : Nat :=
  digits.foldl (fun n d => n * base + digitValue d) 0

def controls : List (Char × Char) :=
  [('a', '\x07'), ('b', '\x08'), ('e', '\x1b'), ('f', '\x0c'), ('n', '\n'), ('r', '\r'), ('t', '\t'),
    ('v', '\x0b'), ('\\', '\\')]

/-- The octet that stands after a backslash, and what follows it. A backslash that means nothing
stands for itself. -/
def escape (s : Octets) : Char × Octets :=
  match s with
  | [] => ('\\', [])
  | c :: r =>
    if isOctal c then
      let digits := (s.take 3).takeWhile isOctal
      (Char.ofNat (numeral 8 digits % 256), s.drop digits.length)
    else
      match controls.lookup c with
      | some d => (d, r)
      | none => ('\\', s)

/-- A text with its backslashes carried out, and whether it ends all output. An octal number may have
a zero before its three digits. -/
def unescaped : Nat → Octets → Octets → Octets × Bool
  | 0, _, out => (out.reverse, false)
  | fuel + 1, s, out =>
    match s with
    | [] => (out.reverse, false)
    | '\\' :: 'c' :: _ => (out.reverse, true)
    | '\\' :: r =>
      let r := match r with
        | '0' :: d :: more => if isOctal d then d :: more else r
        | r => r
      let (c, r) := escape r
      unescaped fuel r (c :: out)
    | c :: r => unescaped fuel r (c :: out)

def unescape (s : Octets) : Octets × Bool :=
  unescaped (s.length + 1) s []

structure Field where
  flags : Octets := []
  width : Nat := 0
  places : Option Nat := none
  letter : Char

namespace Field

def has (f : Field) (flag : Char) : Bool :=
  f.flags.contains flag

def pad (f : Field) (text : Octets) : Octets :=
  let fill := List.replicate (f.width - text.length) ' '
  if f.has '-' then text ++ fill else fill ++ text

def padNumber (f : Field) (zeros : Bool) (sign digits : Octets) : Octets :=
  if zeros ∧ f.has '0' ∧ !f.has '-' then
    sign ++ List.replicate (f.width - sign.length - digits.length) '0' ++ digits
  else f.pad (sign ++ digits)

def sign (f : Field) (negative : Bool) : Octets :=
  if negative then ['-'] else if f.has '+' then ['+'] else if f.has ' ' then [' '] else []

def digits (f : Field) (base n : Nat) : Octets :=
  let least := f.places.getD 1
  let digits := if n = 0 then [] else Nat.toDigits base n
  List.replicate (least - digits.length) '0' ++ digits

def integer (f : Field) (n : Int) : Octets :=
  f.padNumber f.places.isNone (f.sign (n < 0)) (f.digits 10 n.natAbs)

def natural (f : Field) (n : Nat) : Octets :=
  let zeros := f.places.isNone
  match f.letter with
  | 'o' =>
    let digits := f.digits 8 n
    f.padNumber zeros [] (if f.has '#' ∧ digits.head? ≠ some '0' then '0' :: digits else digits)
  | 'x' => f.padNumber zeros (if f.has '#' ∧ n ≠ 0 then ['0', 'x'] else []) (f.digits 16 n)
  | 'X' =>
    f.padNumber zeros (if f.has '#' ∧ n ≠ 0 then ['0', 'X'] else []) ((f.digits 16 n).map Char.toUpper)
  | _ => f.padNumber zeros [] (f.digits 10 n)

def pointed (f : Field) (n places : Nat) : Octets :=
  let digits := Nat.toDigits 10 n
  let digits := List.replicate (places + 1 - digits.length) '0' ++ digits
  let whole := digits.length - places
  digits.take whole ++ (if places = 0 ∧ !f.has '#' then [] else ['.']) ++ digits.drop whole

def powered (numerator denominator places : Nat) : Nat × Int :=
  let power := Binary64.leadingPower numerator denominator
  let scale (power : Int) : Nat :=
    let shift : Int := (places : Int) - power
    let t := Binary64.tenfold 1 shift
    Binary64.roundedQuotient (numerator * t.1) (denominator * t.2)
  let n := scale power
  if Nat.pow 10 (places + 1) ≤ n then (scale (power + 1), power + 1) else (n, power)

def exponentText (letter : Char) (power : Int) : Octets :=
  let digits := Nat.toDigits 10 power.natAbs
  letter :: (if power < 0 then '-' else '+') :: List.replicate (2 - digits.length) '0' ++ digits

def withoutZeros (digits : Octets) : Octets :=
  if digits.contains '.' then
    ((digits.reverse.dropWhile (· == '0')).dropWhile (· == '.')).reverse
  else digits

def real (f : Field) (x : Binary64) : Octets :=
  let isUpper := f.letter.isUpper
  let cased (s : Octets) : Octets := if isUpper then s.map Char.toUpper else s
  match x with
  | .notANumber => f.pad (f.sign false ++ cased ['n', 'a', 'n'])
  | .infinite negative => f.pad (f.sign negative ++ cased ['i', 'n', 'f'])
  | .finite negative mantissa exponent =>
    let (a, b) := Binary64.asQuotient mantissa exponent
    let places := f.places.getD 6
    let e := if isUpper then 'E' else 'e'
    let scientific (places : Nat) (bare : Bool) : Octets :=
      let (n, power) := if a = 0 then (0, 0) else powered a b places
      let digits := f.pointed n places
      (if bare then withoutZeros digits else digits) ++ exponentText e power
    let fixed (places : Nat) (bare : Bool) : Octets :=
      let digits := f.pointed (Binary64.roundedQuotient (a * Nat.pow 10 places) b) places
      if bare then withoutZeros digits else digits
    let text :=
      match f.letter.toLower with
      | 'e' => scientific places false
      | 'g' =>
        let p := max places 1
        let power := if a = 0 then 0 else (powered a b (p - 1)).2
        if power < -4 ∨ (p : Int) ≤ power then scientific (p - 1) (!f.has '#')
        else fixed ((p : Int) - 1 - power).toNat (!f.has '#')
      | _ => fixed places false
    f.padNumber true (f.sign negative) text

end Field

/-- What a format has come to: its text, the last piece first, the words left, what is wrong with some
of the words, and whether it has been cut short. -/
structure Printed where
  out : List Octets := []
  words : List Octets
  problems : List String := []
  failure : Option String := none
  ended : Bool := false

namespace Printed

def push (p : Printed) (octets : Octets) : Printed :=
  { p with out := octets :: p.out }

def word (p : Printed) : Octets × Printed :=
  (p.words.headD [], { p with words := p.words.tail })

def checked (p : Printed) (word rest : Octets) (outside : Bool) : Printed :=
  let problem :=
    if rest ≠ [] then
      some (if rest.length = word.length then "expected numeric value" else "not completely converted")
    else if outside then some "Numerical result out of range"
    else none
  match problem with
  | some why => { p with problems := p.problems ++ [s!"{Octets.text word}: {why}"] }
  | none => p

def isBlank (c : Char) : Bool :=
  c == ' ' || ('\t' ≤ c && c ≤ '\r')

def signed (s : Octets) : Bool × Octets :=
  match s with
  | '-' :: r => (true, r)
  | '+' :: r => (false, r)
  | r => (false, r)

/-- The whole number at the front of a word in the base that its digits tell, and what follows it. -/
def wholeNumber (word : Octets) : Int × Octets :=
  let (negative, s) := signed (word.dropWhile isBlank)
  let isHex (c : Char) : Bool := c.isDigit || ('a' ≤ c.toLower && c.toLower ≤ 'f')
  let (base, digits, rest) : Nat × Octets × Octets :=
    match s with
    | '0' :: x :: c :: r =>
      if (x = 'x' ∨ x = 'X') ∧ isHex c then
        let digits := (c :: r).takeWhile isHex
        (16, digits, (c :: r).drop digits.length)
      else
        let digits := s.takeWhile isOctal
        (8, digits, s.drop digits.length)
    | '0' :: _ =>
      let digits := s.takeWhile isOctal
      (8, digits, s.drop digits.length)
    | s =>
      let digits := s.takeWhile Char.isDigit
      (10, digits, s.drop digits.length)
  if digits = [] then (0, word)
  else (if negative then -(numeral base digits : Int) else numeral base digits, rest)

def integerWord (p : Printed) (isSigned : Bool) : Int × Printed :=
  match p.word with
  | ('"' :: r, q) | ('\x27' :: r, q) => ((r.head?.map Char.toNat).getD 0, q)
  | (word, q) =>
    let (n, rest) := wholeNumber word
    let (least, most) : Int × Int :=
      if isSigned then (-9223372036854775808, 9223372036854775807)
      else (-18446744073709551615, 18446744073709551615)
    let outside := n < least ∨ most < n
    let n := if isSigned then max least (min n most) else if outside then most else n
    (n, if word = [] then q else q.checked word rest outside)

/-- The number at the front of a word, with a point and a power of ten, and what follows it. -/
def realNumber (word : Octets) : Binary64 × Octets :=
  let (negative, s) := signed (word.dropWhile isBlank)
  let lower := s.map Char.toLower
  if "infinity".toList.isPrefixOf lower then (.infinite negative, s.drop 8)
  else if "inf".toList.isPrefixOf lower then (.infinite negative, s.drop 3)
  else if "nan".toList.isPrefixOf lower then (.notANumber, s.drop 3)
  else
    let whole := s.takeWhile Char.isDigit
    let s := s.drop whole.length
    let (part, s) := match s with
      | '.' :: r =>
        let part := r.takeWhile Char.isDigit
        if whole = [] ∧ part = [] then ([], s) else (part, r.drop part.length)
      | s => ([], s)
    if whole = [] ∧ part = [] then (.finite false 0 0, word)
    else
      let (power, s) : Int × Octets := match s with
        | e :: r =>
          let (minus, d) := signed r
          let digits := d.takeWhile Char.isDigit
          if (e = 'e' ∨ e = 'E') ∧ digits ≠ [] then
            (if minus then -(numeral 10 digits : Int) else numeral 10 digits, d.drop digits.length)
          else (0, s)
        | [] => (0, s)
      (.ofDecimal negative (numeral 10 (whole ++ part)) (power - part.length), s)

def realWord (p : Printed) : Binary64 × Printed :=
  match p.word with
  | ('"' :: r, q) | ('\x27' :: r, q) => (.ofDecimal false ((r.head?.map Char.toNat).getD 0) 0, q)
  | (word, q) =>
    let (x, rest) := realNumber word
    let spelled := (word.dropWhile isBlank).any Char.isDigit
    let outside := match x with
      | .infinite _ => spelled
      | _ => false
    (x, if word = [] then q else q.checked word rest outside)

end Printed

def size (s : Octets) (p : Printed) : Option Int × Octets × Printed :=
  match s with
  | '*' :: r =>
    let (n, p) := p.integerWord true
    (some n, r, p)
  | s =>
    let digits := s.takeWhile Char.isDigit
    (if digits = [] then none else some (numeral 10 digits), s.drop digits.length, p)

def field? (s : Octets) (p : Printed) : Option (Field × Octets) × Printed :=
  let flags := s.takeWhile fun c => ['#', '-', '+', ' ', '0'].contains c
  let (width, s, p) := size (s.drop flags.length) p
  let (places, s, p) : Option Nat × Octets × Printed := match s with
    | '.' :: r =>
      let (n, r, p) := size r p
      let n := n.getD 0
      (if n < 0 then none else some n.toNat, r, p)
    | s => (none, s, p)
  let width := width.getD 0
  let flags := if width < 0 then '-' :: flags else flags
  match s with
  | letter :: rest => (some (⟨flags, width.natAbs, places, letter⟩, rest), p)
  | [] => (none, p)

/-- A word or a number in its field; `none` if there is no such field. -/
def Field.fill? (f : Field) (p : Printed) : Option Printed :=
  let cut (text : Octets) : Octets := match f.places with
    | some n => text.take n
    | none => text
  match f.letter with
  | 's' =>
    let (word, p) := p.word
    some (p.push (f.pad (cut word)))
  | 'c' =>
    let (word, p) := p.word
    some (p.push (f.pad [word.headD '\x00']))
  | 'b' =>
    let (word, p) := p.word
    let (text, ended) := unescape word
    some { p.push (f.pad (cut text)) with ended }
  | 'd' | 'i' =>
    let (n, p) := p.integerWord true
    some (p.push (f.integer n))
  | 'o' | 'u' | 'x' | 'X' =>
    let (n, p) := p.integerWord false
    some (p.push (f.natural (n % 18446744073709551616).toNat))
  | 'e' | 'E' | 'f' | 'F' | 'g' | 'G' =>
    let (x, p) := p.realWord
    some (p.push (f.real x))
  | _ => none

def pass : Nat → Octets → Printed → Printed
  | 0, _, p => p
  | fuel + 1, format, p =>
    match format with
    | [] => p
    | '\\' :: r =>
      let (c, r) := escape r
      pass fuel r (p.push [c])
    | '%' :: '%' :: r => pass fuel r (p.push ['%'])
    | '%' :: r =>
      match field? r p with
      | (none, p) => { p with failure := some "missing format character" }
      | (some (f, rest), p) =>
        match f.fill? p with
        | none =>
          let directive := Octets.text ('%' :: r.take (r.length - rest.length))
          { p with failure := some s!"{directive}: invalid directive" }
        | some p => if p.ended then p else pass fuel rest p
    | c :: r =>
      let text := (c :: r).takeWhile fun c => c != '\\' && c != '%'
      pass fuel ((c :: r).drop text.length) (p.push text)

/-- The format again and again while words are left and it uses some. -/
def passes : Nat → Octets → Printed → Printed
  | 0, _, p => p
  | fuel + 1, format, p =>
    let q := pass (format.length + 1) format p
    if q.ended || q.failure.isSome || q.words.isEmpty || q.words.length = p.words.length then q
    else passes fuel format q

def fill (format : Octets) (words : List Octets) : Printed :=
  passes (words.length + 1) format { words }

def Printed.text (p : Printed) : Octets :=
  p.out.reverse.flatten

end SyntaxSweep.Formatted
