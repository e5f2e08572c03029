import SyntaxSweep.Shell.Syntax

namespace SyntaxSweep.Shell

abbrev Pattern := List Char

def characterClasses : List (String × (Char → Bool)) :=
  let isGraph (c : Char) : Bool := '!' ≤ c && c ≤ '~'
  [("alnum", Char.isAlphanum), ("alpha", Char.isAlpha),
    ("blank", fun c => c == ' ' || c == '\t'),
    ("cntrl", fun c => c.toNat < 32 || c.toNat == 127),
    ("digit", Char.isDigit), ("graph", isGraph), ("lower", Char.isLower),
    ("print", fun c => ' ' ≤ c && c ≤ '~'),
    ("punct", fun c => isGraph c && !c.isAlphanum),
    ("space", fun c => c == ' ' || ('\t' ≤ c && c ≤ '\r')),
    ("upper", Char.isUpper),
    ("xdigit", fun c => c.isDigit || ('a' ≤ c.toLower && c.toLower ≤ 'f'))]

namespace Pattern

def class? (p : Pattern) : Option ((Char → Bool) × Pattern) :=
  characterClasses.findSome? fun (name, members) =>
    let spelled := ':' :: name.toList ++ [':', ']']
    if spelled.isPrefixOf p then some (members, p.drop spelled.length) else none

def rank (c : Char) : Nat :=
  if c.toNat < 128 then c.toNat + 128 else c.toNat - 128

/-- Whether a character is in the set whose first member is `c`, and the pattern behind the set; `none`
if the set has no end. -/
def setFrom? (d : Char) : Nat → Bool → Char → Pattern → Option (Bool × Pattern)
  | 0, _, _, _ => none
  | fuel + 1, found, c, p =>
    let onward (found : Bool) (p : Pattern) : Option (Bool × Pattern) :=
      match p with
      | [] => none
      | ']' :: rest => some (found, rest)
      | c :: rest => setFrom? d fuel found c rest
    match if c = '[' then class? p else none with
    | some (members, rest) => onward (found || members d) rest
    | none =>
      let member? : Option (Char × Pattern) :=
        if c = '\\' then
          match p with
          | [] => none
          | e :: rest => some (e, rest)
        else some (c, p)
      match member? with
      | none => none
      | some (first, '-' :: last :: rest) =>
        if last = ']' then onward (found || d == first) ('-' :: last :: rest)
        else
          let (last, rest) := match last, rest with
            | '\\', e :: rest => (e, rest)
            | last, rest => (last, rest)
          onward (found || (rank first ≤ rank d && rank d ≤ rank last)) rest
      | some (first, rest) => onward (found || d == first) rest

def set? (d : Char) (p : Pattern) : Option (Bool × Pattern) :=
  let (turned, members) := match p with
    | '!' :: rest => (true, rest)
    | p => (false, p)
  match members with
  | [] => none
  | c :: rest => (setFrom? d (rest.length + 1) false c rest).map fun (b, p) => (b != turned, p)

def accepts : Nat → Pattern → Octets → Bool
  | 0, _, _ => false
  | _ + 1, [], s => s.isEmpty
  | fuel + 1, '*' :: p, s =>
    accepts fuel p s || (match s with
      | [] => false
      | _ :: s => accepts fuel ('*' :: p) s)
  | _ + 1, _ :: _, [] => false
  | fuel + 1, '?' :: p, _ :: s => accepts fuel p s
  | fuel + 1, '[' :: p, d :: s =>
    match set? d p with
    | some (found, rest) => found && accepts fuel rest s
    | none => d == '[' && accepts fuel p s
  | fuel + 1, '\\' :: c :: p, d :: s => c == d && accepts fuel p s
  | fuel + 1, c :: p, d :: s => c == d && accepts fuel p s

def holds (p : Pattern) (s : Octets) : Bool :=
  accepts (p.length + s.length + 2) p s

def front? (p : Pattern) (longest : Bool) (s : Octets) : Option Nat :=
  let lengths := List.range (s.length + 1)
  (if longest then lengths.reverse else lengths).find? fun n => p.holds (s.take n)

def back? (p : Pattern) (longest : Bool) (s : Octets) : Option Nat :=
  let starts := List.range (s.length + 1)
  (if longest then starts else starts.reverse).find? fun n => p.holds (s.drop n)

def closesSet : Nat → Pattern → Bool
  | 0, _ => false
  | fuel + 1, p =>
    let p := match p with
      | '\\' :: rest => rest
      | p => p
    match p with
    | [] | '/' :: _ => false
    | _ :: ']' :: _ => true
    | _ :: rest => closesSet fuel rest

/-- The part of a pattern up to the slash before its first general piece, that piece, and what follows
it, with the slash between them; `none` if no piece is general. -/
def general? (p : Pattern) : Option (Pattern × Pattern × Option Pattern) :=
  go p.length p [] [] false
where
  go : Nat → Pattern → Pattern → Pattern → Bool → Option (Pattern × Pattern × Option Pattern)
    | _, [], before, piece, isGeneral =>
      if isGeneral then some (before.reverse, piece.reverse, none) else none
    | 0, _, _, _, _ => none
    | fuel + 1, c :: rest, before, piece, isGeneral =>
      let slash (rest spelled : Pattern) : Option (Pattern × Pattern × Option Pattern) :=
        if isGeneral then some (before.reverse, piece.reverse, some rest)
        else go fuel rest (spelled ++ piece ++ before) [] false
      match c, rest with
      | '*', rest | '?', rest => go fuel rest before (c :: piece) true
      | '[', rest =>
        let inside := match rest with
          | '!' :: r => r
          | r => r
        go fuel rest before (c :: piece) (isGeneral || closesSet (rest.length + 1) inside)
      | '\\', '/' :: rest => slash rest ['/', '\\']
      | '\\', d :: rest => go fuel rest before (d :: '\\' :: piece) isGeneral
      | '/', rest => slash rest ['/']
      | c, rest => go fuel rest before (c :: piece) isGeneral

def text : Pattern → Octets
  | '\\' :: c :: rest => c :: text rest
  | c :: rest => c :: text rest
  | [] => []

end Pattern

end SyntaxSweep.Shell
