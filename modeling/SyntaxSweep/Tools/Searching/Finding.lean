import SyntaxSweep.Regex.Reading
import SyntaxSweep.Tools.Searching.Asked

namespace SyntaxSweep.Search

structure Sought where
  expression : Regex
  words : Bool
  whole : Bool

namespace Sought

def isFree (text : Line) (n : Nat) : Bool :=
  !text.isWordAt n

def fits (s : Sought) (text : Line) : Bool :=
  if s.whole then (s.expression.endsFrom text 0).getLast? = some text.size
  else if s.words then
    let starts := (List.range (text.size + 1)).filter fun n => n = 0 || isFree text (n - 1)
    if s.expression.refersBack then
      starts.any fun n => (s.expression.endsFrom text n).any (isFree text)
    else (s.expression.ends text starts).any (isFree text)
  else s.expression.occurs text

def endAt? (s : Sought) (text : Line) (n : Nat) : Option Nat :=
  let found := (s.expression.endsFrom text n).reverse
  if s.words then
    if n = 0 || isFree text (n - 1) then
      match found with
      | [] => none
      | longest :: shorter => (longest :: shorter.filter (n < ·)).find? (isFree text)
    else none
  else found.head?

/-- The matches from a place on, the last one first: where they begin and end. Those of no length are
passed over. -/
def matchesFrom (s : Sought) (text : Line) : Nat → Nat → List (Nat × Nat) → List (Nat × Nat)
  | 0, _, found => found
  | fuel + 1, n, found =>
    if text.size ≤ n then found
    else
      match s.endAt? text n with
      | some m => if n < m then matchesFrom s text fuel m ((n, m) :: found)
        else matchesFrom s text fuel (n + 1) found
      | none => matchesFrom s text fuel (n + 1) found

def allMatches (s : Sought) (text : Line) : List (Nat × Nat) :=
  (s.matchesFrom text (text.size + 1) 0 []).reverse

end Sought

/-- The expressions of patterns, with what is odd about them and what is wrong. -/
structure Compiled where
  expressions : List Regex := []
  oddities : List String := []
  mistake : Option String := none
  failures : List String := []

namespace Compiled

def add (kind : Kind) (caseless : Bool) (c : Compiled) (p : Pattern) : Compiled :=
  match kind with
  | .fixed =>
    let set (ch : Char) : CharSet :=
      if caseless then (CharSet.single ch).caseless else .single ch
    let e := p.text.foldr (fun ch e => Regex.sequence (.one (set ch)) e) .empty
    { c with expressions := c.expressions ++ [e] }
  | _ =>
    match Regex.read ⟨kind ≠ .basic, caseless⟩ p.text with
    | .ok r =>
      { c with
        expressions := c.expressions ++ [r.expression]
        oddities := if c.mistake.isSome then c.oddities else c.oddities ++ r.oddities
        mistake := c.mistake.or r.mistake }
    | .error why =>
      let lead := match p.origin with
        | some (name, n) => s!"{Octets.text name}:{n}: "
        | none => ""
      { c with failures := c.failures ++ [lead ++ why] }

def expression (c : Compiled) : Regex :=
  match c.expressions.reverse with
  | [] => .empty
  | last :: others => others.foldl (fun e f => .either f e) last

end Compiled

def sought (c : Caller) (a : Asked) : Tool Sought := do
  let compiled := (a.patterns.getD []).foldl (Compiled.add (a.kind.getD .basic) a.caseless) {}
  if compiled.failures ≠ [] then
    for failure in compiled.failures do
      Tool.complain s!"{c.text}: {failure}\n"
    throw 2
  for oddity in compiled.oddities do
    Tool.complain s!"{c.text}: warning: {oddity}\n"
  match compiled.mistake with
  | some mistake => c.refuse mistake 2
  | none => return ⟨compiled.expression, a.words, a.whole⟩

end SyntaxSweep.Search
