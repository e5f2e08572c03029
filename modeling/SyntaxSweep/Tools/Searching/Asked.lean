import SyntaxSweep.Tools.Basic

namespace SyntaxSweep.Search

inductive Kind where
  | basic
  | extended
  | fixed
  | perl
  deriving DecidableEq, Repr

/-- Whether the names of files are printed in place of their lines: of those with lines that are selected,
or of the others. -/
inductive Listing where
  | none
  | matching
  | lacking
  deriving DecidableEq, Repr

inductive Binaries where
  | told
  | asText
  | skipped
  deriving DecidableEq, Repr

inductive Directories where
  | read
  | recurse
  | skip
  deriving DecidableEq, Repr

/-- A pattern, and the line of the file it comes from. -/
structure Pattern where
  text : Octets
  origin : Option (Octets × Nat) := none
  deriving DecidableEq, Repr

structure Asked where
  kind : Option Kind := none
  patterns : Option (List Pattern) := none
  caseless : Bool := false
  words : Bool := false
  whole : Bool := false
  inverted : Bool := false
  zeros : Bool := false
  quiet : Bool := false
  silent : Bool := false
  counting : Bool := false
  listing : Listing := .none
  only : Bool := false
  numbers : Bool := false
  offsets : Bool := false
  named : Option Bool := none
  zeroNames : Bool := false
  aligned : Bool := false
  coloured : Bool := false
  eager : Bool := false
  label : Option Octets := none
  most : Option Nat := none
  before : Option Nat := none
  after : Option Nat := none
  around : Option Nat := none
  -- The digits of a number of lines that have been read last.
  digits : Octets := []
  separator : Option Octets := some ['-', '-']
  binaries : Binaries := .told
  directories : Directories := .read
  version : Bool := false
  help : Bool := false
  operands : List Octets := []
  deriving Repr

def flags : List Flag :=
  [⟨'G', ["basic-regexp"], .nothing⟩, ⟨'E', ["extended-regexp"], .nothing⟩,
    ⟨'F', ["fixed-regexp", "fixed-strings"], .nothing⟩, ⟨'P', ["perl-regexp"], .nothing⟩,
    ⟨'A', ["after-context"], .value⟩, ⟨'B', ["before-context"], .value⟩,
    ⟨'\x01', ["binary-files"], .value⟩, ⟨'\x02', ["line-buffered"], .nothing⟩,
    ⟨'C', ["context"], .value⟩, ⟨'\x03', ["color", "colour"], .perhaps⟩, ⟨'c', ["count"], .nothing⟩,
    ⟨'D', ["devices"], .value⟩, ⟨'d', ["directories"], .value⟩, ⟨'\x04', ["exclude"], .value⟩,
    ⟨'\x05', ["exclude-from"], .value⟩, ⟨'\x06', ["exclude-dir"], .value⟩, ⟨'f', ["file"], .value⟩,
    ⟨'l', ["files-with-matches"], .nothing⟩, ⟨'L', ["files-without-match"], .nothing⟩,
    ⟨'\x07', ["group-separator"], .value⟩, ⟨'\x08', ["help"], .nothing⟩, ⟨'\x0e', ["include"], .value⟩,
    ⟨'i', ["ignore-case"], .nothing⟩, ⟨'\x0f', ["no-ignore-case"], .nothing⟩,
    ⟨'T', ["initial-tab"], .nothing⟩, ⟨'\x10', ["label"], .value⟩, ⟨'n', ["line-number"], .nothing⟩,
    ⟨'x', ["line-regexp"], .nothing⟩, ⟨'m', ["max-count"], .value⟩, ⟨'h', ["no-filename"], .nothing⟩,
    ⟨'\x11', ["no-group-separator"], .nothing⟩, ⟨'s', ["no-messages"], .nothing⟩,
    ⟨'Z', ["null"], .nothing⟩, ⟨'z', ["null-data"], .nothing⟩, ⟨'o', ["only-matching"], .nothing⟩,
    ⟨'q', ["quiet"], .nothing⟩, ⟨'r', ["recursive"], .nothing⟩,
    ⟨'R', ["dereference-recursive"], .nothing⟩, ⟨'e', ["regexp"], .value⟩,
    ⟨'v', ["invert-match"], .nothing⟩, ⟨'q', ["silent"], .nothing⟩, ⟨'a', ["text"], .nothing⟩,
    ⟨'U', ["binary"], .nothing⟩, ⟨'u', ["unix-byte-offsets"], .nothing⟩, ⟨'V', ["version"], .nothing⟩,
    ⟨'H', ["with-filename"], .nothing⟩, ⟨'w', ["word-regexp"], .nothing⟩, ⟨'I', [], .nothing⟩,
    ⟨'X', [], .value⟩, ⟨'b', ["byte-offset"], .nothing⟩, ⟨'y', [], .nothing⟩] ++
    "0123456789".toList.map fun c => ⟨c, [], .nothing⟩

/-- A search as it goes by its name, and the complaint about how it was called. -/
structure Caller where
  name : Octets

namespace Caller

def text (c : Caller) : String :=
  Octets.text c.name

def base (c : Caller) : String :=
  Octets.text ((c.name.reverse.takeWhile (· ≠ '/')).reverse)

def usage (c : Caller) : String :=
  s!"Usage: {c.base} [OPTION]... PATTERNS [FILE]...\nTry '{c.base} --help' for more information.\n"

def refuse {σ α : Type} (c : Caller) (why : String) (code : Nat) : Act σ Nat α := do
  Tool.complain s!"{c.text}: {why}\n"
  throw code

end Caller

/-- The number that a word spells; blanks and a sign may stand before it. -/
def number? (word : Octets) : Option Int :=
  let s := word.dropWhile fun c => c = ' ' || ('\t' ≤ c && c ≤ '\r')
  let (negative, digits) := match s with
    | '-' :: r => (true, r)
    | '+' :: r => (false, r)
    | r => (false, r)
  if digits ≠ [] ∧ digits.all Char.isDigit then
    let n : Nat := digits.foldl (fun n d => n * 10 + (d.toNat - '0'.toNat)) 0
    some (if negative then -n else n)
  else none

def lineCount (c : Caller) (word : Octets) : Tool Nat := do
  match number? word with
  | some (.ofNat n) => return n
  | _ => c.refuse s!"{Octets.text word}: invalid context length argument" 2

def patternsIn (text : Octets) : List Octets :=
  text.splitOn '\n'

def Asked.addPatterns (a : Asked) (patterns : List Pattern) : Asked :=
  let all := patterns.foldl (fun (l : List Pattern) p =>
    if l.any (·.text = p.text) then l else l ++ [p]) (a.patterns.getD [])
  { a with patterns := some all }

def patternsOf (c : Caller) (name : Octets) : Tool (List Pattern) := do
  let opened : Except IoProblem Nat ←
    if name = ['-'] then pure (.ok 0) else Act.ask (.openFile name .read)
  match opened with
  | .error e => c.refuse s!"{Octets.text name}: {e.text}" 2
  | .ok stream =>
    match ← Tool.readAll stream Tool.plenty [] with
    | .error e => c.refuse s!"{Octets.text name}: {e.text}" 2
    | .ok text =>
      if name ≠ ['-'] then Act.ask (.close stream)
      if text = [] then return []
      let text := if text.getLast? = some '\n' then text.dropLast else text
      return (patternsIn text).zipIdx 1 |>.map fun (t, n) => ⟨t, some (name, n)⟩

def Asked.withKind (c : Caller) (a : Asked) (k : Kind) : Tool Asked := do
  match a.kind with
  | some old => if old = k then return a else c.refuse "conflicting matchers specified" 2
  | none => return { a with kind := some k }

def matchers : List (String × Kind) :=
  [("grep", .basic), ("egrep", .extended), ("fgrep", .fixed), ("awk", .extended), ("gawk", .extended),
    ("posixawk", .extended), ("perl", .perl)]

def directoryWays : List (String × Directories) :=
  [("read", .read), ("recurse", .recurse), ("skip", .skip)]

def directoriesOf (c : Caller) (word : Octets) : Tool Directories := do
  match directoryWays.lookup (String.ofList word),
      directoryWays.filter fun (n, _) => word.isPrefixOf n.toList with
  | some d, _ | none, [(_, d)] => return d
  | none, found =>
    let problem := if found = [] then "invalid" else "ambiguous"
    let all := String.join (directoryWays.map fun (n, _) => s!"  - '{n}'\n")
    Tool.complain
      s!"{c.text}: {problem} argument '{Octets.text word}' for '--directories'\nValid arguments are:\n{all}{c.usage}"
    throw 1

def Asked.withOption (c : Caller) (a : Asked) (letter : Char) (value : Octets) : Tool Asked := do
  let a : Asked := if letter.isDigit then a else { a with digits := [] }
  match letter with
  | 'G' => a.withKind c .basic
  | 'E' => a.withKind c .extended
  | 'F' => a.withKind c .fixed
  | 'P' => a.withKind c .perl
  | 'X' =>
    match matchers.lookup (String.ofList value) with
    | some k => a.withKind c k
    | none => c.refuse s!"invalid matcher {Octets.text value}" 2
  | 'A' => return { a with after := some (← lineCount c value) }
  | 'B' => return { a with before := some (← lineCount c value) }
  | 'C' => return { a with around := some (← lineCount c value) }
  | '\x01' =>
    match String.ofList value with
    | "binary" => return { a with binaries := .told }
    | "text" => return { a with binaries := .asText }
    | "without-match" => return { a with binaries := .skipped }
    | _ => c.refuse "unknown binary-files type" 2
  | '\x02' => return { a with eager := true }
  | '\x03' =>
    if ["always", "yes", "force"].contains (String.ofList value) then return { a with coloured := true }
    else if ["", "never", "no", "none", "auto", "tty", "if-tty"].contains (String.ofList value) then
      return { a with coloured := false }
    else return { a with help := true }
  | 'c' => return { a with counting := true }
  | 'D' =>
    if ["read", "skip"].contains (String.ofList value) then return a
    else c.refuse "unknown devices method" 2
  | 'd' => return { a with directories := ← directoriesOf c value }
  | 'e' => return a.addPatterns ((patternsIn value).map fun t => ⟨t, none⟩)
  | 'f' => return a.addPatterns (← patternsOf c value)
  | 'l' => return { a with listing := .matching }
  | 'L' => return { a with listing := .lacking }
  | '\x07' => return { a with separator := some value }
  | '\x08' => return { a with help := true }
  | 'i' | 'y' => return { a with caseless := true }
  | '\x0f' => return { a with caseless := false }
  | 'T' => return { a with aligned := true }
  | '\x10' => return { a with label := some value }
  | 'n' => return { a with numbers := true }
  | 'x' => return { a with whole := true }
  | 'm' =>
    match number? value with
    | some (.ofNat n) => return { a with most := some n }
    | some _ => return { a with most := none }
    | none => c.refuse "invalid max count" 2
  | 'h' => return { a with named := some false }
  | 'H' => return { a with named := some true }
  | '\x11' => return { a with separator := none }
  | 's' => return { a with silent := true }
  | 'Z' => return { a with zeroNames := true }
  | 'z' => return { a with zeros := true }
  | 'o' => return { a with only := true }
  | 'q' => return { a with quiet := true }
  | 'r' | 'R' => return { a with directories := .recurse }
  | 'v' => return { a with inverted := true }
  | 'a' => return { a with binaries := .asText }
  | 'I' => return { a with binaries := .skipped }
  | 'u' => do
    Tool.complain s!"{c.text}: warning: --unix-byte-offsets (-u) is obsolete\n"
    return { a with offsets := a.offsets }
  | 'V' => return { a with version := true }
  | 'w' => return { a with words := true }
  | 'b' => return { a with offsets := true }
  | letter =>
    if letter.isDigit then
      let digits := a.digits ++ [letter]
      return { a with digits, around := some (← lineCount c digits) }
    else return a

def asked (c : Caller) : List Item → Asked → Tool Asked
  | [], a => return { a with operands := a.operands.reverse }
  | .operand word :: rest, a => asked c rest { a with operands := word :: a.operands, digits := [] }
  | .option letter value :: rest, a => do asked c rest (← a.withOption c letter (value.getD []))
  | .problem text :: _, _ => do
    Tool.complain s!"{c.text}: {text}\n{c.usage}"
    throw 2

namespace Asked

/-- The first operand is the pattern unless there is another one. -/
def completed (c : Caller) (a : Asked) : Tool Asked := do
  match a.patterns, a.operands with
  | some [], _ =>
    return { a with patterns := some [⟨[], none⟩], inverted := !a.inverted, words := false, whole := false }
  | some _, _ => return a
  | none, pattern :: operands =>
    return { a.addPatterns ((patternsIn pattern).map fun t => ⟨t, none⟩) with operands }
  | none, [] => do
    Tool.complain c.usage
    throw 2

def isVain (a : Asked) : Bool :=
  let everything := (a.patterns.getD []).map (·.text) = [[]] && !a.whole && !a.words
  (a.most = some 0 || (everything && a.inverted)) && a.listing ≠ .lacking

end Asked

end SyntaxSweep.Search
