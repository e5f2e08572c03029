import SyntaxSweep.Shell.Commands
import SyntaxSweep.Text.Formatted
import SyntaxSweep.Tools.Basic

namespace SyntaxSweep.Small

def printed (program : Octets) (octets : Octets) (code : Nat) : Tool Nat := do
  match ← Tool.send 1 octets with
  | .ok () => return code
  | .error e =>
    Tool.complain s!"{Octets.text program}: write error: {e.text}\n"
    return 1

/-- Text with backslashes that are carried out, and whether one of them ended it. -/
def unescaped : Nat → Octets → Octets → Octets × Bool
  | 0, _, done => (done.reverse, false)
  | fuel + 1, s, done =>
    let number (base most : Nat) (isPart : Char → Bool) (r : Octets) : Char × Octets :=
      let digits := (r.take most).takeWhile isPart
      let value (c : Char) : Nat :=
        if c.isDigit then c.toNat - '0'.toNat else c.toLower.toNat - 'a'.toNat + 10
      (Char.ofNat (digits.foldl (fun n c => n * base + value c) 0 % 256), r.drop digits.length)
    let isOctal (c : Char) : Bool := '0' ≤ c && c ≤ '7'
    let isHex (c : Char) : Bool := c.isDigit || ('a' ≤ c.toLower && c.toLower ≤ 'f')
    match s with
    | [] => (done.reverse, false)
    | '\\' :: 'c' :: _ => (done.reverse, true)
    | '\\' :: '0' :: r =>
      let (c, r) := number 8 3 isOctal r
      unescaped fuel r (c :: done)
    | '\\' :: 'x' :: d :: r =>
      if isHex d then
        let (c, r) := number 16 2 isHex (d :: r)
        unescaped fuel r (c :: done)
      else unescaped fuel (d :: r) ('x' :: '\\' :: done)
    | '\\' :: c :: r =>
      let known : List (Char × Char) :=
        [('a', '\x07'), ('b', '\x08'), ('e', '\x1b'), ('f', '\x0c'), ('n', '\n'), ('r', '\r'),
          ('t', '\t'), ('v', '\x0b'), ('\\', '\\')]
      match known.lookup c with
      | some d => unescaped fuel r (d :: done)
      | none =>
        if isOctal c then
          let (d, r) := number 8 3 isOctal (c :: r)
          unescaped fuel r (d :: done)
        else unescaped fuel r (c :: '\\' :: done)
    | c :: r => unescaped fuel r (c :: done)

def echo (arguments : List Octets) : Tool Nat := do
  let isOption (w : Octets) : Bool :=
    match w with
    | '-' :: c :: letters => (c :: letters).all ['n', 'e', 'E'].contains
    | _ => false
  let words := arguments.drop 1
  let letters := (words.takeWhile isOption).flatMap (·.drop 1)
  let text := joined ' ' (words.dropWhile isOption)
  let escapes := (letters.filter (· ≠ 'n')).getLast? = some 'e'
  let (text, ended) := if escapes then unescaped (text.length + 1) text [] else (text, false)
  printed (arguments.headD []) (text ++ if letters.contains 'n' || ended then [] else ['\n']) 0

def printf (arguments : List Octets) : Tool Nat := do
  let program := Octets.text (arguments.headD [])
  match arguments.drop 1 with
  | [] =>
    Tool.complain s!"{program}: missing operand\nTry '{program} --help' for more information.\n"
    return 1
  | format :: words =>
    let p := Formatted.fill format words
    for problem in p.problems do
      Tool.complain s!"{program}: {problem}\n"
    printed (arguments.headD []) p.text (if p.problems.isEmpty then 0 else 1)

def pwd (arguments : List Octets) : Tool Nat := do
  let here : Octets ← Act.ask .here
  printed (arguments.headD []) (here ++ ['\n']) 0

def git (arguments : List Octets) : Tool Nat := do
  let (stdout, stderr, code) : Octets × Octets × Nat ← Act.ask (.askGit (arguments.drop 1))
  let _ ← Tool.send 1 stdout
  let _ ← Tool.send 2 stderr
  return code

def start (arguments : List Octets) (bindings : List (Octets × Octets)) :
    List Octets → IoProblem → Tool IoProblem
  | [], problem => return problem
  | directory :: rest, problem => do
    let path := Shell.pathIn directory (arguments.headD [])
    let why : IoProblem ← Act.ask (.launch path arguments bindings)
    start arguments bindings rest (if why = .accessDenied then why else problem)

/-- Starts a program among the given bindings, some of which are changed or removed before. -/
def env (arguments : List Octets) (bindings : List (Octets × Octets)) : Tool Nat := do
  let program := Octets.text (arguments.headD [])
  let flags : List Flag :=
    [⟨'i', ["ignore-environment"], .nothing⟩, ⟨'u', ["unset"], .value⟩, ⟨'S', ["split-string"], .value⟩,
      ⟨'0', ["null"], .nothing⟩]
  let split (items : List Item) : List Item :=
    items.flatMap fun
      | .option 'S' (some text) =>
        itemsOf flags true ((text.splitOn ' ').filter (· ≠ []))
      | item => [item]
  let items := split (itemsOf flags true (arguments.drop 1))
  let mut bindings := bindings
  let mut words : List Octets := []
  for item in items do
    match item with
    | .problem text =>
      Tool.complain s!"{program}: {text}\nTry '{program} --help' for more information.\n"
      throw 125
    | .option 'i' _ => bindings := []
    | .option 'u' name => bindings := bindings.filter (·.1 ≠ name.getD [])
    | .option _ _ => pure ()
    | .operand word => words := words ++ [word]
  if words.head? = some ['-'] then
    bindings := []
    words := words.drop 1
  let given := words.takeWhile (·.contains '=')
  for word in given do
    let name := word.takeWhile (· ≠ '=')
    bindings := bindings.filter (·.1 ≠ name) ++ [(name, word.drop (name.length + 1))]
  match words.drop given.length with
  | [] => printed (arguments.headD []) (bindings.flatMap fun (n, v) => n ++ '=' :: v ++ ['\n']) 0
  | name :: rest =>
    let problem : IoProblem ←
      if name.contains '/' then Act.ask (.launch name (name :: rest) bindings)
      else
        start (name :: rest) bindings
          (Shell.directoriesIn ((bindings.lookup "PATH".toList).getD "/bin:/usr/bin".toList)) .noEntry
    Tool.complain s!"{program}: '{Octets.text name}': {problem.text}\n"
    return if problem = .noEntry then 127 else 126

end SyntaxSweep.Small
