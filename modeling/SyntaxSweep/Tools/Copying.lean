import SyntaxSweep.Tools.Basic

namespace SyntaxSweep.Copying

structure Show where
  numbers : Bool := false
  numbersOfFilled : Bool := false
  ends : Bool := false
  tabs : Bool := false
  unseen : Bool := false
  squeezed : Bool := false
  deriving DecidableEq, Repr

def flags : List Flag :=
  [⟨'b', ["number-nonblank"], .nothing⟩, ⟨'n', ["number"], .nothing⟩,
    ⟨'s', ["squeeze-blank"], .nothing⟩, ⟨'v', ["show-nonprinting"], .nothing⟩,
    ⟨'E', ["show-ends"], .nothing⟩, ⟨'T', ["show-tabs"], .nothing⟩, ⟨'A', ["show-all"], .nothing⟩,
    ⟨'e', [], .nothing⟩, ⟨'t', [], .nothing⟩, ⟨'u', [], .nothing⟩]

namespace Show

def withLetter (s : Show) (letter : Char) : Show :=
  match letter with
  | 'A' => { s with unseen := true, ends := true, tabs := true }
  | 'b' => { s with numbers := true, numbersOfFilled := true }
  | 'e' => { s with unseen := true, ends := true }
  | 'E' => { s with ends := true }
  | 'n' => { s with numbers := true }
  | 's' => { s with squeezed := true }
  | 't' => { s with unseen := true, tabs := true }
  | 'T' => { s with tabs := true }
  | 'v' => { s with unseen := true }
  | _ => s

def isPlain (s : Show) : Bool :=
  s = {}

def char (s : Show) (c : Char) : Octets :=
  if c = '\t' then (if s.tabs then ['^', 'I'] else ['\t'])
  else if !s.unseen then [c]
  else
    let low (c : Char) : Octets :=
      if c.toNat < 32 then ['^', Char.ofNat (c.toNat + 64)]
      else if c.toNat = 127 then ['^', '?']
      else [c]
    if c.toNat < 128 then low c else 'M' :: '-' :: low (Char.ofNat (c.toNat - 128))

end Show

structure Progress where
  line : Nat := 0
  -- How many line ends have come last.
  ends : Nat := 1

/-- The octets shown, the last piece first, with the progress after them. -/
def shown (s : Show) : Octets → Progress → List Octets → List Octets × Progress
  | [], p, out => (out, p)
  | c :: rest, p, out =>
    if c = '\n' then
      let p := { p with ends := p.ends + 1 }
      if s.squeezed ∧ 2 < p.ends then shown s rest p out
      else
        let counted := s.numbers ∧ !s.numbersOfFilled ∧ 1 < p.ends
        let p := if counted then { p with line := p.line + 1 } else p
        let number := if counted then numberText p.line else []
        let isEnd := if s.ends then ['$', '\n'] else ['\n']
        shown s rest p (isEnd :: number :: out)
    else
      let starts := s.numbers ∧ 0 < p.ends
      let p := if starts then { p with line := p.line + 1 } else p
      let number := if starts then numberText p.line else []
      let carriage := c = '\r' ∧ s.ends ∧ !s.unseen ∧ rest.head? = some '\n'
      let text := if carriage then ['^', 'M'] else s.char c
      shown s rest { p with ends := 0 } (text :: number :: out)
where
  numberText (n : Nat) : Octets :=
    let digits := Octets.ofNat n
    List.replicate (6 - digits.length) ' ' ++ digits ++ ['\t']

/-- Copies a stream to the output; the answer is the progress and what has gone wrong. -/
def copyStream (s : Show) (stream : Nat) :
    Nat → Progress → Tool (Progress × Option IoProblem × Option IoProblem)
  | 0, p => return (p, none, none)
  | fuel + 1, p => do
    match ← Act.ask (.read stream 131072) with
    | .error e => return (p, some e, none)
    | .ok [] => return (p, none, none)
    | .ok octets =>
      let (out, p) := if s.isPlain then ([octets], p) else shown s octets p []
      match ← Tool.send 1 out.reverse.flatten with
      | .ok () => copyStream s stream fuel p
      | .error e => return (p, none, some e)

def copyOpened (program : String) (s : Show) (output : FileInfo) (name : Octets) (stream : Nat)
    (p : Progress) : Tool (Progress × Bool) := do
  let failed (why : String) : Tool (Progress × Bool) := do
    Tool.complain s!"{program}: {Octets.text name}: {why}\n"
    return (p, false)
  match ← Act.ask (.streamInfo stream) with
  | .error e => failed e.text
  | .ok i =>
    if i.kind ≠ .pipe ∧ i.kind ≠ .device ∧ i.mark = output.mark ∧
      (output.appends ∨ i.position < output.position)
    then failed "input file is output file"
    else
      match ← copyStream s stream Tool.plenty p with
      | (p, none, none) => return (p, true)
      | (_, some e, _) => failed e.text
      | (_, none, some e) =>
        Tool.complain s!"{program}: write error: {e.text}\n"
        throw 1

/-- Copies the files of these names; the answer says whether all went well. -/
def copyAll (program : String) (s : Show) : List Octets → Progress → Bool → Tool Bool
  | [], _, well => return well
  | name :: rest, p, well => do
    let output ← match ← Act.ask (.streamInfo 1) with
      | .ok i => pure i
      | .error e =>
        Tool.complain s!"{program}: standard output: {e.text}\n"
        throw 1
    if name = ['-'] then
      let (p, ok) ← copyOpened program s output name 0 p
      copyAll program s rest p (well && ok)
    else
      match ← Act.ask (.openFile name .read) with
      | .error e =>
        Tool.complain s!"{program}: {Octets.text name}: {e.text}\n"
        copyAll program s rest p false
      | .ok stream =>
        let (p, ok) ← copyOpened program s output name stream p
        Act.ask (.close stream)
        copyAll program s rest p (well && ok)

def asked (program : String) : List Item → Show → List Octets → Tool (Show × List Octets)
  | [], s, names => return (s, names.reverse)
  | .operand name :: rest, s, names => asked program rest s (name :: names)
  | .option letter _ :: rest, s, names => asked program rest (s.withLetter letter) names
  | .problem text :: _, _, _ => do
    Tool.complain s!"{program}: {text}\nTry '{program} --help' for more information.\n"
    throw 1

def run (arguments : List Octets) : Tool Nat := do
  let program := Octets.text (arguments.headD "cat".toList)
  let (s, names) ← asked program (itemsOf flags false (arguments.drop 1)) {} []
  let names := if names = [] then [['-']] else names
  let well ← copyAll program s names {} true
  if names.contains ['-'] then
    match ← Act.ask (.streamInfo 0) with
    | .ok _ => pure ()
    | .error e =>
      Tool.complain s!"{program}: closing standard input: {e.text}\n"
      throw 1
  return if well then 0 else 1

end SyntaxSweep.Copying
