import SyntaxSweep.Shell.State

namespace SyntaxSweep.Shell

/-- The options with the letters under which they are kept; the last two cannot be named by them. -/
def optionNames : List (String × Char) :=
  [("errexit", 'e'), ("noglob", 'f'), ("ignoreeof", 'I'), ("interactive", 'i'), ("monitor", 'm'),
    ("noexec", 'n'), ("stdin", 's'), ("xtrace", 'x'), ("verbose", 'v'), ("vi", 'V'), ("emacs", 'E'),
    ("noclobber", 'C'), ("allexport", 'a'), ("notify", 'b'), ("nounset", 'u'), ("privileged", 'p'),
    ("nolog", '1'), ("debug", '2')]

def optionLetters : List Char :=
  ((optionNames.map (·.2)).filter Char.isAlpha).reverse

def turnOption (letter : Char) (on : Bool) : Run Unit :=
  modify fun s =>
    let others := s.options.filter (· ≠ letter)
    if !on then { s with options := others }
    else
      let rival := if letter = 'V' then some 'E' else if letter = 'E' then some 'V' else none
      { s with options := letter :: others.filter fun c => some c ≠ rival }

def turnNamed (name : Option Octets) (on : Bool) : Run Unit := do
  let s ← get
  match name with
  | none =>
    if on then
      printText "Current option settings\n"
      for (name, letter) in optionNames do
        let gap := String.ofList (List.replicate (16 - name.length) ' ')
        let state := if s.has letter then "on" else "off"
        printText s!"{name}{gap}{state}\n"
    else
      for (name, letter) in optionNames do
        let sign := if s.has letter then "-o" else "+o"
        printText s!"set {sign} {name}\n"
  | some word =>
    match optionNames.find? (·.1.toList = word) with
    | some (_, letter) => turnOption letter on
    | none => refuse s!"Illegal option -o {shown word}"

structure Asked where
  -- The first word after the options is a script.
  command : Bool := false
  -- A mark ends the options, with nothing behind it.
  emptied : Bool := false
  rest : List Octets

def turnLetters (starting on : Bool) : Octets → Asked → Run Asked
  | [], a => return a
  | c :: more, a => do
    if c = 'c' ∧ starting then turnLetters starting on more { a with command := true }
    else if c = 'l' ∧ starting then turnLetters starting on more a
    else if c = 'o' then
      turnNamed a.rest.head? on
      turnLetters starting on more { a with rest := a.rest.tail }
    else if optionLetters.contains c then
      turnOption c on
      turnLetters starting on more a
    else refuse s!"Illegal option -{Octets.text [c]}"

def turnOptions (starting : Bool) : Nat → Asked → Run Asked
  | 0, a => return a
  | fuel + 1, a => do
    match a.rest with
    | ['-'] :: rest =>
      if !starting then
        turnOption 'x' false
        turnOption 'v' false
      return { a with rest }
    | ['-', '-'] :: rest => return { a with rest, emptied := !starting && rest.isEmpty }
    | ('-' :: letters) :: rest =>
      turnOptions starting fuel (← turnLetters starting true letters { a with rest })
    | ('+' :: letters) :: rest =>
      turnOptions starting fuel (← turnLetters starting false letters { a with rest })
    | _ => return a

def checkControl : Run Unit := do
  if (← get).has 'm' then
    complain "can't access tty; job control turned off"
    turnOption 'm' false

/-- The options at the front of a builtin's arguments, each with its value, and the other arguments.
`letters` says which options there are, and whether they have a value. -/
def takeOptions (letters : List (Char × Bool)) :
    Nat → Octets → List Octets → Run (List (Char × Octets) × List Octets)
  | 0, _, words => return ([], words)
  | fuel + 1, [], words => do
    match words with
    | ['-', '-'] :: rest => return ([], rest)
    | ('-' :: c :: more) :: rest => takeOptions letters fuel (c :: more) rest
    | _ => return ([], words)
  | fuel + 1, c :: more, words => do
    match letters.lookup c, more, words with
    | none, _, _ => refuse s!"Illegal option -{Octets.text [c]}"
    | some false, more, words =>
      let (found, rest) ← takeOptions letters fuel more words
      return ((c, []) :: found, rest)
    | some true, [], [] => refuse s!"No arg for -{Octets.text [c]} option"
    | some true, [], value :: words =>
      let (found, rest) ← takeOptions letters fuel [] words
      return ((c, value) :: found, rest)
    | some true, value, words =>
      let (found, rest) ← takeOptions letters fuel [] words
      return ((c, value) :: found, rest)

def flags (letters : String) (words : List Octets) : Run (List Char × List Octets) := do
  let size := words.foldl (fun n w => n + w.length) words.length
  let (found, rest) ← takeOptions (letters.toList.map (·, false)) (size + 1) [] words
  return (found.map (·.1), rest)

/-- The arguments after the options of a builtin that has none. -/
def operands (words : List Octets) : Run (List Octets) := do
  return (← flags "" words).2

end SyntaxSweep.Shell
