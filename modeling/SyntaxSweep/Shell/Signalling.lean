import SyntaxSweep.Shell.Jobs

namespace SyntaxSweep.Shell

/-- Octets in single quotes, so that they are read again as they are. -/
def quotedText : Nat → Octets → Octets
  | 0, _ => []
  | fuel + 1, octets =>
    let plain := octets.takeWhile (· ≠ '\x27')
    let rest := octets.drop plain.length
    let quotes := rest.takeWhile (· = '\x27')
    let rest := rest.drop quotes.length
    ('\x27' :: plain) ++ ['\x27'] ++
      (if quotes = [] then [] else ('"' :: quotes) ++ ['"']) ++
      (if rest = [] then [] else quotedText fuel rest)

def quoted (octets : Octets) : Octets :=
  quotedText (octets.length + 1) octets

def killUsage : String :=
  "Usage: kill [-s sigspec | -signum | -sigspec] [pid | job]... or\nkill -l [exitstatus]"

def listSignals (words : List Octets) : Run Nat := do
  match words with
  | [] =>
    printText "0\n"
    for n in List.range Signals.count do
      printText (Signals.name (n + 1) ++ "\n")
    return 0
  | w :: _ =>
    let n ← number w
    let n := if 128 < n then n - 128 else n
    if 0 < n ∧ n ≤ Signals.count then
      printText (Signals.name n ++ "\n")
      return 0
    refuse s!"invalid signal number or exit status: {shown w}"

def sendTo (signal : Nat) : List Octets → Nat → Run Nat
  | [], status => return status
  | w :: rest, status => do
    let target ← match w with
      | '%' :: _ => do
        let _ ← jobNamed w
        pure none
      | '-' :: digits => do
        let _ ← number digits
        pure none
      | _ => do pure (some (← number w))
    let answer : Except IoProblem Unit ← match target with
      | some n => Act.ask (.signal n signal)
      | none => pure (.error .noProcess)
    match answer with
    | .ok () => sendTo signal rest status
    | .error e =>
      complain (e.text ++ "\n")
      sendTo signal rest 1

def killBuiltin (arguments : List Octets) : Run Nat := do
  let first := arguments.headD []
  if arguments = [] then refuse killUsage
  let direct := if first.head? = some '-' then Signals.ofOctets? 1 first.tail else none
  let (signal, listing, words) ←
    match direct with
    | some n => pure (some n, false, arguments.tail)
    | none =>
      if first.head? ≠ some '-' then pure (none, false, arguments)
      else do
        let size := arguments.foldl (fun n w => n + w.length) arguments.length
        let (letters, words) ← takeOptions [('l', false), ('s', true)] (size + 1) [] arguments
        let mut signal := none
        for (letter, value) in letters do
          if letter = 's' then
            signal := Signals.ofOctets? 1 value
            if signal.isNone then refuse s!"invalid signal number or name: {shown value}"
        pure (signal, letters.any (·.1 = 'l'), words)
  if listing then
    if signal.isSome then refuse killUsage
    listSignals words
  else if words = [] then refuse killUsage
  else sendTo (signal.getD 15) words 0

def setDisposition (signal : Nat) (d : Disposition) : Run Unit := do
  let s ← get
  if !s.deaf.contains signal then
    let before : Disposition ← Act.ask (.onSignal signal d)
    if !s.touched.contains signal ∧ before = Disposition.ignored then
      let _ ← Act.ask (.onSignal signal .ignored)
      modify fun s => { s with deaf := signal :: s.deaf }
    else modify fun s => { s with touched := signal :: s.touched.filter (· ≠ signal) }

def setTrap (signal : Nat) (action : Option Octets) : Run Unit := do
  modify fun s =>
    let others := s.traps.filter (·.1 ≠ signal)
    { s with traps := match action with
      | some action => (signal, action) :: others
      | none => others }
  if signal ≠ 0 then
    setDisposition signal (match action with
      | none => .default
      | some [] => .ignored
      | some _ => .caught)

def setTraps (action : Option Octets) : List Octets → Run Nat
  | [] => return 0
  | w :: rest => do
    match Signals.ofOctets? 0 w with
    | some signal =>
      setTrap signal action
      setTraps action rest
    | none =>
      sendText 2 s!"trap: {shown w}: bad trap\n"
      return 1

def trapBuiltin (arguments : List Octets) : Run Nat := do
  match ← operands arguments with
  | [] =>
    let traps := (← get).traps.mergeSort fun a b => decide (a.1 ≤ b.1)
    for (signal, action) in traps do
      printText "trap -- "
      print (quoted action)
      printText s!" {Signals.name signal}\n"
    return 0
  | [w] => setTraps none [w]
  | first :: rest =>
    if first ≠ [] ∧ first.all Char.isDigit ∧ (Signals.ofOctets? 0 first).isSome then
      setTraps none (first :: rest)
    else setTraps (if first = ['-'] then none else some first) rest

/-- A new process hears signals as its parent's programs would: nothing is done for them. -/
def forgetTraps : Run Unit := do
  let s ← get
  for (signal, action) in s.traps do
    if action ≠ [] ∧ signal ≠ 0 ∧ !s.deaf.contains signal then
      let _ ← Act.ask (.onSignal signal .default)
  modify fun s => { s with traps := s.traps.filter (·.2 = []), signals := [] }

/-- There is something to be done before the script ends or when a signal comes in. -/
def State.hasTraps (s : State) : Bool :=
  s.traps.any (·.2 ≠ [])

end SyntaxSweep.Shell
