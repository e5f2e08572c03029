import SyntaxSweep.Shell.Commands
import SyntaxSweep.Shell.Expansion
import SyntaxSweep.Shell.Testing
import SyntaxSweep.Text.Formatted

namespace SyntaxSweep.Shell

/-- Prints words with blanks between them. Backslashes are carried out, and one of them may end all. -/
def echoBuiltin (arguments : List Octets) : Run Nat := do
  let (bare, words) := match arguments with
    | ['-', 'n'] :: rest => (true, rest)
    | words => (false, words)
  go bare words
  return 0
where
  go (bare : Bool) : List Octets → Run Unit
    | [] => if bare then pure () else print ['\n']
    | w :: rest => do
      let (text, ended) := Formatted.unescape w
      print text
      if ended then return
      if rest ≠ [] then print [' ']
      go bare rest

def printfBuiltin (arguments : List Octets) : Run Nat := do
  match ← operands arguments with
  | [] => refuse "usage: printf format [arg ...]"
  | format :: words =>
    let p := Formatted.fill format words
    for problem in p.problems do
      complain problem
    match p.failure with
    | some why => refuse why
    | none =>
      print p.text
      return if p.problems.isEmpty then 0 else 1

/-- A line as far as it has been read. A character after a backslash stands for itself, and divides
nothing. -/
structure Entry where
  worked : Worked := {}
  -- Where what may be divided begins.
  first : Nat := 0
  escaped : Bool := false
  ended : Bool := false

namespace Entry

def closed (e : Entry) : Entry :=
  { e with worked := e.worked.divisible e.first false, first := e.worked.size }

def push (raw : Bool) (e : Entry) (c : Char) : Entry :=
  if e.escaped then
    let worked := if c = '\n' then e.worked else e.worked.push (.literal c)
    { e with worked, first := worked.size, escaped := false }
  else if c = '\\' && !raw then { e.closed with escaped := true }
  else if c = '\n' then { e with ended := true }
  else { e with worked := e.worked.push (.plain c) }

end Entry

def readEntry (raw : Bool) : Nat → Entry → Run Entry
  | 0, e => return e
  | fuel + 1, e => do
    match ← Act.ask (.readLine 0) with
    | .error _ | .ok [] => return e
    | .ok octets =>
      let e := (octets.filter (· ≠ '\x00')).foldl (Entry.push raw) e
      if e.ended then return e else readEntry raw fuel e

def assignFields : List Octets → List Octets → Run Unit
  | [], _ => pure ()
  | name :: names, fields => do
    assign name (fields.headD []) false
    assignFields names fields.tail

def readBuiltin (arguments : List Octets) : Run Nat := do
  let size := arguments.foldl (fun n w => n + w.length) arguments.length
  let (letters, names) ← takeOptions [('p', true), ('r', false)] (size + 1) [] arguments
  if names = [] then refuse "arg count"
  let e ← readEntry (letters.any (·.1 = 'r')) plenty {}
  let fields := fieldsOf e.closed.worked (← get).dividers (some names.length)
  assignFields names (fields.map Cell.text)
  return if e.ended then 0 else 1

/-- The path that a directory's name leads to, as it is spelled: steps up take back steps down. -/
def spelledPath (here name : Octets) : Octets :=
  let (root, start, steps) : Octets × List Octets × Octets :=
    match name with
    | '/' :: '/' :: c :: rest =>
      if c = '/' then (['/'], [], name) else (['/', '/'], [], c :: rest)
    | ['/', '/'] => (['/', '/'], [], [])
    | '/' :: rest => (['/'], [], rest)
    | name =>
      match here with
      | '/' :: '/' :: rest => (['/', '/'], rest.splitOn '/', name)
      | here => (['/'], here.splitOn '/', name)
  let walked := (start ++ steps.splitOn '/').foldl (fun done step =>
    if step = [] ∨ step = ['.'] then done
    else if step = ['.', '.'] then done.tail
    else step :: done) []
  root ++ joined '/' walked.reverse

/-- Goes to a directory; the answer says whether it is there. -/
def goTo (name : Octets) (physical : Bool) : Run Bool := do
  let s ← get
  let path := if physical then name else spelledPath s.here name
  match ← Act.ask (.enter path) with
  | .error _ => return false
  | .ok () =>
    let here : Octets ← if physical then Act.ask .here else pure path
    assign "OLDPWD".toList s.here true
    modify fun s => { s with here }
    assign "PWD".toList here true
    return true

def isPhysical (letters : List Char) : Bool :=
  letters.getLast? = some 'P'

def cdBuiltin (arguments : List Octets) : Run Nat := do
  let (letters, words) ← flags "LP" arguments
  let s ← get
  let (name, shows) : Octets × Bool := match words with
    | [] => ((s.value? "HOME".toList).getD [], false)
    | ['-'] :: _ => ((s.value? "OLDPWD".toList).getD [], true)
    | w :: _ => (w, false)
  let told (shows : Bool) : Run Nat := do
    if shows then print ((← get).here ++ ['\n'])
    return 0
  let physical := isPhysical letters
  let first := (name.splitOn '/').headD []
  if name.head? = some '/' ∨ first = ['.'] ∨ first = ['.', '.'] then
    if ← goTo name physical then return (← told shows)
  else
    let name := if name = [] then ['.'] else name
    for d in directoriesIn ((s.value? "CDPATH".toList).getD []) do
      let path := pathIn d name
      match ← Act.ask (.info path true) with
      | .ok i =>
        if i.kind = .directory then
          if ← goTo path physical then return (← told (shows || d ≠ []))
          else refuse s!"can't cd to {shown name}"
      | .error _ => pure ()
    if ← goTo name physical then return (← told shows)
  refuse s!"can't cd to {shown name}"

def pwdBuiltin (arguments : List Octets) : Run Nat := do
  let (letters, _) ← flags "LP" arguments
  let here : Octets ← if isPhysical letters then Act.ask .here else pure (← get).here
  print (here ++ ['\n'])
  return 0

def showVariables (lead : Octets) (isMeant : Binding → Bool) : Run Unit := do
  let meant := ((← get).bindings.filter fun v => isMeant v.2).mergeSort fun a b => a.1.notAfter b.1
  for (name, b) in meant do
    let value := match b.value with
      | some value => '=' :: quoted value
      | none => []
    print ((if lead = [] then [] else lead ++ [' ']) ++ name ++ value ++ ['\n'])

def markVariables (mark : Binding → Binding) : List Octets → Run Unit
  | [] => pure ()
  | w :: rest => do
    let (name, value) := assignmentIn w
    match value with
    | some value => assign name value false
    | none => if !isName name then refuse s!"{shown name}: bad variable name"
    modify fun s =>
      let b := (s.bindings.lookup name).getD ⟨none, false, false⟩
      { s with bindings := State.put name (mark b) s.bindings }
    markVariables mark rest

def exportBuiltin (name : Octets) (arguments : List Octets) : Run Nat := do
  let (letters, words) ← flags "p" arguments
  let fixing := name.head? = some 'r'
  if letters ≠ [] ∨ words = [] then
    showVariables name fun b => if fixing then b.fixed else b.exported
  else
    markVariables (fun b => if fixing then { b with fixed := true } else { b with exported := true }) words
  return 0

def localBuiltin (arguments : List Octets) : Run Nat := do
  if (← get).covered.isEmpty then refuse "not in a function"
  for w in arguments do
    cover w false
  return 0

def unsetBuiltin (arguments : List Octets) : Run Nat := do
  let (letters, words) ← flags "vf" arguments
  for w in words do
    if letters.getLast? = some 'f' then
      modify fun s => { s with functions := State.without w s.functions }
    else unassign w
  return 0

def setArguments (words : List Octets) : Run Unit :=
  modify fun s => { s with arguments := words, optionPlace := 1, optionLetter := none }

def setBuiltin (arguments : List Octets) : Run Nat := do
  if arguments = [] then
    showVariables [] fun b => b.value.isSome
    return 0
  let a ← turnOptions false (arguments.length + 1) { rest := arguments }
  checkControl
  if a.rest ≠ [] ∨ a.emptied then setArguments a.rest
  return 0

def shiftBuiltin (arguments : List Octets) : Run Nat := do
  let n ← match arguments with
    | [] => pure 1
    | w :: _ => number w
  let s ← get
  if s.arguments.length < n then refuse "can't shift that many"
  setArguments (s.arguments.drop n)
  return 0

def maskText (mask : Nat) : String :=
  let letters (n : Nat) : String :=
    String.ofList ([('r', 4), ('w', 2), ('x', 1)].filterMap fun (c, bit) =>
      if n / bit % 2 = 0 then some c else none)
  s!"u={letters (mask / 64 % 8)},g={letters (mask / 8 % 8)},o={letters (mask % 8)}\n"

def changedMask (mask : Nat) (clauses : Octets) : Nat :=
  (clauses.splitOn ',').foldl (fun mask clause =>
    let who := clause.takeWhile fun c => ['u', 'g', 'o', 'a'].contains c
    match clause.drop who.length with
    | sign :: letters =>
      let bits := [('r', 4), ('w', 2), ('x', 1)].foldl (fun n (c, bit) =>
        if letters.contains c then n + bit else n) 0
      let places := [('u', 64), ('g', 8), ('o', 1)].filter fun (c, _) =>
        who = [] || who.contains 'a' || who.contains c
      places.foldl (fun mask (_, place) =>
        let old := 7 - mask / place % 8
        let new := match sign with
          | '+' => old ||| bits
          | '-' => old &&& (7 - bits)
          | _ => bits
        mask - (mask / place % 8) * place + (7 - new) * place) mask
    | [] => mask) mask

def umaskBuiltin (arguments : List Octets) : Run Nat := do
  let (letters, words) ← flags "S" arguments
  let mask := (← get).mask
  match words with
  | [] =>
    if letters ≠ [] then printText (maskText mask)
    else
      let digits := Nat.toDigits 8 mask
      print (List.replicate (4 - digits.length) '0' ++ digits ++ ['\n'])
  | w :: _ =>
    let mask ←
      if (w.head?.map Char.isDigit).getD false then
        if !w.all Formatted.isOctal then badNumber w
        pure (Formatted.numeral 8 w % 512)
      else pure (changedMask mask w)
    modify fun s => { s with mask }
  return 0

def ulimitBuiltin (arguments : List Octets) : Run Nat := do
  let (_, words) ← flags "HSatfdscmlpnvwr" arguments
  if words = [] then printText "unlimited\n"
  return 0

def aliasBuiltin (arguments : List Octets) : Run Nat := do
  if arguments = [] then
    for (name, meaning) in State.byRows 39 (← get).aliases do
      showAlias name meaning
  let mut status := 0
  for w in arguments do
    let name := w.take 1 ++ (w.drop 1).takeWhile (· ≠ '=')
    if name.length < w.length then
      modify fun s => { s with aliases := State.put name (w.drop (name.length + 1)) s.aliases }
    else
      match (← get).aliases.lookup w with
      | some meaning => showAlias w meaning
      | none =>
        sendText 2 s!"alias: {shown w} not found\n"
        status := 1
  return status

def unaliasBuiltin (arguments : List Octets) : Run Nat := do
  let (letters, words) ← flags "a" arguments
  if letters ≠ [] then
    modify fun s => { s with aliases := [] }
    return 0
  let mut status := 0
  for w in words do
    if ((← get).aliases.lookup w).isSome then
      modify fun s => { s with aliases := State.without w s.aliases }
    else
      sendText 2 s!"unalias: {shown w} not found\n"
      status := 1
  return status

/-- The next option among words: the letter with what it is found to be, its value, and where the next
one stands. -/
def nextOption (words : List Octets) (place : Nat) (letter : Option Nat) :
    Option (Char × Octets) × Nat × Option Nat :=
  let inside := match letter with
    | some n => ((words[place - 2]?).getD []).drop n
    | none => []
  let word := (words[place - 1]?).getD []
  let start : Option Octets × Nat :=
    if place > 1 ∧ inside ≠ [] then (some inside, place)
    else
      match word with
      | ['-', '-'] => (none, place + 1)
      | '-' :: c :: more => (some (c :: more), place + 1)
      | _ => (none, place)
  match start with
  | (none, place) | (some [], place) => (none, place, none)
  | (some (c :: more), place) =>
    let offset := ((words[place - 2]?).getD []).length - more.length
    (some (c, more), place, some offset)

def getoptsBuiltin (arguments : List Octets) : Run Nat := do
  match ← operands arguments with
  | spec :: name :: given =>
    let s ← get
    let words := if given = [] then s.arguments else given
    let (place, letter) :=
      if words.length + 1 < s.optionPlace then (1, none) else (s.optionPlace, s.optionLetter)
    let (found, place, letter) := nextOption words place letter
    let silent := spec.head? = some ':'
    let optarg := "OPTARG".toList
    let finish (c : Char) (place : Nat) (letter : Option Nat) (status : Nat) : Run Nat := do
      assign "OPTIND".toList (Octets.ofNat place) false
      modify fun s => { s with optionPlace := place, optionLetter := letter }
      assign name [c] false
      return status
    match found with
    | none => finish '?' place none 1
    | some (c, more) =>
      match known spec c with
      | none =>
        if silent then assign optarg [c] false
        else
          sendText 2 s!"Illegal option -{Octets.text [c]}\n"
          unassign optarg
        finish '?' place letter 0
      | some false =>
        assign optarg [] false
        finish c place letter 0
      | some true =>
        match if more = [] then words[place - 1]? else some more with
        | none =>
          if silent then
            assign optarg [c] false
            finish ':' place none 0
          else
            sendText 2 s!"No arg for -{Octets.text [c]} option\n"
            unassign optarg
            finish '?' place none 0
        | some value =>
          assign optarg value false
          finish c (if more = [] then place + 1 else place) none 0
  | _ => refuse "Usage: getopts optstring var [arg...]"
where
  known : Octets → Char → Option Bool
    | [], _ => none
    | d :: ':' :: rest, c => if d = c then some true else known rest c
    | d :: rest, c => if d = c then some false else known rest c

def breakBuiltin (name : Octets) (arguments : List Octets) : Run Nat := do
  let n ← match arguments with
    | [] => pure 1
    | w :: _ => do
      let n ← number w
      if n = 0 then badNumber w
      pure n
  let s ← get
  let n := min n s.loops
  if 0 < n then set { s with skip := if name.head? = some 'c' then .round else .loops, skips := n }
  return 0

def returnBuiltin (arguments : List Octets) : Run Nat := do
  match arguments with
  | [] =>
    modify fun s => { s with skip := .functionAsIs }
    return (← get).status
  | w :: _ =>
    let n ← number w
    modify fun s => { s with skip := .function }
    return n

/-- Leaves the script with a status. While a signal is heeded, that is the one from before. -/
def exitBuiltin (arguments : List Octets) : Run Nat := do
  match arguments with
  | [] => modify fun s => { s with status := s.held.getD s.status }
  | w :: _ =>
    let n ← number w
    modify fun s => { s with status := n, held := s.held.map fun _ => n }
  throw .over

def builtin? (name : Octets) : Option (List Octets → Run Nat) :=
  match String.ofList name with
  | "echo" => some echoBuiltin
  | "printf" => some printfBuiltin
  | "test" | "[" => some (testBuiltin name)
  | "true" | ":" => some fun _ => return 0
  | "false" => some fun _ => return 1
  | "read" => some readBuiltin
  | "cd" | "chdir" => some cdBuiltin
  | "pwd" => some pwdBuiltin
  | "export" | "readonly" => some (exportBuiltin name)
  | "local" => some localBuiltin
  | "unset" => some unsetBuiltin
  | "set" => some setBuiltin
  | "shift" => some shiftBuiltin
  | "umask" => some umaskBuiltin
  | "ulimit" => some ulimitBuiltin
  | "times" => some fun _ => do
    printText "0m0.000000s 0m0.000000s\n0m0.000000s 0m0.000000s\n"
    return 0
  | "alias" => some aliasBuiltin
  | "unalias" => some unaliasBuiltin
  | "getopts" => some getoptsBuiltin
  | "break" | "continue" => some (breakBuiltin name)
  | "return" => some returnBuiltin
  | "exit" => some exitBuiltin
  | "type" => some typeBuiltin
  | "command" => some commandBuiltin
  | "hash" => some hashBuiltin
  | "jobs" => some jobsBuiltin
  | "wait" => some waitBuiltin
  | "kill" => some killBuiltin
  | "trap" => some trapBuiltin
  | "fg" | "bg" => some moveBuiltin
  | _ => none

end SyntaxSweep.Shell
