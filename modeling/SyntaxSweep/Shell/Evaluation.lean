import SyntaxSweep.Shell.Builtins
import SyntaxSweep.Shell.Redirecting

namespace SyntaxSweep.Shell

structure Manner where
  last : Bool := false
  -- Its status is looked at.
  tested : Bool := false
  deriving DecidableEq, Repr

def Manner.inside (m : Manner) : Manner :=
  { m with last := false }

def readCommand (r : Reader) : Run (Option Tree × Bool × Reader) := do
  let s ← get
  let noted (r : Reader) : Run Unit :=
    modify fun s => { s with documents := r.documents, reached := r.line }
  match Read.line.run { r with aliases := s.aliases, documents := s.documents } with
  | .ok (t, last) r => do
    noted r
    return (t, last, r)
  | .error problem r => do
    noted r
    modify fun s => { s with line := r.line }
    refuse s!"Syntax error: {problem.message}"

def Reader.left (r : Reader) : Octets :=
  match r.below.getLast? with
  | some b => b.ahead
  | none => r.ahead

def showRead (before after : Octets) : Run Unit := do
  let read := before.take (before.length - after.length)
  let more := if read = [] ∨ read.getLast? = some '\n' then [] else after.takeWhile (· ≠ '\n') ++ ['\n']
  send 2 (read ++ more.take after.length)

/-- Whether a loop has to be left, or its round, and what is passed over after that. -/
def passLoop : Run Skip :=
  modifyGet fun s =>
    match s.skip with
    | .loops | .round =>
      let n := s.skips - 1
      if n = 0 then (s.skip, { s with skip := .nothing, skips := 0 })
      else (.loops, { s with skips := n })
    | skip => (skip, s)

def goesOn (skip : Skip) : Bool :=
  skip == .nothing || skip == .round

/-- Goes on as the first of several programs that can be launched, or comes to its end. -/
def becomeFirst (arguments : List Octets) (searched : Bool) (environment : List (Octets × Octets)) :
    List Octets → IoProblem → Run IoProblem
  | [], problem => return problem
  | path :: rest, problem => do
    let e : IoProblem ← Act.ask (.launch path arguments environment)
    let e : IoProblem ←
      if e ≠ .notExecutable then pure e
      else
        let shell := "/bin/sh".toList
        Act.ask (.launch shell (shell :: path :: arguments.drop 1) environment)
    let missing := e = .noEntry ∨ e = .notDirectory
    becomeFirst arguments searched environment rest (if searched ∧ missing then problem else e)

def become (paths arguments : List Octets) : Run Unit := do
  let name := arguments.headD []
  let e ← becomeFirst arguments (!name.contains '/') (← get).exports paths .noEntry
  let isMissing := [IoProblem.noEntry, .notDirectory, .nameTooLong, .tooManyLinks].contains e
  complain s!"{shown name}: {runText e}"
  setStatus (if isMissing then 127 else 126)
  throw .over

/-- Prints what a builtin has said; the answer says whether that went well. -/
def flushPrinted : Run Bool := do
  let octets := (← get).printed.reverse.flatten
  modify fun s => { s with printed := [] }
  if octets = [] then return true
  match ← Act.ask (.write 1 octets) with
  | .ok () => return true
  | .error _ => return false

def readAll (stream : Nat) : Nat → List Octets → Run Octets
  | 0, before => return before.reverse.flatten
  | fuel + 1, before => do
    match ← Act.ask (.read stream 65536) with
    | .ok [] | .error _ => return before.reverse.flatten
    | .ok octets => readAll stream fuel (octets :: before)

def scriptText (path : Octets) : Run Octets := do
  let stream ← openFor path .read
  let text ← readAll stream plenty []
  Act.ask (.close stream)
  return text.filter (· ≠ '\x00')

def scriptIn (name : Octets) : List Octets → Run Octets
  | [] => refuse s!"{shown name}: not found"
  | d :: rest => do
    let path := pathIn d name
    match ← Act.ask (.info path true) with
    | .ok i => if i.kind = .regular then return path else scriptIn name rest
    | .error _ => scriptIn name rest

def runBuiltin (name : Octets) (body : Run Nat) : Run (Option Leave) := do
  let before := (← get).command
  modify fun s => { s with command := some name, printed := [] }
  let whole : Run (Option Leave) := do
    let status ← body
    let well ← flushPrinted
    if !well then complain s!"{shown name}: I/O error"
    setStatus (if well then status else status ||| 1)
    return none
  let left ← tryCatch whole fun e => pure (some e)
  modify fun s => { s with command := before, printed := [] }
  return left

def enterProcess (background first : Bool) : Run Unit := do
  forgetTraps
  modify fun s => { s with jobs := [], saved := [] }
  if background then
    setDisposition 2 .ignored
    setDisposition 3 .ignored
    if first then
      Act.ask (.close 0)
      let _ ← Act.ask (.openFile "/dev/null".toList .read)

structure Choice where
  -- Fields in front that only say how the command is to be found.
  front : List Octets := []
  fields : List Octets
  rest : List Word
  functions : Bool := true
  search : Option Octets := none
  special : Option Bool := none
  builtin : Option Octets := none

def trace (capture : Option Tree → Run Octets) (assignments fields : List Octets) : Run Unit := do
  let s ← get
  if s.has 'x' then
    let mark := Read.text ((s.value? "PS4".toList).getD "+ ".toList)
    set { s with options := s.options.filter (· ≠ 'x') }
    let front ← expandText capture .document mark
    turnOption 'x' true
    send (← get).errors (front ++ joined ' ' (assignments ++ fields) ++ ['\n'])

section

variable (capture : Option Tree → Run Octets)

def firstFields : List Word → Run (List Octets × List Word)
  | [] => return ([], [])
  | w :: rest => do
    match ← expandWord capture w with
    | [] => firstFields rest
    | fields => return (fields, rest)

def withField (c : Choice) (n : Nat) : Run (Option Octets × Choice) := do
  match c.fields[n]? with
  | some field => return (some field, c)
  | none =>
    let (fields, rest) ← firstFields capture c.rest
    return (fields.head?, { c with fields := c.fields ++ fields, rest })

/-- Passes over the options in front of a command's name, the field of a number being the next one.
There may be no name. -/
def passOptions : Nat → Choice → Nat → Run (Bool × Choice)
  | 0, c, _ => return (false, c)
  | fuel + 1, c, n => do
    let chosen (c : Choice) (n : Nat) : Bool × Choice :=
      (true, { c with
        front := c.front ++ c.fields.take n, fields := c.fields.drop n, functions := false })
    match ← withField capture c n with
    | (none, c) => return (false, c)
    | (some ['-', '-'], c) =>
      match ← withField capture c (n + 1) with
      | (none, c) => return (false, c)
      | (some _, c) => return chosen c (n + 1)
    | (some ('-' :: letter :: letters), c) =>
      if (letter :: letters).all (· == 'p') then
        passOptions fuel { c with search := some usualSearch } (n + 1)
      else return (false, c)
    | (some _, c) => return chosen c n

def choose : Nat → Choice → Run Choice
  | 0, c => return c
  | fuel + 1, c => do
    let name := c.fields.headD []
    let isRoutine := c.functions && ((← get).functions.lookup name).isSome
    if isRoutine ∨ !isBuiltin name then return { c with builtin := none }
    let c := { c with builtin := some name, special := some (c.special.getD (isSpecialBuiltin name)) }
    if name ≠ "command".toList then return c
    let (found, c) ← passOptions capture (c.rest.length + c.fields.length + 2) c 1
    if found then choose fuel c else return c

def restFields (assigning : Bool) : List Word → Run (List Octets)
  | [] => return []
  | w :: rest => do
    let fields ←
      if assigning && isAssignment w then do pure [← expandText capture .value w]
      else expandWord capture w
    return fields ++ (← restFields assigning rest)

def assignments (isLocal exported : Bool) : List Word → Run (List Octets)
  | [] => return []
  | w :: rest => do
    let text ← expandText capture .value w
    if isLocal then cover text true
    else
      let (name, value) := assignmentIn text
      assign name (value.getD []) exported
    return text :: (← assignments isLocal exported rest)

/-- Redirects streams; the answer says whether that went well. -/
def redirected (leads : List Lead) : Run Bool := do
  if leads ≠ [] then modify fun s => { s with saved := [] :: s.saved }
  tryCatch
    (do
      for l in leads do
        lead capture true l
      return true)
    fun e => if e = .refused then return false else throw e

end

mutual

def captured : Nat → Option Tree → Run Octets
  | 0, _ => return []
  | fuel + 1, body => do
    if body.isNone then return []
    let (front, back) ← Act.ask .makePipe
    let place ← addJob
    let child ← Act.fork (subprocess fuel false false do
      Act.ask (.close front)
      if back ≠ 1 then
        let _ ← Act.ask (.copy back 1)
        Act.ask (.close back)
      let _ ← evaluate fuel { last := true } body)
    addProcess place child
    Act.ask (.close back)
    let text ← readAll front plenty []
    Act.ask (.close front)
    let status ← awaitJob place
    modify fun s => { s with inner := status }
    return text

def subprocess : Nat → Bool → Bool → Run Unit → State → Task
  | 0, _, _, _ => fun _ => .exit 0
  | fuel + 1, background, first, body =>
    asTask fuel do
      enterProcess background first
      body

/-- A part of a script as a process of its own, with what is done before its end. -/
def asTask : Nat → Run Unit → State → Task
  | 0, _ => fun _ => .exit 0
  | fuel + 1, body => fun s =>
    let ends (s : State) : Task := finish fuel s (fun code _ => .exit code) fun _ s => .exit s.status
    body s (fun _ s => ends s) fun _ s => ends s

/-- The end of a script: what is trapped for it is done, and the answer is the code. -/
def finish : Nat → Run Nat
  | 0 => return 0
  | fuel + 1 => do
    unwind 0 0
    modify fun s => { s with held := none, skip := .nothing, loops := 0 }
    let s ← get
    match s.traps.lookup 0 with
    | none => return s.status
    | some action =>
      set { s with traps := s.traps.filter (·.1 ≠ 0), held := some s.status }
      tryCatch
        (do
          let _ ← evaluateText fuel {} action
          setStatus s.status)
        fun _ => pure ()
      unwind 0 0
      return (← get).status

def heed : Nat → Run Unit
  | 0 => pure ()
  | fuel + 1 => do
    if (← get).hasTraps then noteSignals
    let s ← get
    if s.signals ≠ [] ∧ s.skip = .nothing then
      let status := s.held.getD s.status
      set { s with held := some status }
      heedAll fuel status (s.signals.mergeSort fun a b => decide (a ≤ b))
      modify fun t => { t with held := s.held }

/-- Does what is trapped for some signals, unless something is passed over. -/
def heedAll : Nat → Nat → List Nat → Run Unit
  | 0, _, _ => pure ()
  | _ + 1, _, [] => pure ()
  | fuel + 1, status, signal :: rest => do
    let s ← get
    if s.skip = .nothing then
      set { s with signals := s.signals.filter (· ≠ signal) }
      match s.traps.lookup signal with
      | some action =>
        let _ ← evaluateText fuel {} action
        if (← get).skip ≠ .function then setStatus status
      | none => pure ()
      heedAll fuel status rest

def evaluateText : Nat → Manner → Octets → Run Nat
  | 0, _, _ => return 0
  | fuel + 1, m, text => evaluateRest fuel m { ahead := text } 0

def evaluateRest : Nat → Manner → Reader → Nat → Run Nat
  | 0, _, _, status => return status
  | fuel + 1, m, r, status => do
    match ← readCommand r with
    | (none, true, _) => return status
    | (t, last, r) =>
      let n ← evaluate fuel { m with last := m.last && last } t
      let status := if t.isSome then n else status
      if (← get).skip ≠ .nothing then return status
      evaluateRest fuel m r status

/-- Carries out the commands of a file, which may be shown as they are read. -/
def evaluateFile : Nat → Reader → Nat → Run Nat
  | 0, _, status => return status
  | fuel + 1, r, status => do
    let shows := (← get).has 'v'
    let before := r.left
    let reading : Run (Option Tree × Bool × Reader) := do
      if !shows then return (← readCommand r)
      let ended := Read.line.run { r with aliases := (← get).aliases }
      let after := match ended with
        | .ok _ r => r.left
        | .error _ r => r.left
      showRead before after
      readCommand r
    match ← reading with
    | (none, true, _) => return status
    | (t, _, r) =>
      let n ← evaluate fuel {} t
      let status := if t.isSome then n else status
      let s ← get
      if s.skip = .nothing then evaluateFile fuel r status
      else
        if s.skip = .function ∨ s.skip = .functionAsIs then set { s with skip := .nothing }
        return status

def evaluate : Nat → Manner → Option Tree → Run Nat
  | 0, _, _ => return 0
  | fuel + 1, m, t => do
    -- With the option `e` a failure ends the script, unless something looks at the status; and after the
    -- last command there is nothing to come back to.
    let settled (checked : Bool) (status : Nat) : Run Nat := do
      heed fuel
      let s ← get
      if s.has 'e' ∧ checked ∧ !m.tested ∧ status ≠ 0 then throw .over
      if m.last then throw .over
      return s.status
    let done (checked : Bool) (status : Nat) : Run Nat := do
      setStatus status
      settled checked status
    let noexec := (← get).has 'n'
    match if noexec then none else t with
    | none => settled false 0
    | some t =>
      heed fuel
      match t with
      | .not body => do
        let n ← evaluate fuel { tested := true } (some body)
        done false (if n = 0 then 1 else 0)
      | .redirected line body redirections => do
        modify fun s => { s with line }
        let leads ← leadsOf (captured fuel) redirections
        let depth := (← get).saved.length
        let well ← redirected (captured fuel) leads
        let n ← if well then evaluate fuel m.inside body else pure 2
        if depth < (← get).saved.length then leadBack false
        done (!well) n
      | .simple line given words redirections => do
        done true (← simple fuel m line given words redirections)
      | .pipe background commands => do done true (← pipe fuel m background commands)
      | .subshell line body redirections => do
        done true (← subshell fuel m false line body redirections)
      | .background line body redirections => do
        done true (← subshell fuel m true line body redirections)
      | .both first second => do
        let n ← evaluate fuel { tested := true } (some first)
        if n ≠ 0 ∨ (← get).skip ≠ .nothing then settled false n
        else do done false (← evaluate fuel m (some second))
      | .either first second => do
        let n ← evaluate fuel { tested := true } (some first)
        if n = 0 ∨ (← get).skip ≠ .nothing then settled false n
        else do done false (← evaluate fuel m (some second))
      | .sequence first second => do
        let n ← evaluate fuel m.inside (some first)
        if (← get).skip ≠ .nothing then settled false n
        else do done false (← evaluate fuel m (some second))
      | .choice test yes no => do
        let n ← evaluate fuel { tested := true } test
        if (← get).skip ≠ .nothing then settled false n
        else if n = 0 then do done false (← evaluate fuel m yes)
        else if no.isSome then do done false (← evaluate fuel m no)
        else done false 0
      | .loop holds test body => do
        modify fun s => { s with loops := s.loops + 1 }
        let n ← loop fuel m.inside holds test body 0
        modify fun s => { s with loops := s.loops - 1 }
        done false n
      | .each line name words body => do
        modify fun s => { s with line }
        let fields ← restFields (captured fuel) false words
        modify fun s => { s with loops := s.loops + 1 }
        let n ← each fuel m.inside name fields body 0
        modify fun s => { s with loops := s.loops - 1 }
        done false n
      | .select line word cases => do
        modify fun s => { s with line }
        let text ← expandText (captured fuel) .name word
        done false (← select fuel m text cases)
      | .define _ name body => do
        modify fun s => { s with functions := State.put name body s.functions }
        done false 0

def loop : Nat → Manner → Bool → Option Tree → Option Tree → Nat → Run Nat
  | 0, _, _, _, _, status => return status
  | fuel + 1, m, holds, test, body, status => do
    let n ← evaluate fuel { tested := true } test
    let skip ← passLoop
    if skip ≠ .nothing then
      let status := if skip = .function then n else status
      if goesOn skip then loop fuel m holds test body status else return status
    else if (n == 0) != holds then return status
    else
      let status ← evaluate fuel m body
      let skip ← passLoop
      if goesOn skip then loop fuel m holds test body status else return status

def each : Nat → Manner → Octets → List Octets → Option Tree → Nat → Run Nat
  | 0, _, _, _, _, status => return status
  | _ + 1, _, _, [], _, status => return status
  | fuel + 1, m, name, field :: rest, body, _ => do
    assign name field false
    let status ← evaluate fuel m body
    let skip ← passLoop
    if goesOn skip then each fuel m name rest body status else return status

def select : Nat → Manner → Octets → List (List Word × Option Tree) → Run Nat
  | 0, _, _, _ => return 0
  | _ + 1, _, _, [] => return 0
  | fuel + 1, m, text, (patterns, body) :: rest => do
    if ← matchesAny fuel text patterns then
      if (← get).skip = .nothing ∧ body.isSome then evaluate fuel m body else return 0
    else select fuel m text rest

def matchesAny : Nat → Octets → List Word → Run Bool
  | 0, _, _ => return false
  | _ + 1, _, [] => return false
  | fuel + 1, text, word :: rest => do
    let pattern ← expandPattern (captured fuel) word
    if pattern.holds text then return true
    matchesAny fuel text rest

def subshell : Nat → Manner → Bool → Nat → Option Tree → List Redirection → Run Nat
  | 0, _, _, _, _, _ => return 0
  | fuel + 1, m, background, line, body, redirections => do
    modify fun s => { s with line }
    let leads ← leadsOf (captured fuel) redirections
    let inside (m : Manner) : Run Unit := do
      for l in leads do
        lead (captured fuel) false l
      let _ ← evaluate fuel m body
    if !background ∧ m.last ∧ !(← get).hasTraps then
      inside m
      return 0
    let place ← addJob
    let manner : Manner := { last := true, tested := m.tested && !background }
    let child ← Act.fork (subprocess fuel background true (inside manner))
    addProcess place child
    if background then
      modify fun s => { s with lastBackground := child }
      return 0
    awaitJob place

def pipe : Nat → Manner → Bool → List Tree → Run Nat
  | 0, _, _, _ => return 0
  | fuel + 1, m, background, commands => do
    let place ← addJob
    members fuel { m with last := true } background place none commands true
    if background then return 0
    awaitJob place

/-- Starts the commands of a pipeline, of which the next reads from `source`. -/
def members : Nat → Manner → Bool → Nat → Option Nat → List Tree → Bool → Run Unit
  | 0, _, _, _, _, _, _ => pure ()
  | _ + 1, _, _, _, _, [], _ => pure ()
  | fuel + 1, m, background, place, source, t :: rest, first => do
    let ends : Option (Nat × Nat) ←
      if rest.isEmpty then pure none
      else do
        let ends ← Act.ask .makePipe
        pure (some ends)
    let child ← Act.fork (subprocess fuel background first do
      match ends with
      | some (front, _) => Act.ask (.close front)
      | none => pure ()
      match source with
      | some stream =>
        if stream ≠ 0 then
          let _ ← Act.ask (.copy stream 0)
          Act.ask (.close stream)
      | none => pure ()
      match ends with
      | some (_, back) =>
        if 1 < back then
          let _ ← Act.ask (.copy back 1)
          Act.ask (.close back)
      | none => pure ()
      let _ ← evaluate fuel m (some t))
    addProcess place child
    if background then modify fun s => { s with lastBackground := child }
    match source with
    | some stream => Act.ask (.close stream)
    | none => pure ()
    match ends with
    | some (_, back) => Act.ask (.close back)
    | none => pure ()
    members fuel m background place (ends.map (·.1)) rest false

def simple : Nat → Manner → Nat → List Word → List Word → List Redirection → Run Nat
  | 0, _, _, _, _, _ => return 0
  | fuel + 1, m, line, given, words, redirections => do
    let _ ← noteSignals
    modify fun s => { s with line, inner := 0 }
    let capture := captured fuel
    let (fields, rest) ← firstFields capture words
    let none? := fields.isEmpty
    let c : Choice ←
      if none? then pure { fields, rest } else choose capture (words.length + 2) { fields, rest }
    let assigning := (c.builtin.map takesAssignments).getD false
    let fields := c.fields ++ (← restFields capture assigning c.rest)
    let isLocal := !none? && c.special ≠ some true
    let isExec := c.builtin = some "exec".toList
    let savedDepth := (← get).saved.length
    let coveredDepth := (← get).covered.length
    if isLocal then modify fun s => { s with covered := [] :: s.covered }
    let leads ← leadsOf capture redirections
    modify fun s => { s with errors := 2 }
    let status ←
      if !(← redirected capture leads) then
        setStatus 2
        if c.special = some true then throw .refused
        pure 2
      else do
        if leads ≠ [] then
          modify fun s => { s with
            errors := ((s.saved.head?.bind (·.lookup 2)).bind id).getD 2 }
        let texts ← assignments capture isLocal (isExec && 1 < fields.length) given
        trace capture texts (c.front ++ fields)
        carryOut fuel m c none? fields
    if savedDepth < (← get).saved.length ∧ leads ≠ [] then
      unwind (savedDepth + 1) coveredDepth
      leadBack isExec
    unwind savedDepth coveredDepth
    return status

def carryOut : Nat → Manner → Choice → Bool → List Octets → Run Nat
  | 0, _, _, _, _ => return 0
  | fuel + 1, m, c, isNone, fields => do
    let name := fields.headD []
    let arguments := fields.drop 1
    let after (left : Option Leave) (stands : Bool) : Run Nat := do
      match left with
      | some e => if stands || e ≠ .refused then throw e else return (← get).status
      | none => return (← get).status
    if isNone then
      setStatus (← get).inner
      return (← get).status
    let found ← match c.builtin with
      | some name => pure (Command.builtin name)
      | none => findOrComplain name c.functions c.search
    match found with
    | .unknown _ =>
      setStatus 127
      return 127
    | .program paths =>
      if m.last ∧ !(← get).hasTraps then
        become paths fields
        return 0
      let place ← addJob
      let child ← Act.fork fun s =>
        become paths fields s (fun _ s => .exit s.status) fun _ s => .exit s.status
      addProcess place child
      awaitJob place
    | .routine body =>
      let s ← get
      set { s with arguments, optionPlace := 1, optionLetter := none, loops := 0 }
      let left ← tryCatch
        (do
          let _ ← evaluate fuel m.inside (some body)
          return none)
        fun e => pure (some e)
      modify fun t => { t with
        arguments := s.arguments, optionPlace := s.optionPlace, optionLetter := s.optionLetter
        loops := s.loops
        skip := if t.skip = .function ∨ t.skip = .functionAsIs then .nothing else t.skip }
      after left true
    | .builtin name =>
      let body : Run Nat ← match String.ofList name with
        | "eval" =>
          pure (if arguments = [] then return 0
            else evaluateText fuel m.inside (joined ' ' arguments))
        | "." => pure (source fuel arguments)
        | "exec" =>
          pure do
            let first := arguments.headD []
            let directories := directoriesIn (← get).search
            if arguments ≠ [] then
              become (if first.contains '/' then [first] else directories.map (pathIn · first)) arguments
            return 0
        | _ => pure (((builtin? name).map (· arguments)).getD (return 0))
      after (← runBuiltin name body) (c.special = some true)

def source : Nat → List Octets → Run Nat
  | 0, _ => return 0
  | fuel + 1, arguments => do
    match ← operands arguments with
    | [] => return 0
    | name :: _ =>
      let directories := directoriesIn (← get).search
      let path ← if name.contains '/' then pure name else scriptIn name directories
      let text ← scriptText path
      modify fun s => { s with command := some path }
      evaluateFile fuel { ahead := text } 0

end

end SyntaxSweep.Shell
