import SyntaxSweep.Shell.Options
import SyntaxSweep.Shell.Signals

namespace SyntaxSweep.Shell

def statusOf : ProcessEnd → Nat
  | .exited code => code
  | .killed signal => 128 + signal

namespace Job

def isDone (j : Job) : Bool :=
  j.processes.all (·.2.isSome)

def ending? (j : Job) : Option ProcessEnd :=
  j.processes.getLast?.bind (·.2)

def status (j : Job) : Nat :=
  (j.ending?.map statusOf).getD 0

def isSpent (j : Job) : Bool :=
  j.isDone && j.heard

end Job

namespace State

def job? (s : State) (place : Nat) : Option Job :=
  s.jobs.find? (·.place = place)

def withJob (s : State) (job : Job) : State :=
  { s with jobs := s.jobs.map fun j => if j.place = job.place then job else j }

def withoutJob (s : State) (place : Nat) : State :=
  { s with jobs := s.jobs.filter (·.place ≠ place) }

def freePlace (s : State) : Nat :=
  let taken := (s.jobs.filter (!·.isSpent)).map (·.place)
  ((List.range (taken.length + 1)).map (· + 1)).find? (!taken.contains ·) |>.getD 1

end State

def addJob : Run Nat :=
  modifyGet fun s =>
    let place := s.freePlace
    let s := s.withoutJob place
    (place, { s with jobs := ⟨place, [], false⟩ :: s.jobs })

def addProcess (place number : Nat) : Run Unit :=
  modify fun s =>
    match s.job? place with
    | some j => s.withJob { j with processes := j.processes ++ [(number, none)] }
    | none => s

/-- Listens for news of children. What a signal has done to the job `place` is said aloud. -/
def hear (place : Option Nat) (patient : Bool) : Run News := do
  let news ← Act.ask (.wait none patient)
  match news with
  | .ended child how =>
    let s ← get
    match s.jobs.find? fun j => j.processes.any fun p => p.1 = child && p.2.isNone with
    | none => pure ()
    | some j =>
      set (s.withJob { j with
        processes := j.processes.map fun p => if p.1 = child then (child, some how) else p })
      if place = some j.place then
        match how with
        | .killed signal =>
          match Signals.notice? signal with
          | some text => sendText 2 (text ++ "\n")
          | none => pure ()
        | .exited _ => pure ()
  | _ => pure ()
  return news

def noteSignals : Run Unit := do
  let signals : List Nat ← Act.ask .step
  modify fun s => { s with signals := s.signals.filter (!signals.contains ·) ++ signals }

def awaitDone (place : Nat) : Nat → Run Unit
  | 0 => pure ()
  | fuel + 1 => do
    if ((← get).job? place).any (!·.isDone) then
      match ← hear (some place) true with
      | .childless => pure ()
      | .interrupted =>
        noteSignals
        awaitDone place fuel
      | _ => awaitDone place fuel

def awaitJob (place : Nat) : Run Nat := do
  awaitDone place plenty
  let s ← get
  set (s.withoutJob place)
  return ((s.job? place).map (·.status)).getD 0

def hearAll : Nat → Run Unit
  | 0 => pure ()
  | fuel + 1 => do
    match ← hear none false with
    | .ended _ _ => hearAll fuel
    | _ => pure ()

def jobNamed (word : Octets) : Run Job := do
  let s ← get
  let found (j : Option Job) (why : String) : Run Job := do
    match j with
    | some j => return j
    | none => refuse why
  match word with
  | ['%'] | ['%', '+'] | ['%', '%'] => found s.jobs.head? "No current job"
  | ['%', '-'] => found (s.jobs[1]?) "No previous job"
  | '%' :: digits =>
    if digits ≠ [] ∧ digits.all Char.isDigit then
      found (s.job? (decimalValue digits)) s!"No such job: {shown word}"
    else refuse s!"No such job: {shown word}"
  | _ => refuse s!"No such job: {shown word}"

def Job.word (j : Job) : String :=
  if !j.isDone then "Running"
  else
    match j.ending? with
    | some (.killed signal) => Signals.meaning signal
    | some (.exited 0) | none => "Done"
    | some (.exited code) => s!"Done({code})"

def showJob (withNumbers numbersOnly : Bool) (j : Job) : Run Unit := do
  let s ← get
  let first := ((j.processes.head?).map (·.1)).getD 0
  if numbersOnly then return (← printText s!"{first}\n")
  let sign :=
    if (s.jobs.head?).any (·.place = j.place) then "+"
    else if (s.jobs[1]?).any (·.place = j.place) then "-"
    else " "
  let number := if withNumbers then s!"{first} " else ""
  let lead := s!"[{j.place}] {sign} {number}{j.word}"
  let gap (n : Nat) : String := String.ofList (List.replicate (max 1 (33 - n)) ' ')
  printText (lead ++ gap lead.length)
  let others := j.processes.drop 1
  let indent := (s!"[{j.place}]   ").length
  if withNumbers then
    for (process, _) in others do
      let lead := String.ofList (List.replicate indent ' ') ++ s!"{process} "
      printText (" |\n" ++ lead ++ gap lead.length)
  else
    for _ in others do
      printText " | "
  printText "\n"
  if j.isDone then modify fun s => s.withoutJob j.place

def jobsBuiltin (arguments : List Octets) : Run Nat := do
  let (letters, words) ← flags "lp" arguments
  let numbersOnly := letters.contains 'p'
  let withNumbers := letters.contains 'l'
  if words = [] then
    hearAll plenty
    for j in (← get).jobs do
      showJob withNumbers numbersOnly j
  else
    for w in words do
      showJob withNumbers numbersOnly (← jobNamed w)
  return 0

/-- Waits until no job is running; the answer is a signal that has come first. -/
def awaitAll : Nat → Run (Option Nat)
  | 0 => return none
  | fuel + 1 => do
    modify fun s => { s with jobs := s.jobs.map fun j => { j with heard := j.heard || j.isDone } }
    if (← get).jobs.all (·.isDone) then return none
    match ← hear none true with
    | .interrupted =>
      noteSignals
      return (← get).signals.getLast?
    | .childless => return none
    | _ => awaitAll fuel

/-- Waits for one job; the answer is a signal that has come first. -/
def awaitOne (place : Nat) : Nat → Run (Option Nat)
  | 0 => return none
  | fuel + 1 => do
    if ((← get).job? place).all (·.isDone) then return none
    match ← hear (some place) true with
    | .interrupted =>
      noteSignals
      return (← get).signals.getLast?
    | .childless => return none
    | _ => awaitOne place fuel

/-- Waits for the jobs that words name; the answer is the last one's status. -/
def awaitNamed : List Octets → Nat → Run Nat
  | [], status => return status
  | w :: rest, status => do
    let job? ←
      if w.head? = some '%' then some <$> jobNamed w
      else do
        let n ← number w
        pure ((← get).jobs.find? fun j => (j.processes.getLast?.map (·.1)) = some n)
    match job? with
    | none => awaitNamed rest status
    | some j =>
      match ← awaitOne j.place plenty with
      | some signal => return 128 + signal
      | none =>
        let s ← get
        match s.job? j.place with
        | none => awaitNamed rest status
        | some j =>
          set (s.withJob { j with heard := true })
          awaitNamed rest j.status

def waitBuiltin (arguments : List Octets) : Run Nat := do
  let words ← operands arguments
  if words ≠ [] then awaitNamed words 127
  else
    match ← awaitAll plenty with
    | some signal => return 128 + signal
    | none => return 0

/-- Jobs are brought to the front or to the back only where there is a terminal. -/
def moveBuiltin (arguments : List Octets) : Run Nat := do
  let words ← operands arguments
  let j ← jobNamed (words.headD ['%'])
  let _ := j
  let name := shown (words.headD "(null)".toList)
  refuse s!"job {name} not created under job control"

end SyntaxSweep.Shell
