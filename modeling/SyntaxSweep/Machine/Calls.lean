import SyntaxSweep.Machine.Launch

namespace SyntaxSweep

/-- What a request of a process comes to. The process is not among those of the machine meanwhile. -/
inductive Reaction (α : Type) where
  | answer (a : α) (p : Process) (m : Machine)
  -- The process has to wait, and asks again later.
  | blocked (p : Process)
  -- The process goes on as another program.
  | becomes (p : Process) (m : Machine)
  | ends (how : ProcessEnd) (p : Process) (m : Machine)

namespace Machine

def pipeSignal : Nat := 13

def killSignal : Nat := 9

def isHarmless (signal : Nat) : Bool :=
  [0, 17, 18, 19, 20, 21, 22, 23, 28].contains signal

/-- A signal as it reaches a process; `none` if it ends it. -/
def signalled (p : Process) (signal : Nat) : Option Process :=
  if p.ended.isSome then some p
  else if signal = killSignal then none
  else if p.ignored.contains signal then some p
  else if p.caught.contains signal then
    some { p with pending := p.pending.filter (· ≠ signal) ++ [signal] }
  else if isHarmless signal then some p
  else none

def withEnded (m : Machine) (p : Process) (how : ProcessEnd) : Machine :=
  let left := m.processes.filterMap fun (q : Process) =>
    if q.parent = p.number then
      if q.ended.isSome then none else some { q with parent := 0 }
    else some q
  let p : Process := { p with streams := [], task := .exit 0, ended := some how }
  { m with processes := if p.parent = 0 then left else insert p left }
where
  -- Processes stand in the order of their numbers.
  insert (p : Process) : List Process → List Process
    | [] => [p]
    | q :: rest => if p.number < q.number then p :: q :: rest else q :: insert p rest

def withProcess (m : Machine) (p : Process) : Machine :=
  { m with processes := withEnded.insert p m.processes }

def streamFor (p : Process) (opened : OpenFile × Machine) : Nat × Process × Machine :=
  let (file, m) := opened.2.withOpened opened.1
  let number := p.freeNumber 0
  (number, p.withStream ⟨number, file, false⟩, m)

def send (m : Machine) (p : Process) (target signal : Nat) : Reaction (Except IoProblem Unit) :=
  if target = p.number then
    match signalled p signal with
    | some p => .answer (.ok ()) p m
    | none => .ends (.killed signal) p m
  else
    match m.processes.find? (·.number = target) with
    | none => .answer (.error .noProcess) p m
    | some q =>
      match signalled q signal with
      | some q =>
        .answer (.ok ()) p { m with
          processes := m.processes.map fun r => if r.number = target then q else r }
      | none =>
        let others := { m with processes := m.processes.filter (·.number ≠ target) }
        .answer (.ok ()) p (others.withEnded q (.killed signal))

def news (m : Machine) (p : Process) (child : Option Nat) (patient : Bool) : Reaction News :=
  let isMeant (q : Process) : Bool :=
    q.parent == p.number && (child.map (q.number == ·)).getD true
  let children := m.processes.filter isMeant
  match children.findSome? fun q => q.ended.map fun how => (q.number, how) with
  | some (number, how) =>
    .answer (.ended number how) p { m with processes := m.processes.filter (·.number ≠ number) }
  | none =>
    if children.isEmpty then .answer .childless p m
    else if !p.pending.isEmpty then .answer .interrupted p m
    else if patient then .blocked p
    else .answer .running p m

def dispositionOf (p : Process) (signal : Nat) : Disposition :=
  if p.ignored.contains signal then .ignored
  else if p.caught.contains signal then .caught
  else .default

def dispose (p : Process) (signal : Nat) (d : Disposition) : Process :=
  let others := { p with
    ignored := p.ignored.filter (· ≠ signal), caught := p.caught.filter (· ≠ signal) }
  match d with
  | .default => others
  | .ignored => { others with ignored := signal :: others.ignored }
  | .caught => { others with caught := signal :: others.caught }

def attempted {α : Type} (p : Process) : Attempted α → Reaction α
  | .done a m => .answer a p m
  | .blocked => .blocked p

def turnsOfSetUp : Nat := 60

def perform (m : Machine) (p : Process) :
    (r : Request) → Reaction r.Answer
  | .step => .answer p.pending { p with pending := [] } m
  | .openFile path access =>
    match m.openPath p path access with
    | .error problem => .answer (.error problem) p m
    | .ok opened =>
      let (number, p, m) := streamFor p opened
      .answer (.ok number) p m
  | .document text =>
    let file : OpenFile := { target := .scratch m.scratch.size, reads := true, writes := false }
    let (number, p, m) := streamFor p (file, { m with scratch := m.scratch.push (.ofOctets text) })
    .answer number p m
  | .makePipe =>
    let target := Target.pipe m.pipes.size
    let m := { m with pipes := m.pipes.push {} }
    let (front, p, m) := streamFor p ({ target, reads := true, writes := false }, m)
    let (back, p, m) := streamFor p ({ target, reads := false, writes := true }, m)
    .answer (front, back) p m
  | .close stream => .answer () (p.closed stream) m
  | .copy source target =>
    match p.stream? source with
    | none => .answer (.error .noStream) p m
    | some s =>
      .answer (.ok ()) (if source = target then p else p.withStream ⟨target, s.file, false⟩) m
  | .keep stream =>
    match p.stream? stream with
    | none => .answer none p m
    | some s =>
      let number := p.freeNumber 10
      .answer (some number) (p.withStream ⟨number, s.file, true⟩) m
  | .read stream count => attempted p (m.readStream p stream fun l => (l.take count, l.drop count))
  | .readLine stream => attempted p (m.readStream p stream cutLine)
  | .write stream octets =>
    match m.writeStream p stream octets with
    -- Nobody can read the pipe any more: the signal comes before the answer.
    | .done (.error (.system 32)) m =>
      match signalled p pipeSignal with
      | some p => .answer (.error .brokenPipe) p m
      | none => .ends (.killed pipeSignal) p m
    | reply => attempted p reply
  | .seek stream position =>
    .answer () p (match m.openOf? p stream with
      | some (number, f) => { m with opened := m.opened.set! number { f with position, ahead := none } }
      | none => m)
  | .info path follow => .answer (m.infoAt p path follow) p m
  | .streamInfo stream =>
    .answer (match m.openOf? p stream with
      | some (_, f) => .ok (m.infoOfOpen f)
      | none => .error .noStream) p m
  | .entries path => .answer (m.entriesAt p path) p m
  | .enter path =>
    match (m.diskOf p).enter ⟨Octets.toBytes path⟩ with
    | .ok d => .answer (.ok ()) { p with directory := d.directory } m
    | .error problem => .answer (.error problem) p m
  | .here => .answer (Octets.ofBytes (m.diskOf p).here.bytes) p m
  | .wait child patient => m.news p child patient
  | .sleep ms =>
    match p.wakes with
    | some t => if t ≤ m.now then .answer () { p with wakes := none } m else .blocked p
    | none => if ms = 0 then .answer () p m else .blocked { p with wakes := some (m.now + ms) }
  | .signal target number => m.send p target number
  | .onSignal number disposition => .answer (dispositionOf p number) (dispose p number disposition) m
  | .identity => .answer (p.number, p.parent) p m
  | .clock => .answer m.now p m
  | .launch path arguments bindings =>
    match m.launch (m.diskOf p) path arguments bindings with
    | .error problem => .answer problem p m
    | .ok task =>
      -- What was caught is no longer so, and what was ignored still is.
      .becomes { p with
        task, caught := [], setUp := turnsOfSetUp
        streams := p.streams.filter (!·.kept) } m
  | .askGit arguments => .answer (m.git arguments) p m

/-- One request of a process is answered, or the process ends or divides in two. The answer says
whether anything has happened. -/
def turn (m : Machine) (p : Process) : Bool × Machine :=
  match p.task with
  | .exit code => (true, m.withEnded p (.exited (code % 256)))
  | .fork child next =>
    let number := m.lastNumber + 1
    let m := { m with lastNumber := number }
    let child : Process := { p with
      number, parent := p.number, task := child, pending := [], setUp := turnsOfSetUp }
    (true, (m.withProcess { p with task := next number }).withProcess child)
  | .ask request next =>
    match m.perform p request with
    | .answer a p m => (true, m.withProcess { p with task := next a })
    | .blocked p => (false, m.withProcess p)
    | .becomes p m => (true, m.withProcess p)
    | .ends how p m => (true, m.withEnded p how)

end Machine

end SyntaxSweep
