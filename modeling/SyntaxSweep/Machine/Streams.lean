import SyntaxSweep.Machine.Basic

namespace SyntaxSweep

/-- What an attempt to do something comes to that may have to wait. -/
inductive Attempted (α : Type) where
  | done (a : α) (m : Machine)
  | blocked

namespace Machine

def pipeRoom : Nat := 65536

def contentAt (m : Machine) (place : List Bytes) : Content :=
  match m.changed.lookup place with
  | some content => content
  | none =>
    match m.disk.tree.at? place with
    | some (.file data _) => .ofOctets (Octets.ofBytes data)
    | _ => {}

def setContent (m : Machine) (place : List Bytes) (content : Content) : Machine :=
  { m with
    changed := (place, content) :: m.changed.filter (·.1 ≠ place), version := m.version + 1 }

def withOpened (m : Machine) (f : OpenFile) : Nat × Machine :=
  (m.opened.size, { m with opened := m.opened.push f })

def openOf? (m : Machine) (p : Process) (stream : Nat) : Option (Nat × OpenFile) := do
  let s ← p.stream? stream
  let f ← m.opened[s.file]?
  return (s.file, f)

def Access.reads : Access → Bool
  | .read | .update => true
  | _ => false

def Access.writes : Access → Bool
  | .read => false
  | _ => true

def streamNamed? (path : Octets) : Option Nat :=
  let number (digits : List Char) : Option Nat :=
    if digits ≠ [] ∧ digits.all Char.isDigit then
      some (digits.foldl (fun n d => n * 10 + (d.toNat - '0'.toNat)) 0)
    else none
  match String.ofList path with
  | "/dev/stdin" => some 0
  | "/dev/stdout" => some 1
  | "/dev/stderr" => some 2
  | _ =>
    let after (lead : String) : Option (List Char) :=
      if lead.toList.isPrefixOf path then some (path.drop lead.length) else none
    ((after "/dev/fd/").orElse fun _ => after "/proc/self/fd/").bind number

def openAt (m : Machine) (place : List Bytes) (node : Option Node) (access : Access) :
    Except IoProblem (OpenFile × Machine) :=
  let file : OpenFile :=
    { target := .file place, reads := Access.reads access, writes := Access.writes access
      appends := access = .extend }
  match node with
  | some (.directory readable _) =>
    if access = .create then .error .alreadyThere
    else if Access.writes access then .error .isDirectory
    else if readable then .ok ({ file with target := .directory place }, m)
    else .error .accessDenied
  | some .special =>
    if access = .create then .error .alreadyThere
    else .ok ({ file with target := .device (place.getLast?.getD []) }, m)
  | some _ =>
    match access with
    | .create => .error .alreadyThere
    | .replace => .ok (file, m.setContent place {})
    | _ => .ok (file, m)
  | none =>
    match access with
    | .read | .write => .error .noEntry
    | _ =>
      .ok (file, { m with
        disk := ⟨m.disk.tree.put place (.file [] false), m.disk.directory⟩
        version := m.version + 1 })

def reopen (m : Machine) (p : Process) (stream : Nat) (access : Access) :
    Except IoProblem (OpenFile × Machine) :=
  match m.openOf? p stream with
  | none => .error .noEntry
  | some (_, f) =>
    if access = .create then .error .alreadyThere
    else
      let again : OpenFile :=
        { target := f.target, reads := Access.reads access, writes := Access.writes access
          appends := access = .extend }
      match f.target, access with
      | .scratch n, .replace =>
        .ok (again, { m with scratch := m.scratch.modify n fun _ => {}, version := m.version + 1 })
      | .file place, .replace => .ok (again, m.setContent place {})
      | .directory _, access =>
        if Access.writes access then .error .isDirectory else .ok (again, m)
      | _, _ => .ok (again, m)

def openPath (m : Machine) (p : Process) (path : Octets) (access : Access) :
    Except IoProblem (OpenFile × Machine) :=
  match streamNamed? path with
  | some stream => m.reopen p stream access
  | none =>
    let d := m.diskOf p
    match d.place? true ⟨Octets.toBytes path⟩ with
    | .error problem =>
      if path.getLast? = some '/' ∧ problem = .noEntry ∧ Access.writes access ∧ access ≠ .write then
        .error .isDirectory
      else .error problem
    | .ok place => m.openAt place (d.tree.at? place) access

def hasWriter (m : Machine) (others : List Process) (pipe : Nat) : Bool :=
  others.any fun p => p.ended.isNone && p.streams.any fun s =>
    match m.opened[s.file]? with
    | some f => f.writes && f.target == .pipe pipe
    | none => false

def hasReader (m : Machine) (others : List Process) (pipe : Nat) : Bool :=
  others.any fun p => p.ended.isNone && p.streams.any fun s =>
    match m.opened[s.file]? with
    | some f => f.reads && f.target == .pipe pipe
    | none => false

def aheadOf (m : Machine) (f : OpenFile) : Octets :=
  match f.ahead with
  | some (version, octets) => if version = m.version then octets else fresh
  | none => fresh
where
  fresh : Octets :=
    let content := match f.target with
      | .file place => m.contentAt place
      | .scratch n => (m.scratch[n]?).getD {}
      | _ => {}
    content.octets.drop f.position

/-- Reads with `cut`, which divides what comes next into what is read and what is left. -/
def readStream (m : Machine) (p : Process) (stream : Nat) (cut : Octets → Octets × Octets) :
    Attempted (Except IoProblem Octets) :=
  match m.openOf? p stream with
  | none => .done (.error .noStream) m
  | some (number, f) =>
    if !f.reads then .done (.error .noStream) m
    else
      match f.target with
      | .directory _ => .done (.error .isDirectory) m
      | .device name =>
        if name = bytesOf "zero" ∨ name = bytesOf "full" then
          .done (.ok (cut (List.replicate 4096 '\x00')).1) m
        else .done (.ok []) m
      | .pipe n =>
        let pipe := (m.pipes[n]?).getD {}
        let pipe := if pipe.front.isEmpty then ⟨pipe.back.octets, {}⟩ else pipe
        if pipe.front.isEmpty then
          if m.hasWriter (p :: m.processes) n then .blocked else .done (.ok []) m
        else
          let (now, later) := cut pipe.front
          .done (.ok now) { m with pipes := m.pipes.set! n { pipe with front := later } }
      | _ =>
        let (now, later) := cut (m.aheadOf f)
        .done (.ok now) { m with
          opened := m.opened.set! number { f with
            position := f.position + now.length, ahead := some (m.version, later) } }

def cutLine (octets : Octets) : Octets × Octets :=
  let line := octets.takeWhile (· ≠ '\n')
  (octets.take (line.length + 1), octets.drop (line.length + 1))

def writeStream (m : Machine) (p : Process) (stream : Nat) (octets : Octets) :
    Attempted (Except IoProblem Unit) :=
  match m.openOf? p stream with
  | none => .done (.error .noStream) m
  | some (number, f) =>
    if !f.writes then .done (.error .noStream) m
    else
      let moved (position : Nat) (m : Machine) : Machine :=
        { m with opened := m.opened.set! number { f with position, ahead := none } }
      match f.target with
      | .directory _ => .done (.error .noStream) m
      | .device name =>
        .done (if name = bytesOf "full" then .error .noSpace else .ok ()) m
      | .pipe n =>
        if !m.hasReader (p :: m.processes) n then .done (.error .brokenPipe) m
        else
          let pipe := (m.pipes[n]?).getD {}
          if pipeRoom ≤ pipe.back.size then .blocked
          else .done (.ok ()) { m with
            pipes := m.pipes.set! n { pipe with back := pipe.back.write pipe.back.size octets } }
      | .scratch n =>
        let content := (m.scratch[n]?).getD {}
        let position := if f.appends then content.size else f.position
        .done (.ok ()) (moved (position + octets.length) { m with
          scratch := m.scratch.modify n fun c => c.write position octets, version := m.version + 1 })
      | .file place =>
        let content := m.contentAt place
        let position := if f.appends then content.size else f.position
        .done (.ok ())
          (moved (position + octets.length) (m.setContent place (content.write position octets)))

def infoOf (m : Machine) (place : List Bytes) : Node → FileInfo
  | .file data executable =>
    { kind := .regular, size := ((m.changed.lookup place).map (·.size)).getD data.length, executable
      mark := place }
  | .directory _ _ => { kind := .directory, size := 4096, executable := true, mark := place }
  | .link target => { kind := .link, size := target.bytes.length, executable := true, mark := place }
  | .special => { kind := .device, size := 0, executable := false, mark := place }

def infoOfOpen (m : Machine) (f : OpenFile) : FileInfo :=
  let known : FileInfo :=
    match f.target with
    | .file place =>
      ((m.disk.tree.at? place).map (m.infoOf place)).getD
        { kind := .regular, size := (m.contentAt place).size, executable := false, mark := place }
    | .scratch n =>
      { kind := .regular, size := ((m.scratch[n]?).getD {}).size, executable := false
        mark := [[], Utf8.encode (Nat.toDigits 10 n)] }
    | .pipe n =>
      { kind := .pipe, size := 0, executable := false, mark := [[], [], Utf8.encode (Nat.toDigits 10 n)] }
    | .directory place => { kind := .directory, size := 4096, executable := true, mark := place }
    | .device name => { kind := .device, size := 0, executable := false, mark := [bytesOf "dev", name] }
  { known with position := f.position, appends := f.appends }

def infoAt (m : Machine) (p : Process) (path : Octets) (follow : Bool) : Except IoProblem FileInfo :=
  match if follow then streamNamed? path else none with
  | some stream =>
    match m.openOf? p stream with
    | some (_, f) => .ok (m.infoOfOpen f)
    | none => .error .noEntry
  | none =>
    let d := m.diskOf p
    let path : Path := ⟨Octets.toBytes path⟩
    match d.node? follow path, d.place? follow path with
    | .ok node, .ok place => .ok (m.infoOf place node)
    | .error problem, _ | _, .error problem => .error problem

def entriesAt (m : Machine) (p : Process) (path : Octets) : Except IoProblem (List Octets) :=
  match (m.diskOf p).node? true ⟨Octets.toBytes path⟩ with
  | .ok (.directory readable entries) =>
    if readable then .ok (entries.map fun e => Octets.ofBytes e.1) else .error .accessDenied
  | .ok _ => .error .notDirectory
  | .error problem => .error problem

end Machine

end SyntaxSweep
