import SyntaxSweep.Tools.Searching.Printing

namespace SyntaxSweep.Search

def pieceSize : Nat := 98304

def cutLines (lineEnd : Char) : Octets → Octets → List Octets → List Octets × Octets
  | [], line, done => (done.reverse, line.reverse)
  | c :: rest, line, done =>
    if c = lineEnd then cutLines lineEnd rest [] (line.reverse :: done)
    else cutLines lineEnd rest (c :: line) done

def noticeZeros (a : Asked) (p : Progress) (octets : Octets) : Option (Progress × Octets) :=
  let zapped (octets : Octets) : Octets := octets.map fun c => if c = '\x00' then '\n' else c
  if p.foundInText.isSome then some (p, zapped octets)
  else if !a.zeros && a.binaries ≠ .asText && octets.contains '\x00' then
    if a.binaries = .skipped then none
    else
      some ({ p with
        foundInText := some p.found, brief := p.brief || !a.counting, quiet := p.quiet || !a.counting },
        zapped octets)
  else some (p, octets)

def searchStream (c : Caller) (a : Asked) (sought : Sought) (s : Source) (stream : Nat) :
    Nat → Octets → Progress → Work (Progress × Bool)
  | 0, _, p => return (p, true)
  | fuel + 1, residue, p => do
    match ← Act.ask (.read stream pieceSize) with
    | .error e =>
      wrong c a s.name e.text
      return (p, false)
    | .ok [] =>
      if residue = [] then return (p, true)
      else return (← nextLines c a sought s [residue] p, true)
    | .ok octets =>
      match noticeZeros a p octets with
      | none => return ({ p with found := 0 }, true)
      | some (p, octets) =>
        let (lines, residue) := cutLines a.lineEnd octets residue.reverse []
        let p ← nextLines c a sought s lines p
        if p.isDone then return (p, false)
        searchStream c a sought s stream fuel residue p

def leaveInput (c : Caller) (a : Asked) (name : Octets) (began : Nat) (p : Progress) (ended : Bool) :
    Work Unit := do
  match ← Act.ask (.streamInfo 0) with
  | .error _ => pure ()
  | .ok i =>
    if p.left = some 0 then
      if i.kind = .regular then Act.ask (.seek 0 (began + p.afterMatch))
    else if !ended then
      if i.kind = .regular then Act.ask (.seek 0 i.size)
      else
        match ← Tool.readAll 0 Tool.plenty [] with
        | .ok _ => pure ()
        | .error e => wrong c a name e.text

def widthOf (a : Asked) (i : FileInfo) : Nat :=
  if !a.aligned then 0
  else if i.kind = .regular then (Octets.ofNat (i.size + if a.numbers then 1 else 0)).length
  else (Octets.ofNat 9223372036854775807).length

/-- Searches a file that is open; the answer says whether it counts as a success. -/
def searchOpened (c : Caller) (a : Asked) (sought : Sought) (output : Option FileInfo) (named : Bool)
    (name : Octets) (stream : Nat) (i : FileInfo) : Work Bool := do
  let toNull : Bool := match output with
    | some o => o.mark = [bytesOf "dev", bytesOf "null"]
    | none => false
  let isListing := a.listing ≠ .none
  let brief := a.quiet || toNull || isListing
  let counting := a.counting && !brief
  let a := { a with counting }
  let quiet := counting || brief
  let most := a.most.getD 2
  let isOutput : Bool := match output with
    | some o => i.kind = .regular && o.mark = i.mark
    | none => false
  if isOutput && !quiet && 1 < most then
    wrong c a name "input file is also the output"
    return false
  let source : Source := ⟨name, named, widthOf a i⟩
  let (p, ended) ← searchStream c a sought source stream Tool.plenty [] { left := a.most, quiet, brief }
  if !quiet && (match p.foundInText with | some n => n < p.found | none => false) then
    say c s!"{Octets.text name}: binary file matches"
  if counting then put c (a.nameText source ':' ++ Octets.ofNat p.found ++ ['\n'])
  if a.quiet && 0 < p.found then throw 0
  if !isListing then
    if stream = 0 then leaveInput c a name i.position p ended
  else if (a.listing = .matching) = (0 < p.found) then
    put c (a.paint "35" name ++ [if a.zeroNames then '\x00' else '\n'])
  if a.eager then release c
  return 0 < p.found

def outputInfo : Work (Option FileInfo) := do
  match ← Act.ask (.streamInfo 1) with
  | .ok i => return some i
  | .error _ => return none

/-- Searches a file, or all files in a directory. The answer says whether there was a success. -/
def searchFile (c : Caller) (a : Asked) (sought : Sought) (output : Option FileInfo) :
    Nat → Bool → Bool → Octets → Work Bool
  | 0, _, _, _ => return false
  | fuel + 1, named, isOperand, name => do
    if name = ['-'] && isOperand then
      let shown := a.label.getD "(standard input)".toList
      match ← Act.ask (.streamInfo 0) with
      | .error e =>
        wrong c a shown e.text
        return false
      | .ok i => searchOpened c a sought output named shown 0 i
    else
      match ← Act.ask (.openFile name .read) with
      | .error e =>
        wrong c a name e.text
        return false
      | .ok stream =>
        match ← Act.ask (.streamInfo stream) with
        | .error e =>
          wrong c a name e.text
          return false
        | .ok i =>
          if i.kind = .directory && a.directories ≠ .read then
            Act.ask (.close stream)
            if a.directories = .skip then return false
            match ← Act.ask (.entries name) with
            | .error e =>
              wrong c a name e.text
              return false
            | .ok names =>
              let named := named || a.named.isNone
              names.foldlM (fun well entry => do
                let path := if name.getLast? = some '/' then name ++ entry else name ++ '/' :: entry
                let isWanted : Bool ← match ← Act.ask (.info path false) with
                  | .ok j => pure (j.kind = .regular || j.kind = .directory)
                  | .error _ => pure true
                if isWanted then return (← searchFile c a sought output fuel named false path) || well
                return well) false
          else
            let well ← searchOpened c a sought output named name stream i
            Act.ask (.close stream)
            return well

def searchAll (c : Caller) (a : Asked) (sought : Sought) (output : Option FileInfo) (named : Bool) :
    List Octets → Bool → Work Bool
  | [], well => return well
  | name :: rest, well => do
    let found ← searchFile c a sought output Tool.plenty named true name
    searchAll c a sought output named rest (well || found)

def searchOperands (c : Caller) (a : Asked) (sought : Sought) : Work Nat := do
  let output ← outputInfo
  let named := a.named.getD (1 < a.operands.length)
  let well ← match a.operands, a.directories with
    | [], .recurse => do
      match ← Act.ask (.entries ['.']) with
      | .error e =>
        wrong c a ['.'] e.text
        pure false
      | .ok names =>
        names.foldlM (fun well entry => do
          let isWanted : Bool ← match ← Act.ask (.info entry false) with
            | .ok j => pure (j.kind = .regular || j.kind = .directory)
            | .error _ => pure true
          if isWanted then
            return (← searchFile c a sought output Tool.plenty (a.named.getD true) false entry) || well
          return well) false
    | [], _ => searchAll c a sought output named [['-']] false
    | names, _ => searchAll c a sought output named names false
  release c
  let o ← get
  if o.lost then
    Tool.complain s!"{c.text}: write error\n"
    return 2
  return if o.failed then 2 else if well then 0 else 1

def run (arguments : List Octets) : Tool Nat := do
  let c : Caller := ⟨arguments.headD "grep".toList⟩
  let a ← asked c (itemsOf flags false (arguments.drop 1)) {}
  if a.version then
    let _ ← Tool.send 1 "grep (GNU grep) 3.11\n".toList
    return 0
  if a.help then
    let _ ← Tool.send 1 (Octets.ofText c.usage)
    return 0
  let a ← a.completed c
  if a.isVain then return 1
  let sought ← sought c a
  fun s next leave =>
    searchOperands c a sought {} (fun code _ => next code s) fun code _ => leave code s

end SyntaxSweep.Search
