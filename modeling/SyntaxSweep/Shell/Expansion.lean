import SyntaxSweep.Shell.Fields
import SyntaxSweep.Shell.Sum

namespace SyntaxSweep.Shell

structure Mode where
  -- The word is divided into fields, which may be patterns for the names of files.
  full : Bool := false
  tilde : Bool := false
  -- So does one after an equals sign or a colon.
  values : Bool := false
  -- The equals sign has been seen.
  equals : Bool := false
  -- The part is the word of a parameter, whose own blanks divide it.
  inner : Bool := false
  quoted : Bool := false
  -- Nothing comes of the part.
  idle : Bool := false
  deriving DecidableEq, Repr

def Mode.word : Mode := { full := true, tilde := true }

def Mode.value : Mode := { values := true }

def Mode.name : Mode := { tilde := true }

def Mode.document : Mode := { quoted := true }

def homes : List (String × String) :=
  [("root", "/root"), ("daemon", "/usr/sbin"), ("bin", "/bin"), ("nobody", "/nonexistent")]

/-- Characters that come out of a value. In quotes, those that mean something in patterns stand for
themselves. -/
def protectedCells (quoted : Bool) (octets : Octets) : List Cell :=
  octets.map fun c =>
    if quoted && (isPatternChar c || c == '\\') then .literal c else .plain c

def dividerFor (s : State) (name : Char) (full quoted : Bool) : Option Char :=
  if name = '@' ∧ quoted ∧ full then some '\x00'
  else
    match s.value? "IFS".toList with
    | none => some ' '
    | some ifs => if full ∧ !quoted then some '\x00' else ifs.head?

def State.parameter? (s : State) (name : Octets) (full quoted : Bool) : Option (List Cell) :=
  let ofText (octets : Octets) : Option (List Cell) := some (protectedCells quoted octets)
  let ofNat (n : Nat) : Option (List Cell) := ofText (Octets.ofNat n)
  match name with
  | ['$'] => ofNat s.shell
  | ['?'] => ofNat s.status
  | ['#'] => ofNat s.arguments.length
  | ['!'] => if s.lastBackground = 0 then none else ofNat s.lastBackground
  | ['-'] => ofText ("ubaCEVvxsnmiIfe".toList.filter s.has)
  | ['@'] | ['*'] =>
    let divider := (dividerFor s (name.headD '@') full quoted).map fun c => protectedCells quoted [c]
    match s.arguments with
    | [] => some []
    | first :: rest =>
      some (protectedCells quoted first ++
        rest.flatMap fun a => divider.getD [] ++ protectedCells quoted a)
  | ['0'] => ofText s.name
  | c :: _ =>
    if c.isDigit then
      let n := decimalValue name
      if n = 0 then ofText s.name else (s.arguments[n - 1]?).bind ofText
    else (s.value? name).bind ofText
  | [] => none

def refuseUnset {α : Type} (name : Octets) (what : String) : Run α :=
  refuse s!"{shown name}: {what}"

/-- The name of a home directory's owner after a tilde, and what follows it; `none` if there is no such
name. -/
def ownerAfter? (values : Bool) : Word → Octets → Option (Octets × Word)
  | .plain c :: rest, before =>
    if c = '/' ∨ (values ∧ c = ':') then some (before.reverse, .plain c :: rest)
    else ownerAfter? values rest (c :: before)
  | [], before => some (before.reverse, [])
  | .closeVariable :: rest, before => some (before.reverse, .closeVariable :: rest)
  | _, _ => none

def withTilde (s : State) (mode : Mode) (word : Word) (w : Worked) : Word × Worked :=
  match word with
  | .plain '~' :: rest =>
    match ownerAfter? mode.values rest [] with
    | none => (word, w)
    | some (owner, after) =>
      let home := if owner = [] then s.value? "HOME".toList
        else (homes.lookup (String.ofList owner)).map Octets.ofText
      if mode.idle then (after, w)
      else
        match home with
        | none => (word, w)
        | some home => (after, w.append (home.map .literal))
  | _ => (word, w)

def cutValue (use : Use) (pattern : Pattern) (cells : List Cell) : List Cell :=
  let text := Cell.text cells
  match use with
  | .cutBackLeast => ((pattern.back? false text).map fun n => cells.take n).getD cells
  | .cutBackMost => ((pattern.back? true text).map fun n => cells.take n).getD cells
  | .cutFrontLeast => ((pattern.front? false text).map fun n => cells.drop n).getD cells
  | .cutFrontMost => ((pattern.front? true text).map fun n => cells.drop n).getD cells
  | _ => cells

variable (capture : Option Tree → Run Octets)

mutual

def workOut : Nat → Mode → Word → Worked → Run (Word × Worked)
  | 0, _, word, w => return (word, w)
  | fuel + 1, mode, word, w => do
    let s ← get
    let (word, w) := if mode.tilde then withTilde s mode word w else (word, w)
    marks fuel { mode with tilde := false } (mode.inner && !mode.quoted) false word w.size w

/-- Works out marks. `divides` says that plain characters may be divided, the first of them at
`first`. -/
def marks : Nat → Mode → Bool → Bool → Word → Nat → Worked → Run (Word × Worked)
  | 0, _, _, _, word, _, w => return (word, w)
  | fuel + 1, mode, divides, quoted, word, first, w => do
    let closed : Worked :=
      if divides && !quoted && first < w.size then w.divisible first false else w
    match word with
    | .plain c :: rest =>
      let w := if mode.idle then w else w.push (.plain c)
      let mode' := if mode.values && c == '=' then { mode with equals := true } else mode
      if mode.values && ((c == '=' && !mode.equals) || c == ':') then
        let (rest, w') := withTilde (← get) mode' rest w
        marks fuel mode' divides quoted rest (if w'.size = w.size then first else w'.size) w'
      else marks fuel mode divides quoted rest first w
    | [] => return ([], closed)
    | .closeVariable :: rest | .closeSum :: rest => return (rest, closed)
    | .literal c :: rest =>
      let w := if mode.idle then closed else closed.push (.literal c)
      marks fuel mode divides quoted rest w.size w
    | .quote :: .openVariable ['@'] .value false :: .quote :: rest =>
      if quoted then
        let w := if mode.idle then closed else closed.push .quote
        marks fuel mode divides false (.openVariable ['@'] .value false :: .quote :: rest) w.size w
      else
        let (rest, w) ← usage fuel { mode with quoted := true } ['@'] .value false (.quote :: rest) closed
        marks fuel mode divides false (rest.drop 1) w.size w
    | .quote :: rest =>
      let w := if mode.idle then closed else closed.push .quote
      marks fuel mode divides (!quoted) rest w.size w
    | .openVariable name use orNull :: rest =>
      let (rest, w) ← usage fuel { mode with quoted := mode.quoted || quoted } name use orNull rest closed
      marks fuel mode divides quoted rest w.size w
    | .output body :: rest =>
      let w ←
        if mode.idle then pure closed
        else do
          let text ← capture body
          let text := ((text.filter (· ≠ '\x00')).reverse.dropWhile (· == '\n')).reverse
          let inQuotes := mode.quoted || quoted
          let w := closed.append (protectedCells inQuotes text)
          pure (if inQuotes then w else w.divisible closed.size false)
      marks fuel mode divides quoted rest w.size w
    | .openSum :: rest =>
      let (rest, inside) ←
        workOut fuel { idle := mode.idle } rest { size := closed.size }
      let w ←
        if mode.idle then pure closed
        else do
          let n ← sumValue (Cell.text (inside.since closed.size))
          let w := closed.append ((Octets.ofInt n).map .plain)
          pure (if mode.quoted || quoted then w else w.divisible closed.size false)
      marks fuel mode divides quoted rest w.size w

def usage : Nat → Mode → Octets → Use → Bool → Word → Worked → Run (Word × Worked)
  | 0, _, _, _, _, word, w => return (word, w)
  | fuel + 1, mode, name, use, orNull, rest, w => do
    let s ← get
    if use = .unknown then
      if mode.idle then return (← workOut fuel { mode with inner := false } rest w)
      refuse "Bad substitution"
    let value := s.parameter? name mode.full mode.quoted
    let isSet : Bool := match value with
      | none => false
      | some cells => !(orNull && cells.isEmpty)
    let record (from' : Nat) (w : Worked) : Worked :=
      if mode.quoted then
        if name = ['@'] ∧ s.arguments ≠ [] then w.divisible from' true else w
      else w.divisible from' false
    let withValue (w : Worked) : Worked :=
      if mode.idle then w else record w.size (w.append (value.getD []))
    match use with
    | .whenSet | .orElse =>
      let taken := (use == .whenSet) == isSet
      let w := if use = .orElse ∧ isSet then withValue w else w
      workOut fuel { mode with tilde := true, inner := true, idle := mode.idle || !taken } rest w
    | .orAssign | .orRefuse =>
      let inside : Worked := { size := w.size }
      let (after, inside) ← workOut fuel { tilde := true, idle := mode.idle || isSet } rest inside
      if mode.idle then return (after, w)
      if isSet then return (after, withValue w)
      let text := Cell.text (inside.since w.size)
      if use = .orAssign then
        assign name text false
        let again := (← get).parameter? name mode.full mode.quoted
        return (after, record w.size (w.append (again.getD [])))
      else
        match rest with
        | .closeVariable :: _ =>
          refuseUnset name ("parameter not set" ++ (if orNull then " or null" else ""))
        | _ => refuseUnset name (shown text)
    | _ =>
      if !isSet ∧ !mode.idle ∧ s.has 'u' then refuseUnset name "parameter not set"
      match use with
      | .value =>
        let after := if orNull then rest.drop 1 else rest
        return (after, if isSet then withValue w else w)
      | .length =>
        if mode.idle then return (rest.drop 1, w)
        let n := ((value.getD []).filter fun c => c ≠ .quote).length
        return (rest.drop 1,
          (if mode.quoted then id else (Worked.divisible · w.size false))
            (w.append ((Octets.ofNat n).map .plain)))
      | _ =>
        let inside : Worked := { size := w.size }
        let (after, inside) ← workOut fuel { tilde := true, idle := mode.idle || !isSet } rest inside
        if mode.idle ∨ !isSet then return (after, w)
        let pattern := Cell.pattern (inside.since w.size)
        return (after, record w.size (w.append (cutValue use pattern (value.getD []))))

end

def worked (mode : Mode) (word : Word) : Run Worked := do
  let (_, w) ← workOut capture plenty mode word {}
  return w

def expandText (mode : Mode) (word : Word) : Run Octets := do
  return Cell.text (← worked capture mode word).cells.reverse

def expandPattern (word : Word) : Run Pattern := do
  return Cell.pattern (← worked capture .name word).cells.reverse

/-- The names that a pattern stands for, `before` being spelled already. -/
def namesFor : Nat → Octets → Pattern → Run (List Octets)
  | 0, _, _ => return []
  | fuel + 1, before, pattern => do
    match pattern.general? with
    | none =>
      if before = [] then return []
      let name := before ++ pattern.text
      match ← Act.ask (.info name false) with
      | .ok _ => return [name]
      | .error _ => return []
    | some (front, piece, rest) =>
      let before := before ++ Pattern.text front
      match ← Act.ask (.entries (if before = [] then ['.'] else before)) with
      | .error _ => return []
      | .ok entries =>
        let dots := piece.head? = some '.' ∨ piece.take 2 = ['\\', '.']
        let entries := ['.'] :: ['.', '.'] :: entries
        let fitting := entries.filter fun e => (dots || e.head? != some '.') && piece.holds e
        match rest with
        | none => return fitting.map (before ++ ·)
        | some rest => do
          let found ← fitting.mapM fun e => namesFor fuel (before ++ e ++ ['/']) rest
          return found.flatten

def namesOf (cells : List Cell) : Run (List Octets) := do
  let text := Cell.text cells
  let isGeneral := text.any fun c => c == '*' || c == '?' || c == '['
  if !isGeneral ∨ (← get).has 'f' then return [text]
  let pattern := Cell.pattern cells
  match ← namesFor (pattern.length + 1) [] pattern with
  | [] => return [text]
  | names => return names.mergeSort Octets.notAfter

def expandWord (word : Word) : Run (List Octets) := do
  let w ← worked capture .word word
  let fields ← (fieldsOf w (← get).dividers none).mapM namesOf
  return fields.flatten

end SyntaxSweep.Shell
