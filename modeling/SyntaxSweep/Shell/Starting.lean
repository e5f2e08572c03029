import SyntaxSweep.Shell.Evaluation

namespace SyntaxSweep.Shell

def usualVariables : List (Octets × Binding) :=
  [("PATH", String.ofList usualSearch), ("PS1", "# "), ("PS2", "> "), ("PS4", "+ ")].map
    fun (name, value) => (name.toList, ⟨some value.toList, false, false⟩)

def takeBindings (bindings : List (Octets × Octets)) (parent : Nat) :
    List (Octets × Binding) :=
  let taken := bindings.foldl (fun l (name, value) =>
    if isName name then State.put name ⟨some value, true, false⟩ l else l) usualVariables
  let own : List (Octets × Octets) :=
    [("IFS".toList, [' ', '\t', '\n']), ("OPTIND".toList, ['1']), ("PPID".toList, Octets.ofNat parent)]
  own.foldl (fun l (name, value) =>
    let b := (l.lookup name).getD ⟨none, false, false⟩
    State.put name { b with value := some value } l) taken

/-- The working directory by the name that is handed down, if that is right. -/
def findHere : Run Unit := do
  let named := (← get).value? "PWD".toList
  let physical : Octets ← Act.ask .here
  let here : Octets ← match named with
    | some path =>
      if path.head? ≠ some '/' then pure physical
      else
        match ← Act.ask (.info path true), ← Act.ask (.info ['.'] true) with
        | .ok i, .ok j => pure (if i.mark = j.mark then path else physical)
        | _, _ => pure physical
    | none => pure physical
  modify fun s =>
    let b := (s.bindings.lookup "PWD".toList).getD ⟨none, true, false⟩
    { s with
      here, bindings := State.put "PWD".toList { b with value := some here, exported := true } s.bindings }

def runStream (stream : Nat) : Run Unit := do
  let text ← readAll stream plenty []
  let _ ← evaluateFile plenty { ahead := text.filter (· ≠ '\x00') } 0

def runArguments (arguments : List Octets) : Run Unit := do
  let a ← turnOptions true (arguments.length + 1) { rest := arguments.drop 1 }
  let s ← get
  if a.rest = [] ∧ a.command then refuse "-c requires an argument"
  if s.has 'i' then turnOption 'm' true
  match a.command, a.rest with
  | true, text :: more =>
    match more with
    | name :: others => modify fun s => { s with name, arguments := others }
    | [] => pure ()
    checkControl
    let fromStream := s.has 's'
    let _ ← evaluateText plenty { last := !fromStream } text
    if fromStream then runStream 0
  | _, rest =>
    if rest = [] then turnOption 's' true
    if rest = [] ∨ s.has 's' then
      modify fun s => { s with arguments := rest }
      checkControl
      runStream 0
    else
      let path := rest.headD []
      let text ← scriptText path
      modify fun s => { s with name := path, arguments := rest.drop 1 }
      checkControl
      let _ ← evaluateFile plenty { ahead := text } 0

def program (arguments : List Octets) (bindings : List (Octets × Octets)) : Task :=
  .ask .identity fun (number, parent) =>
    asTask plenty
      (do
        findHere
        runArguments arguments)
      { name := arguments.headD "sh".toList
        arguments := []
        bindings := takeBindings bindings parent
        shell := number
        parent }

end SyntaxSweep.Shell
