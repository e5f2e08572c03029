import SyntaxSweep.Check.Outcome

namespace SyntaxSweep

/-- How several workers go through a list of files. Every schedule fits every list: a choice counts round
the files that are left. -/
structure Schedule where
  -- The places of the files to check next among those that are left; the first one when these are
  -- used up.
  picks : List Nat := []
  -- How many checks are made after the first failure.
  further : Nat := 0
  -- The place of the failure that is kept.
  kept : Nat := 0
  deriving DecidableEq, Repr

namespace Schedule

variable {σ α β ε : Type}

/-- What each file came to, in the order of the checks. `left` holds the files with their numbers, and
`budget` the number of checks that are still made if one has failed. -/
def gather (t : Schedule) (check : σ → α → Except ε β × σ) :
    (fuel : Nat) → (left : List (Nat × α)) → (picks : List Nat) → (budget : Option Nat) → σ →
      List (Nat × Except ε β) × σ
  | 0, _, _, _, state => ([], state)
  | fuel + 1, left, picks, budget, state =>
    let k := picks.headD 0 % left.length
    match left[k]?, budget with
    | none, _ | _, some 0 => ([], state)
    | some (n, file), budget =>
      let (answer, state) := check state file
      let budget := match budget, answer with
        | some more, _ => some (more - 1)
        | none, .error _ => some t.further
        | none, .ok _ => none
      let (rest, state) := t.gather check fuel (left.eraseIdx k) picks.tail budget state
      ((n, answer) :: rest, state)

def place (n : Nat) (b : β) : List (Nat × β) → List (Nat × β)
  | [] => [(n, b)]
  | (m, c) :: rest => if n ≤ m then (n, b) :: (m, c) :: rest else (m, c) :: place n b rest

def inOrder (l : List (Nat × β)) : List β :=
  (l.foldr (fun (n, b) placed => place n b placed) []).map (·.2)

def errorsIn (answers : List (Nat × Except ε β)) : List ε :=
  answers.filterMap fun (_, answer) =>
    match answer with
    | .error e => some e
    | .ok _ => none

def outcomesIn (answers : List (Nat × Except ε β)) : List (Nat × β) :=
  answers.filterMap fun (n, answer) =>
    match answer with
    | .error _ => none
    | .ok b => some (n, b)

/-- All outcomes in the order of the files, or the failure that is kept. -/
def collect (t : Schedule) (answers : List (Nat × Except ε β)) : Except ε (List β) :=
  let errors := errorsIn answers
  match errors[t.kept % errors.length]? with
  | some e => .error e
  | none => .ok (inOrder (outcomesIn answers))

def checkAll (t : Schedule) (check : σ → α → Except ε β × σ) (files : List α) (state : σ) :
    Except ε (List β) × σ :=
  let left := (List.range files.length).zip files
  let (answers, state) := t.gather check files.length left t.picks none state
  (t.collect answers, state)

end Schedule

end SyntaxSweep
