import SyntaxSweep.Failure

namespace SyntaxSweep

def besideHere (name : String) : Path :=
  (Path.ofText ".").join (.ofText name)

/-- The paths of the wanted names below `top` that are files. Of paths with the same components the
first stays. -/
def scopeStaged (filter : Filter) (isFile : Path → Bool) (top : Path) (names : List String) :
    List Path :=
  names.foldl (fun chosen name =>
    let path := top.join (.ofText name)
    if filter.admits (besideHere name) ∧ isFile path ∧
        path.components ∉ chosen.map Path.components then chosen ++ [path]
    else chosen) []

structure GitAnswer where
  code : Int
  stdout : Bytes
  stderr : Bytes
  deriving DecidableEq, Repr

abbrev Git := List String → Except IoProblem GitAnswer

def topArgs : List String :=
  ["rev-parse", "--show-toplevel"]

def namesArgs : List String :=
  ["diff", "--cached", "--name-only", "--diff-filter=ACMR"]

def askGit (git : Git) (args : List String) : Except Failure String :=
  match git args with
  | .error cause => .error (.fileList (.gitNotStarted cause))
  | .ok a =>
    if a.code = 0 then .ok (lossyText a.stdout)
    else .error (.fileList (.gitFailed args (trimmed (lossyText a.stderr))))

def namesIn (text : String) : List String :=
  ((lines text.toList).filter (· ≠ [])).map String.ofList

def stagedFiles (filter : Filter) (isFile : Path → Bool) (git : Git) :
    Except Failure (List Path) := do
  let top ← askGit git topArgs
  let names ← askGit git namesArgs
  return scopeStaged filter isFile (.ofText (trimmed top)) (namesIn names)

end SyntaxSweep
