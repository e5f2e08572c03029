import SyntaxSweep.Failure

namespace SyntaxSweep

/-- What is asked of the files of a system when settings are looked for. -/
structure Files where
  isFile : Path → Bool
  isPresent : Path → Bool
  read : Path → Except IoProblem Bytes

namespace Path

def upwards : Nat → Path → List Path
  | 0, p => [p]
  | fuel + 1, p =>
    match p.parent? with
    | some q => p :: upwards fuel q
    | none => [p]

def selfAndAbove (p : Path) : List Path :=
  upwards p.bytes.length p

end Path

namespace Files

def settingsName : Path := .ofText "check-syntax.toml"

def repositoryName : Path := .ofText ".git"

/-- The settings file of the first directory that has one, unless a repository ends before. -/
def nearestSettings (files : Files) : List Path → Option Path
  | [] => none
  | directory :: above =>
    if files.isFile (directory.join settingsName) then some (directory.join settingsName)
    else if files.isPresent (directory.join repositoryName) then none
    else nearestSettings files above

def discover (files : Files) (start : Path) : Option Path :=
  files.nearestSettings start.selfAndAbove

def layerAt (files : Files) (file : Path) : Except Failure Layer :=
  match files.read file with
  | .error cause => .error (.settings (.unreadable file cause))
  | .ok bytes =>
    match Utf8.decode? bytes with
    | none => .error (.settings (.unreadable file .notUtf8))
    | some text =>
      match Layer.read text with
      | .ok layer => .ok layer
      | .error problem => .error (.document file problem)

def layerFor (files : Files) (named : Option Path) (start : Path) : Except Failure Layer :=
  match named with
  | some file => if files.isFile file then files.layerAt file else .error (.settings (.notFound file))
  | none =>
    match files.discover start with
    | some file => files.layerAt file
    | none => .ok .empty

end Files

def Layer.settings (l : Layer) : Except Failure Settings :=
  match Settings.ofLayer l with
  | .ok s => .ok s
  | .error p => .error (.settings (.refused p))

end SyntaxSweep
