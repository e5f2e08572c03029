import SyntaxSweep.Machine.Basic
import SyntaxSweep.Machine.Launch
import SyntaxSweep.Settings.Discovery
import SyntaxSweep.Shell.Starting
import SyntaxSweep.Tools.Copying
import SyntaxSweep.Tools.Searching.Running
import SyntaxSweep.Tools.Sleeping
import SyntaxSweep.Tools.Small

namespace SyntaxSweep

def Disk.files (d : Disk) : Files :=
  ⟨d.isFile, d.isPresent, d.read⟩

namespace Machine

def searchAs (letter : Char) (arguments : List Octets) : List Octets :=
  "grep".toList :: ['-', letter] :: arguments.drop 1

def tools : List (String × (List Octets → List (Octets × Octets) → Task)) :=
  [("sh", Shell.program), ("dash", Shell.program),
    ("cat", fun l _ => (Copying.run l).task),
    ("grep", fun l _ => (Search.run l).task),
    ("egrep", fun l _ => (Search.run (searchAs 'E' l)).task),
    ("fgrep", fun l _ => (Search.run (searchAs 'F' l)).task),
    ("sleep", fun l _ => (Sleeping.run l).task),
    ("true", fun _ _ => .exit 0),
    ("false", fun _ _ => .exit 1),
    ("echo", fun l _ => (Small.echo l).task),
    ("printf", fun l _ => (Small.printf l).task),
    ("pwd", fun l _ => (Small.pwd l).task),
    ("env", fun l b => (Small.env l b).task)]

def gitTool (arguments : List Octets) (_ : List (Octets × Octets)) : Task :=
  (Small.git arguments).task

def systemPrograms : Programs := fun name =>
  if name = "git".toList then some gitTool else tools.lookup (String.ofList name)

def toolImage (name : String) : Node :=
  .file (Octets.toBytes imageMark ++ bytesOf name) true

def toolDirectory : Node :=
  tools.foldl (fun d tool => d.put [bytesOf tool.1] (toolImage tool.1)) .empty

def namesOf (path : List String) : List Bytes :=
  path.map bytesOf

def deviceDirectory : Node :=
  ["null", "zero", "full"].foldl (fun d name => d.put [bytesOf name] .special) .empty

def systemTree : Node :=
  [(["bin"], toolDirectory), (["usr", "bin"], toolDirectory), (["usr", "local", "bin"], .empty),
    (["dev"], deviceDirectory), (["root"], .empty), (["tmp"], .empty), (["etc"], .empty)].foldl
    (fun tree (path, node) => tree.put (namesOf path) node) .empty

def systemSearch : List Path :=
  ["/usr/local/bin", "/usr/bin", "/bin"].map Path.ofText

def upTime : Nat := 1000

def fresh (directory : List Bytes) : Machine where
  disk := ⟨systemTree.put directory .empty, directory⟩
  search := systemSearch
  programs := systemPrograms
  now := upTime

def gitDirectory : List Bytes :=
  namesOf ["tmp", "sweep", "bin"]

def withGit (m : Machine) (git : GitScript) : Machine :=
  { m with
    disk := ⟨m.disk.tree.put (gitDirectory ++ [bytesOf "git"]) (toolImage "git"), m.disk.directory⟩
    search := Path.ofText "/tmp/sweep/bin" :: systemSearch
    git }

end Machine

end SyntaxSweep
