import SyntaxSweep.CommandLine.Usage
import SyntaxSweep.Disk.Edit
import SyntaxSweep.Machine.Surroundings

namespace SyntaxSweep.Main

def octets (entry : IO.FS.DirEntry) : IO Bytes := do
  return (← IO.FS.readBinFile entry.path).toList

/-- What stands at an entry of a directory. What cannot be read is left blank. -/
partial def nodeAt (entry : IO.FS.DirEntry) : IO Node := do
  match (← entry.path.symlinkMetadata).type with
  | .dir =>
    try
      let mut entries := []
      for child in ← entry.path.readDir do
        entries := Node.putEntry (bytesOf child.fileName) (← nodeAt child) entries
      return .directory true entries
    catch _ => return .directory false []
  | .file =>
    let data ← try octets entry catch _ => pure []
    return .file data (data.take 2 = bytesOf "#!")
  | .symlink =>
    try
      return .link (.ofText (← IO.FS.realPath entry.path).toString)
    catch _ => return .link (.ofText "")
  | .other => return .special

/-- The disk with what ends the search for settings in a directory above the working directory. -/
def addMarks (disk : Disk) (directory : Path) : IO Disk := do
  let settings : IO.FS.DirEntry := ⟨directory.text, Files.settingsName.text⟩
  let repository : IO.FS.DirEntry := ⟨directory.text, Files.repositoryName.text⟩
  let disk ← try
      pure (disk.write (directory.join Files.settingsName) (← octets settings) false)
    catch _ => pure disk
  if ← repository.path.pathExists then
    return disk.makeDirectory (directory.join Files.repositoryName)
  return disk

def machine : IO Machine := do
  let here ← IO.currentDir
  let path := Path.ofText here.toString
  let names := path.segments.filter (!Path.isFiller ·)
  let fresh := Machine.fresh names
  let tree := fresh.disk.tree.put names (← nodeAt ⟨here, ""⟩)
  let mut disk : Disk := ⟨tree, names⟩
  for directory in path.selfAndAbove.tail do
    disk ← addMarks disk directory
  return { fresh with disk }

partial def readAll (input : IO.FS.Stream) (before : Bytes) : IO Input := do
  try
    let piece ← input.read 65536
    if piece.isEmpty then return ⟨before, none⟩ else readAll input (before ++ piece.toList)
  catch problem => return ⟨before, some (.stated problem.toString)⟩

def noGit : Git := fun _ => .error .noEntry

def run (args : List String) : IO UInt32 := do
  let stdout ← IO.getStdout
  let stderr ← IO.getStderr
  match CommandLine.read (args.map bytesOf) with
  | .error problem =>
    (if problem.isAnswer then stdout else stderr).putStr problem.message
    return problem.exitCode.toUInt32
  | .ok args =>
    let machine ← machine
    let stdin ← if args.stdin then readAll (← IO.getStdin) [] else pure ⟨[], none⟩
    let clock (before after : Workers) := after.finished.now - before.finished.now
    let around := machine.around { stdin, git := noGit, clock }
    let (ending, _) := around.run args ⟨← stdout.isTty, ← stderr.isTty⟩ ⟨machine, []⟩
    stdout.putStr ending.stdout
    stderr.putStr ending.stderr
    return ending.code.toUInt32

end SyntaxSweep.Main

def main (args : List String) : IO UInt32 :=
  SyntaxSweep.Main.run args
