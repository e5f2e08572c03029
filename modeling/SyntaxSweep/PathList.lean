import SyntaxSweep.Failure

namespace SyntaxSweep

def lineFeed : UInt8 := 0x0A

def rawLines : Bytes → List Bytes
  | [] => []
  | b :: rest =>
    if b = lineFeed then [b] :: rawLines rest
    else
      match rawLines rest with
      | [] => [[b]]
      | line :: more => (b :: line) :: more

def withoutEnd (line : List Char) : List Char :=
  if line.getLast? = some '\n' then withoutReturn line.dropLast else line

def textOfLine? (line : Bytes) : Option (List Char) :=
  (Utf8.decode? line).map withoutEnd

def pathOn? (line : List Char) : Option Path :=
  let name := Text.trim line
  if name = [] then none else some ⟨Utf8.encode name⟩

def readPaths (stream : Bytes) : Except Failure (List Path) :=
  match (rawLines stream).mapM textOfLine? with
  | some lines => .ok (lines.filterMap pathOn?)
  | none => .error (.fileList (.unreadable .notUtf8))

/-- A stream as it is read: the octets that came, and what kept the rest from coming. -/
structure Input where
  octets : Bytes
  failure : Option IoProblem := none

def wholeLines (stream : Bytes) : Bytes :=
  ((rawLines stream).filter (·.getLast? = some lineFeed)).flatten

/-- The paths on an input. Its lines are read one after the other, so a line that is no text is met
before a failure that comes after it. -/
def readInput (input : Input) : Except Failure (List Path) :=
  match input.failure with
  | none => readPaths input.octets
  | some cause => do
    let _ ← readPaths (wholeLines input.octets)
    throw (.fileList (.unreadable cause))

end SyntaxSweep
