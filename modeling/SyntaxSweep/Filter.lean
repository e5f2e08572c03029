import SyntaxSweep.Path.Rendering
import SyntaxSweep.Text.Occurs

namespace SyntaxSweep

/-- The extensions, without their point, and the ignore patterns. -/
structure Filter where
  extensions : List String
  ignored : List String
  deriving DecidableEq, Repr

def holdsAny (text : String) (patterns : List String) : Bool :=
  patterns.any fun p => occursIn p.toList text.toList

/-- Whether the name is a stem that is not empty, a point and the extension. A name that has octets to
spare for a stem and a point, and ends in those of the extension, is cut before these and asked for the
point. There is no answer if it cannot be cut there. -/
def endsIn? (name extension : List Char) : Option Bool :=
  let name := Utf8.encode name
  let extension := Utf8.encode extension
  if extension.length + 1 < name.length && extension.isSuffixOf name then
    (Utf8.upTo? name (name.length - extension.length)).map (·.getLast? = some Path.dot)
  else some false

def endsIn (name extension : List Char) : Bool :=
  endsIn? name extension = some true

namespace Filter

def admitsName (extensions : List String) (p : Path) : Bool :=
  match p.fileName?.bind Utf8.decode? with
  | some name => extensions.any fun e => endsIn name e.toList
  | none => false

def admits (f : Filter) (p : Path) : Bool :=
  admitsName f.extensions p && !holdsAny p.slashText f.ignored

def admitsBelow (f : Filter) (root p : Path) : Bool :=
  admitsName f.extensions p && !holdsAny (root.textBelow p) f.ignored

/-- No file in the directory can be wanted: the text of the directory with a slash after it, with
which the text of every file below begins, holds a pattern. -/
def prunes (f : Filter) (root directory : Path) : Bool :=
  holdsAny (root.textBelow directory ++ "/") f.ignored

end Filter

end SyntaxSweep
