namespace SyntaxSweep

inductive Style where
  | bold
  | dim
  | red
  | green
  | yellow
  deriving DecidableEq, Repr

namespace Style

def opening : Style → String
  | .bold => "\x1b[1m"
  | .dim => "\x1b[2m"
  | .red => "\x1b[31m"
  | .green => "\x1b[32m"
  | .yellow => "\x1b[33m"

/-- A colour is taken back by itself, the other styles by taking back all. -/
def closing : Style → String
  | .bold | .dim => "\x1b[0m"
  | .red | .green | .yellow => "\x1b[39m"

end Style

structure Span where
  style : Option Style
  text : String
  deriving DecidableEq, Repr

namespace Span

def plain (text : String) : Span := ⟨none, text⟩

def styled (style : Style) (text : String) : Span := ⟨some style, text⟩

def render (colour : Bool) (s : Span) : String :=
  match s.style with
  | some style => if colour then style.opening ++ s.text ++ style.closing else s.text
  | none => s.text

end Span

def renderSpans (colour : Bool) (spans : List Span) : String :=
  String.join (spans.map (Span.render colour))

end SyntaxSweep
