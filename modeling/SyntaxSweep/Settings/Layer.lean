namespace SyntaxSweep

/-- What one source says: the command line, or a settings file. -/
structure Layer where
  ignored : Option (List String) := none
  extensions : Option (List String) := none
  roots : Option (List String) := none
  checker : Option String := none
  checkerArgs : Option (List String) := none
  jobs : Option Nat := none
  timeout : Option Nat := none
  deriving DecidableEq, Repr

namespace Layer

def empty : Layer := {}

def onTopOf (high low : Layer) : Layer where
  ignored := high.ignored <|> low.ignored
  extensions := high.extensions <|> low.extensions
  roots := high.roots <|> low.roots
  checker := high.checker <|> low.checker
  checkerArgs := high.checkerArgs <|> low.checkerArgs
  jobs := high.jobs <|> low.jobs
  timeout := high.timeout <|> low.timeout

def stacked (layers : List Layer) : Layer :=
  layers.foldr onTopOf empty

theorem empty_onTopOf (l : Layer) : empty.onTopOf l = l := by
  cases l; rfl

theorem onTopOf_empty (l : Layer) : l.onTopOf empty = l := by
  cases l; simp [onTopOf, empty]

theorem onTopOf_assoc (a b c : Layer) : (a.onTopOf b).onTopOf c = a.onTopOf (b.onTopOf c) := by
  simp [onTopOf, Option.orElse_eq_or, Option.or_assoc]

end Layer

end SyntaxSweep
