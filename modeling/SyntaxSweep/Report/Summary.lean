import SyntaxSweep.Check.Batch
import SyntaxSweep.Report.Style
import SyntaxSweep.Report.Seconds

namespace SyntaxSweep

def nameColumn : String :=
  "check-syntax   "

def Outcome.place (o : Outcome) : String :=
  match o.line with
  | some line => s!"{o.path.text}:{line}"
  | none => o.path.text

namespace Result

/-- A line of the summary: a mark, the name, a text in the style of the mark, and a time. -/
def line (style : Style) (mark text : String) (time : Option String) : List Span :=
  [.plain "  ", .styled style mark, .plain s!" {nameColumn} ", .styled style text] ++
    (match time with
      | some t => [.plain " ", .styled .dim t]
      | none => []) ++ [.plain "\n"]

def summary (r : Result) : List Span :=
  let time := s!"({secondsText r.elapsedMs}s)"
  match r.status with
  | .skipped => line .dim "-" "skipped (no files to check)" none
  | .passed => line .green "✓" s!"{r.files} file(s) clean" (some time)
  | .failed =>
    let failed := failures r.outcomes
    line .red "✗" s!"{failed.length} of {r.files} file(s) failed" (some time) ++
      failed.flatMap fun o => [.plain "      ", .styled .dim o.place, .plain "\n"]
  | .aborted =>
    line .yellow "⚠" s!"aborted after {r.outcomes.length} of {r.files} file(s)" none

def details (r : Result) : List Span :=
  if r.report = "" then []
  else [.plain "\n", .styled .bold "Syntax errors:", .plain "\n", .plain r.report, .plain "\n"]

end Result

end SyntaxSweep
