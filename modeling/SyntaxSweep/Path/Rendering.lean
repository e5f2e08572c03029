import SyntaxSweep.Path.Basic

namespace SyntaxSweep.Path

def slashed (c : Char) : Char :=
  if c = '\\' then '/' else c

def slashText (p : Path) : String :=
  String.ofList ((Utf8.decodeLossy p.bytes).map slashed)

/-- The text of `p` below `root`. A path that is not below it is shown whole. -/
def textBelow (root p : Path) : String :=
  let rest := ((p.stripPrefix? root).getD p).slashText
  if rest = "" then "." else "./" ++ rest

end SyntaxSweep.Path
