import SyntaxSweep.Check.Batch
import SyntaxSweep.Text.Quoted

namespace SyntaxSweep

inductive Json where
  | null
  | boolean (b : Bool)
  | number (n : Nat)
  | string (text : String)
  | array (items : List Json)
  | object (fields : List (String × Json))

namespace Json

/-- A character inside quotes. Only quotes, backslashes and control characters are escaped. -/
def escaped (c : Char) : List Char :=
  match c with
  | '"' => ['\\', '"']
  | '\\' => ['\\', '\\']
  | '\x08' => ['\\', 'b']
  | '\x0c' => ['\\', 'f']
  | '\n' => ['\\', 'n']
  | '\r' => ['\\', 'r']
  | '\t' => ['\\', 't']
  | c =>
    if c.toNat < 0x20 then
      ['\\', 'u', '0', '0', Nat.digitChar (c.toNat / 16), Nat.digitChar (c.toNat % 16)]
    else [c]

def stringText (text : String) : List Char :=
  '"' :: text.toList.flatMap escaped ++ ['"']

def newLine (level : Nat) : List Char :=
  '\n' :: List.replicate (2 * level) ' '

mutual

def lay (level : Nat) : Json → List Char
  | .null => "null".toList
  | .boolean b => (if b then "true" else "false").toList
  | .number n => Nat.toDigits 10 n
  | .string text => stringText text
  | .array [] => ['[', ']']
  | .array (item :: items) =>
    '[' :: newLine (level + 1) ++ lay (level + 1) item ++ layItems (level + 1) items ++
      newLine level ++ [']']
  | .object [] => ['\x7b', '\x7d']
  | .object ((key, value) :: fields) =>
    '\x7b' :: newLine (level + 1) ++ stringText key ++ [':', ' '] ++ lay (level + 1) value ++
      layFields (level + 1) fields ++ newLine level ++ ['\x7d']

def layItems (level : Nat) : List Json → List Char
  | [] => []
  | item :: items => ',' :: newLine level ++ lay level item ++ layItems level items

def layFields (level : Nat) : List (String × Json) → List Char
  | [] => []
  | (key, value) :: fields =>
    ',' :: newLine level ++ stringText key ++ [':', ' '] ++ lay level value ++
      layFields level fields

end

def text (j : Json) : String :=
  String.ofList (j.lay 0)

end Json

/-- An outcome as an object; there is none for a path that is no text. -/
def Outcome.json? (o : Outcome) : Option Json := do
  let path ← strictText? o.path.bytes
  return .object [("diagnostic", .string o.diagnostic),
    ("line", match o.line with | some n => .number n | none => .null),
    ("path", .string path), ("succeeded", .boolean o.succeeded)]

def Result.json? (r : Result) : Option Json := do
  let outcomes ← r.outcomes.mapM Outcome.json?
  return .object [("elapsed_ms", .number r.elapsedMs), ("files", .number r.files),
    ("outcomes", .array outcomes), ("report", .string r.report),
    ("status", .string r.status.name)]

def Result.document (r : Result) : Except IoProblem String :=
  match r.json? with
  | some j => .ok j.text
  | none => .error .unspeakablePath

end SyntaxSweep
