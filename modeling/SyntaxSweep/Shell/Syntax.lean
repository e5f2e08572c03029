import SyntaxSweep.Text.Octets

namespace SyntaxSweep.Shell

inductive Use where
  | value
  | orElse
  | whenSet
  | orRefuse
  | orAssign
  | cutBackLeast
  | cutBackMost
  | cutFrontLeast
  | cutFrontMost
  | length
  | unknown
  deriving DecidableEq, Repr

mutual

inductive Mark where
  | plain (c : Char)
  | literal (c : Char)
  | quote
  -- With `orNull` an empty value counts as none.
  | openVariable (name : Octets) (use : Use) (orNull : Bool)
  | closeVariable
  | output (body : Option Tree)
  | openSum
  | closeSum

inductive Redirection where
  | read (stream : Nat) (name : List Mark)
  | update (stream : Nat) (name : List Mark)
  | write (stream : Nat) (name : List Mark)
  | overwrite (stream : Nat) (name : List Mark)
  | extend (stream : Nat) (name : List Mark)
  | copy (stream source : Nat)
  | close (stream : Nat)
  -- The number of the source, or a dash, is what the word comes to.
  | copyNamed (stream : Nat) (source : List Mark)
  | document (stream number : Nat) (expanded : Bool)

inductive Tree where
  | simple (line : Nat) (assignments words : List (List Mark)) (redirections : List Redirection)
  | pipe (background : Bool) (commands : List Tree)
  | redirected (line : Nat) (body : Option Tree) (redirections : List Redirection)
  | background (line : Nat) (body : Option Tree) (redirections : List Redirection)
  | subshell (line : Nat) (body : Option Tree) (redirections : List Redirection)
  | both (first second : Tree)
  | either (first second : Tree)
  | sequence (first second : Tree)
  | not (body : Tree)
  | choice (test yes no : Option Tree)
  -- The loop goes on as long as the test comes out as `holds`.
  | loop (holds : Bool) (test body : Option Tree)
  | each (line : Nat) (name : Octets) (words : List (List Mark)) (body : Option Tree)
  | select (line : Nat) (word : List Mark) (cases : List (List (List Mark) × Option Tree))
  | define (line : Nat) (name : Octets) (body : Tree)

end

abbrev Word := List Mark

def isNameStart (c : Char) : Bool :=
  c.isAlpha || c == '_'

def isNameChar (c : Char) : Bool :=
  c.isAlphanum || c == '_'

def isName (octets : Octets) : Bool :=
  (octets.head?.map isNameStart).getD false && octets.all isNameChar

def isSpecial (c : Char) : Bool :=
  ['!', '#', '$', '*', '-', '?', '@'].contains c || c.isDigit

/-- The text of a word without quotes and without anything to be worked out. -/
def bareText? : Word → Option Octets
  | [] => some []
  | .plain c :: rest => (bareText? rest).map (c :: ·)
  | _ => none

/-- What stands in a word before its first mark of another kind than a plain character. -/
def plainFront : Word → Octets
  | .plain c :: rest => c :: plainFront rest
  | _ => []

def isAssignment (w : Word) : Bool :=
  let front := plainFront w
  let name := front.takeWhile isNameChar
  isName name && (front.drop name.length).head? == some '='

/-- A keyword, which means something only where a command can begin. -/
inductive Keyword where
  | negation
  | select
  | body
  | bodyEnd
  | orIf
  | otherwise
  | selectEnd
  | choiceEnd
  | each
  | choice
  | among
  | consequence
  | till
  | asLong
  | braceOpen
  | braceClose
  deriving DecidableEq, Repr

namespace Keyword

def all : List Keyword :=
  [.negation, .select, .body, .bodyEnd, .orIf, .otherwise, .selectEnd, .choiceEnd, .each, .choice,
    .among, .consequence, .till, .asLong, .braceOpen, .braceClose]

def text : Keyword → String
  | .negation => "!"
  | .select => "case"
  | .body => "do"
  | .bodyEnd => "done"
  | .orIf => "elif"
  | .otherwise => "else"
  | .selectEnd => "esac"
  | .choiceEnd => "fi"
  | .each => "for"
  | .choice => "if"
  | .among => "in"
  | .consequence => "then"
  | .till => "until"
  | .asLong => "while"
  | .braceOpen => "\x7b"
  | .braceClose => "\x7d"

def find? (octets : Octets) : Option Keyword :=
  all.find? (·.text.toList = octets)

def endsList : Keyword → Bool
  | .body | .bodyEnd | .orIf | .otherwise | .selectEnd | .choiceEnd | .consequence | .braceClose => true
  | _ => false

end Keyword

inductive Token where
  | endOfFile
  | newline
  | semicolon
  | ampersand
  | both
  | either
  | pipe
  | openParen
  | closeParen
  | endCase
  | redirection
  | word
  | keyword (k : Keyword)
  deriving DecidableEq, Repr

namespace Token

def text : Token → String
  | .endOfFile => "end of file"
  | .newline => "newline"
  | .semicolon => "\";\""
  | .ampersand => "\"&\""
  | .both => "\"&&\""
  | .either => "\"||\""
  | .pipe => "\"|\""
  | .openParen => "\"(\""
  | .closeParen => "\")\""
  | .endCase => "\";;\""
  | .redirection => "redirection"
  | .word => "word"
  | .keyword k => "\"" ++ k.text ++ "\""

/-- No command begins with the token, but a list of commands may end before it. -/
def endsList : Token → Bool
  | .endOfFile | .closeParen | .endCase => true
  | .keyword k => k.endsList
  | _ => false

end Token

inductive SyntaxProblem where
  | unexpected (found : Token) (expected : Option Token)
  | badLoopVariable
  | badFunctionName
  | openQuote
  | openVariable
  | openSum
  | openBackquote
  deriving DecidableEq, Repr

def SyntaxProblem.message : SyntaxProblem → String
  | .unexpected found none => found.text ++ " unexpected"
  | .unexpected found (some expected) => found.text ++ " unexpected (expecting " ++ expected.text ++ ")"
  | .badLoopVariable => "Bad for loop variable"
  | .badFunctionName => "Bad function name"
  | .openQuote => "Unterminated quoted string"
  | .openVariable => "Missing '\x7d'"
  | .openSum => "Missing '))'"
  | .openBackquote => "EOF in backquote substitution"

end SyntaxSweep.Shell
