import SyntaxSweep.Shell.Reader

namespace SyntaxSweep.Shell

def specialBuiltins : List String :=
  [".", ":", "break", "continue", "eval", "exec", "exit", "export", "local", "readonly", "return",
    "set", "shift", "times", "trap", "unset"]

inductive Style where
  | bare
  | double
  | single
  | sum
  deriving DecidableEq, Repr

inductive Role where
  | ordinary
  | lineEnd
  -- Means something in patterns if it is not quoted.
  | pattern
  | backslash
  | singleQuote
  | doubleQuote
  | endQuote
  | backquote
  | dollar
  | brace
  | divider
  | openParen
  | closeParen
  deriving DecidableEq, Repr

def isPatternChar (c : Char) : Bool :=
  ['!', '*', '?', '[', ']', '=', '~', ':', '/', '-'].contains c

def Style.role (style : Style) (c : Char) : Role :=
  match style, c with
  | _, '\n' => .lineEnd
  | .single, '\x27' => .endQuote
  | .single, c => if isPatternChar c || c == '\\' then .pattern else .ordinary
  | _, '\\' => .backslash
  | _, '\x60' => .backquote
  | _, '$' => .dollar
  | _, '\x7d' => .brace
  | .bare, '\x27' => .singleQuote
  | .bare, '"' => .doubleQuote
  | .double, '"' => .endQuote
  | .bare, c => if ['<', '>', ';', '&', '|', '(', ')', ' ', '\t'].contains c then .divider else .ordinary
  | .double, c => if isPatternChar c then .pattern else .ordinary
  | .sum, '(' => .openParen
  | .sum, ')' => .closeParen
  | .sum, _ => .ordinary

/-- One of the parts that a word is in, each inside the one before. -/
structure Layer where
  style : Style
  quoted : Bool := false
  -- How many uses of variables are open.
  uses : Nat := 0
  quotedUses : Nat := 0
  inner : Bool := false
  ownUse : Bool := false
  parens : Nat := 0

inductive TextEnd where
  | word
  | text
  | mark (mark : Octets) (indented : Bool)
  deriving DecidableEq, Repr

/-- A word as far as it has been read, the last mark first. -/
structure Spelling where
  layer : Layer
  outer : List Layer := []
  out : Word := []
  quoted : Bool := false

namespace Spelling

def push (s : Spelling) (m : Mark) : Spelling :=
  { s with out := m :: s.out }

def enter (s : Spelling) (l : Layer) : Spelling :=
  { s with layer := l, outer := s.layer :: s.outer }

def leave (s : Spelling) : Spelling :=
  match s.outer with
  | [] => s
  | l :: rest => { s with layer := l, outer := rest }

def quoteMark (s : Spelling) (ends : TextEnd) : Spelling :=
  if ends = .word then s.push .quote else s

def toggleInner (s : Spelling) : Spelling :=
  if s.layer.uses = 0 then s else { s with layer := { s.layer with inner := !s.layer.inner } }

def singleQuote (s : Spelling) (ends : TextEnd) : Spelling :=
  { s with layer := { s.layer with style := .single } }.quoteMark ends

def doubleQuote (s : Spelling) (ends : TextEnd) : Spelling :=
  ({ s with layer := { s.layer with style := .double, quoted := true } }.toggleInner).quoteMark ends

def endQuote (s : Spelling) (ends : TextEnd) (c : Char) : Spelling :=
  if ends ≠ .word ∧ s.layer.uses = 0 then s.push (.plain c)
  else
    let layer :=
      if s.layer.quotedUses = 0 then { s.layer with style := .bare, quoted := false } else s.layer
    let s := { s with layer, quoted := true }
    (if c = '"' then s.toggleInner else s).quoteMark ends

/-- A backslash before a character, which may be the last one. -/
def escape (s : Spelling) (ends : TextEnd) : Option Char → Spelling
  | none => s.push (.literal '\\')
  | some c =>
    let l := s.layer
    let stays := l.quoted && c != '\\' && c != '\x60' && c != '$' &&
      (c != '"' || (ends != .word && l.uses == 0)) && (c != '\x7d' || l.uses == 0)
    { (if stays then s.push (.literal '\\') else s).push (.literal c) with quoted := true }

def brace (s : Spelling) : Spelling :=
  let l := s.layer
  if l.inner ∨ l.uses = 0 then s.push (.plain '\x7d')
  else
    let l := { l with uses := l.uses - 1 }
    let s := { s with layer := l }
    (if l.uses = 0 ∧ l.ownUse then s.leave
    else { s with layer := { l with quotedUses := l.quotedUses - 1 } }).push .closeVariable

/-- The use of a variable is opened, and its word is still to come if it has one. -/
def openUse (s : Spelling) (name : Octets) (use : Use) (orNull : Bool) : Spelling :=
  let isPlain := use = .value ∧ !orNull
  let cuts := [Use.cutBackLeast, .cutBackMost, .cutFrontLeast, .cutFrontMost].contains use
  let style : Style := if cuts then .bare else if s.layer.style = .sum then .double else s.layer.style
  let s := s.push (.openVariable name use orNull)
  if isPlain then s
  else
    let s :=
      if style ≠ s.layer.style ∨ s.layer.inner then
        s.enter { style, quoted := style ≠ .bare, ownUse := true }
      else s
    { s with layer := { s.layer with
        uses := s.layer.uses + 1
        quotedUses := if s.layer.quoted then s.layer.quotedUses + 1 else s.layer.quotedUses } }

end Spelling

namespace Read

/-- Characters of a kind, from `c` on, with the first one that is none. -/
def span (isMeant : Char → Bool) : Nat → Option Char → Octets → Read (Octets × Option Char)
  | 0, c, before => return (before.reverse, c)
  | fuel + 1, c, before =>
    match c with
    | some d =>
      if isMeant d then do
        let c ← joined
        span isMeant fuel c (d :: before)
      else return (before.reverse, some d)
    | none => return (before.reverse, none)

def useOf : Option Char → Option Use
  | some '\x7d' => some .value
  | some '-' => some .orElse
  | some '+' => some .whenSet
  | some '?' => some .orRefuse
  | some '=' => some .orAssign
  | _ => none

def useAfter (c : Option Char) : Read (Use × Bool) := do
  match c with
  | some ':' =>
    let c ← joined
    return ((useOf c).getD .unknown, true)
  | some '%' =>
    let c ← joined
    if c = some '%' then return (.cutBackMost, false)
    back c
    return (.cutBackLeast, false)
  | some '#' =>
    let c ← joined
    if c = some '#' then return (.cutFrontMost, false)
    back c
    return (.cutFrontLeast, false)
  | c => return ((useOf c).getD .unknown, false)

/-- The name of a variable or of a parameter from `c` on, with what follows it; `none` if there is
none. -/
def nameFrom (braced : Bool) (c : Option Char) : Read (Option Octets × Option Char) := do
  match c with
  | none => return (none, c)
  | some d =>
    if isNameStart d then
      let (name, c) ← span isNameChar plenty c []
      return (some name, c)
    else if d.isDigit then
      if braced then
        let (name, c) ← span Char.isDigit plenty c []
        return (some name, c)
      return (some [d], ← joined)
    else if d = '\x7d' then return (none, c)
    else
      let c ← joined
      return (if isSpecial d then some [d] else none, c)

def useFrom (s : Spelling) (c : Char) : Read Spelling := do
  if c ≠ '\x7b' then
    let (name, c) ← nameFrom false (some c)
    back c
    return s.openUse (name.getD []) .value false
  let c ← joined
  if c = some '#' then
    let d ← joined
    match d with
    | some e =>
      if isNameStart e ∨ e.isDigit then
        let (name, after) ← nameFrom true d
        back after
        return s.openUse (name.getD []) (if after = some '\x7d' then .length else .unknown) false
    | none => pure ()
    let after ← joined
    if d = some '\x7d' ∨ after ≠ some '\x7d' then
      back after
      let (use, orNull) ← useAfter d
      return s.openUse ['#'] use orNull
    back after
    match d with
    | some e =>
      if isSpecial e then return s.openUse [e] .length false
      return s.openUse [] .unknown false
    | none => return s.openUse [] .unknown false
  match ← nameFrom true c with
  | (none, after) =>
    back after
    return s.openUse [] .unknown false
  | (some name, after) =>
    let (use, orNull) ← useAfter after
    return s.openUse name use orNull

/-- Looks whether the line that begins with `c` is the mark of a document. What was read of another
line is read again. -/
def isMarkLine (mark : Octets) (c : Option Char) : Nat → Octets → Read (Bool × Option Char)
  | 0, _ => return (false, c)
  | _ + 1, [] => do
    if c = some '\n' ∨ c = none then
      lineEnd
      return (true, none)
    return (false, c)
  | fuel + 1, m :: rest => do
    if c ≠ some m then return (false, c)
    let d ← next
    let (isMark, e) ← isMarkLine mark d fuel rest
    if isMark then return (true, none)
    back e
    return (false, c)

def skipTabs : Nat → Option Char → Read (Option Char)
  | 0, c => return c
  | fuel + 1, c => if c = some '\t' then do skipTabs fuel (← next) else return c

def lineStart (ends : TextEnd) (c : Option Char) : Read (Option Char) := do
  match ends with
  | .mark mark indented =>
    let c ← if indented then skipTabs plenty c else pure c
    let (_, c) ← isMarkLine mark c (mark.length + 1) mark
    return c
  | _ => return c

def backquoted (quoted : Bool) : Nat → Octets → Read Octets
  | 0, before => return before.reverse
  | fuel + 1, before => do
    match ← joined with
    | some '\x60' => return before.reverse
    | some '\\' =>
      match ← next with
      | none => throw .openBackquote
      | some c =>
        if c = '\n' then lineEnd
        if c = '\\' ∨ c = '\x60' ∨ c = '$' ∨ (quoted ∧ c = '"') then backquoted quoted fuel (c :: before)
        else backquoted quoted fuel (c :: '\\' :: before)
    | none => throw .openBackquote
    | some c =>
      if c = '\n' then lineEnd
      backquoted quoted fuel (c :: before)

def redirectionKind (c : Char) : Read RedirectionKind := do
  let d ← joined
  match c, d with
  | '>', some '>' => return .extend
  | '>', some '|' => return .overwrite
  | '<', some '>' => return .update
  | _, some '&' => return .copy
  | '<', some '<' =>
    let e ← joined
    if e = some '-' then return .document true
    back e
    return .document false
  | _, _ =>
    back d
    return if c = '>' then .write else .read

/-- The end of a word: it is a token, unless it belongs to the redirection that follows. -/
def wordEnd (s : Spelling) (c : Option Char) : Read Token := do
  let word := s.out.reverse
  let stream? : Option (Option Nat) := match word with
    | [] => some none
    | [.plain d] => if d.isDigit then some (some (d.toNat - '0'.toNat)) else none
    | _ => none
  match c, stream?, s.quoted with
  | some '<', some stream, false | some '>', some stream, false =>
    let c := c.getD '<'
    let kind ← redirectionKind c
    modify fun r => { r with kind, stream := stream.getD (if c = '>' then 1 else 0) }
    found .redirection
  | _, _, _ =>
    back c
    modify fun r => { r with word, quoted := s.quoted }
    found .word

def checkClosed (s : Spelling) (ends : TextEnd) : Read Unit := do
  if s.layer.style = .sum then throw .openSum
  if s.layer.style ≠ .bare ∧ ends = .word then throw .openQuote
  if s.layer.uses ≠ 0 then throw .openVariable

def skipComment : Nat → Read Unit
  | 0 => pure ()
  | fuel + 1 => do
    match ← next with
    | some '\n' => back (some '\n')
    | none => pure ()
    | some _ => skipComment fuel

/-- Whether a list of commands is a line of a script, a part that must hold a command, or one that may
be empty. -/
inductive Place where
  | line
  | inside
  | maybeEmpty
  deriving DecidableEq, Repr

def commandLook : Look := { newlines := true, keywords := true, aliases := true }

def redirectionWith (r : Reader) : Redirection :=
  match r.kind with
  | .read => .read r.stream r.word
  | .update => .update r.stream r.word
  | .write => .write r.stream r.word
  | .overwrite => .overwrite r.stream r.word
  | .extend => .extend r.stream r.word
  | .document _ => .document r.stream r.documents.size (!r.quoted)
  | .copy =>
    match r.word with
    | [.plain '-'] => .close r.stream
    | [.plain d] => if d.isDigit then .copy r.stream (d.toNat - '0'.toNat) else .copyNamed r.stream r.word
    | word => .copyNamed r.stream word

def markText (w : Word) : Octets :=
  w.filterMap fun m =>
    match m with
    | .plain c | .literal c => some c
    | _ => none

def promise (r : Reader) : Reader :=
  match r.kind with
  | .document indented =>
    let p : Promise := ⟨r.documents.size, markText r.word, indented, !r.quoted⟩
    { r with promises := r.promises ++ [p], documents := r.documents.push [] }
  | _ => r

def then? (before : Option Tree) (t : Tree) : Option Tree :=
  match before with
  | none => some t
  | some b => some (.sequence b t)

def inBackground : Tree → Tree
  | .pipe _ commands => .pipe true commands
  | .redirected line body redirections => .background line body redirections
  | t => .background 0 (some t) []

mutual

def spell : Nat → TextEnd → Spelling → Option Char → Read (Spelling × Option Char)
  | 0, _, s, c => return (s, c)
  | _ + 1, _, s, none => return (s, none)
  | fuel + 1, ends, s, some d => do
    match ← mark fuel ends s d with
    | none => return (s, some d)
    | some s =>
      let c ← if s.layer.style = .single then next else joined
      let c ← if d = '\n' then lineStart ends c else pure c
      spell fuel ends s c

/-- A word with one more character, or with all that begins with it; `none` if it ends there. -/
def mark : Nat → TextEnd → Spelling → Char → Read (Option Spelling)
  | 0, _, _, _ => return none
  | fuel + 1, ends, s, d => do
    match s.layer.style.role d with
    | .ordinary => return some (s.push (.plain d))
    | .pattern =>
      let stands := ends = .word ∨ s.layer.quoted ∨ s.layer.uses ≠ 0
      return some (s.push (if stands then .literal d else .plain d))
    | .lineEnd =>
      if s.layer.style = .bare ∧ s.layer.uses = 0 then return none
      lineEnd
      return some (s.push (.plain d))
    | .backslash => return some (s.escape ends (← next))
    | .singleQuote => return some (s.singleQuote ends)
    | .doubleQuote => return some (s.doubleQuote ends)
    | .endQuote => return some (s.endQuote ends d)
    | .brace => return some s.brace
    | .openParen =>
      return some ({ s with layer := { s.layer with parens := s.layer.parens + 1 } }.push (.plain d))
    | .closeParen =>
      if 0 < s.layer.parens then
        return some
          ({ s with layer := { s.layer with parens := s.layer.parens - 1 } }.push (.plain d))
      let e ← joined
      if e = some ')' then return some (s.push .closeSum).leave
      back e
      return some (s.push (.plain d))
    | .divider =>
      if s.layer.uses = 0 then return none
      return some (s.push (.plain d))
    | .backquote =>
      if (← get).look.mark then return some (s.push (.plain d))
      let text ← backquoted s.layer.quoted plenty []
      let outside ← get
      set { outside with ahead := text, below := [], line := 1, promises := [], again := false }
      let body ← list fuel .maybeEmpty
      modify fun r => { r with
        ahead := outside.ahead, below := outside.below, line := outside.line
        promises := outside.promises, again := false }
      return some (s.push (.output body))
    | .dollar =>
      let e ← joined
      let isUse := match e with
        | some f => f == '(' || f == '\x7b' || isNameStart f || isSpecial f
        | none => false
      if (← get).look.mark ∨ !isUse then
        back e
        return some (s.push (.plain d))
      if e ≠ some '(' then return some (← useFrom s (e.getD '$'))
      let f ← joined
      if f = some '(' then return some ((s.push .openSum).enter { style := .sum, quoted := true })
      back f
      return some (s.push (.output (← substitution fuel)))

def substitution : Nat → Read (Option Tree)
  | 0 => return none
  | fuel + 1 => do
    let promises := (← get).promises
    modify fun r => { r with promises := [], again := false }
    let body ← list fuel .maybeEmpty
    if (← token fuel) ≠ .closeParen then unexpected (some .closeParen)
    let outside ← get
    set { outside with ahead := [], below := [], line := 1 }
    documents fuel
    modify fun r => { r with
      ahead := outside.ahead, below := outside.below, line := outside.line, promises, again := false }
    return body

def documents : Nat → Read Unit
  | 0 => pure ()
  | fuel + 1 => do
    match (← get).promises with
    | [] => pure ()
    | p :: rest =>
      modify fun r => { r with promises := rest, again := false }
      let c ← if p.expanded then joined else next
      let ends := TextEnd.mark p.mark p.indented
      let c ← lineStart ends c
      let layer : Layer :=
        if p.expanded then { style := .double, quoted := true } else { style := .single }
      let (s, _) ← spell fuel ends { layer } c
      checkClosed s ends
      modify fun r => { r with
        documents := r.documents.setIfInBounds p.number s.out.reverse, quoted := s.quoted
        token := .word }
      documents fuel

def bareToken : Nat → Read Token
  | 0 => return .endOfFile
  | fuel + 1 => do
    let r ← get
    if r.again then
      set { r with again := false }
      return r.token
    let doubled (c : Char) (two one : Token) : Read Token := do
      let d ← joined
      if d = some c then found two
      else
        back d
        found one
    match ← joined with
    | none => found .endOfFile
    | some ' ' | some '\t' => bareToken fuel
    | some '#' =>
      skipComment plenty
      bareToken fuel
    | some '\n' =>
      lineEnd
      found .newline
    | some '&' => doubled '&' .both .ampersand
    | some '|' => doubled '|' .either .pipe
    | some ';' => doubled ';' .endCase .semicolon
    | some '(' => found .openParen
    | some ')' => found .closeParen
    | c =>
      let (s, c) ← spell fuel .word { layer := { style := .bare } } c
      checkClosed s .word
      wordEnd s c

def tokenOnLine : Nat → Bool → Read Token
  | 0, _ => return .endOfFile
  | fuel + 1, newlines => do
    let t ← bareToken fuel
    if newlines ∧ t = .newline then
      documents fuel
      look {}
      tokenOnLine fuel newlines
    else return t

def tokenWith : Nat → Look → Read Token
  | 0, _ => return .endOfFile
  | fuel + 1, l => do
    let t ← tokenOnLine fuel l.newlines
    let r ← get
    let l := { l with
      keywords := l.keywords || r.look.keywords, aliases := l.aliases || r.look.aliases }
    look {}
    match t, r.quoted, bareText? r.word with
    | .word, false, some text =>
      match if l.keywords then Keyword.find? text else none with
      | some k => found (.keyword k)
      | none =>
        let isEntered := r.below.any (·.name = text)
        match if l.aliases && !isEntered then r.aliases.lookup text else none with
        | some meaning =>
          if meaning ≠ [] then enterAlias text meaning
          tokenWith fuel l
        | none => return t
    | _, _, _ => return t

def token : Nat → Read Token
  | 0 => return .endOfFile
  | fuel + 1 => do tokenWith fuel (← get).look

def redirection : Nat → Read Redirection
  | 0 => return .close 0
  | fuel + 1 => do
    let before ← get
    match before.kind with
    | .document _ => look { mark := true }
    | _ => pure ()
    if (← token fuel) ≠ .word then unexpected none
    modify fun r => { r with kind := before.kind, stream := before.stream }
    let r ← get
    let redirection := redirectionWith r
    set (promise r)
    return redirection

def redirections : Nat → Read (List Redirection)
  | 0 => return []
  | fuel + 1 => do
    if (← token fuel) ≠ .redirection then
      again
      return []
    let first ← redirection fuel
    return first :: (← redirections fuel)

def list : Nat → Place → Read (Option Tree)
  | 0, _ => return none
  | fuel + 1, place => commands fuel place (place = .maybeEmpty) none

def commands : Nat → Place → Bool → Option Tree → Read (Option Tree)
  | 0, _, _, before => return before
  | fuel + 1, place, mayEnd, before => do
    look { commandLook with newlines := place ≠ .line }
    let atEnd : Read (Option Tree) := do
      documents fuel
      modify fun r => { r with again := true, token := .endOfFile }
      return before
    match ← token fuel with
    | .newline =>
      documents fuel
      return before
    | .endOfFile => atEnd
    | t =>
      again
      if place ≠ .line ∧ mayEnd ∧ t.endsList then return before
      let first ← andOr fuel
      let t ← token fuel
      let before := then? before (if t = .ampersand then inBackground first else first)
      match t with
      | .endOfFile =>
        documents fuel
        modify fun r => { r with again := true, token := .endOfFile }
        return before
      | .newline =>
        again
        commands fuel place true before
      | .ampersand | .semicolon => commands fuel place true before
      | _ =>
        if place = .line then unexpected none
        again
        return before

/-- Pipelines of which each depends on how the one before has ended. -/
def andOr : Nat → Read Tree
  | 0 => return .simple 0 [] [] []
  | fuel + 1 => do moreOf fuel (← pipeline fuel)

def moreOf : Nat → Tree → Read Tree
  | 0, t => return t
  | fuel + 1, t => do
    match ← token fuel with
    | .both =>
      look commandLook
      moreOf fuel (.both t (← pipeline fuel))
    | .either =>
      look commandLook
      moreOf fuel (.either t (← pipeline fuel))
    | _ =>
      again
      return t

def pipeline : Nat → Read Tree
  | 0 => return .simple 0 [] [] []
  | fuel + 1 => do
    let turned := (← token fuel) = .keyword .negation
    if turned then look { keywords := true, aliases := true } else again
    let first ← command fuel
    let rest ← fed fuel
    let t := if rest.isEmpty then first else .pipe false (first :: rest)
    return if turned then .not t else t

def fed : Nat → Read (List Tree)
  | 0 => return []
  | fuel + 1 => do
    if (← token fuel) ≠ .pipe then
      again
      return []
    look commandLook
    let t ← command fuel
    return t :: (← fed fuel)

def expect : Nat → Keyword → Read Unit
  | 0, _ => pure ()
  | fuel + 1, k => do
    if (← token fuel) ≠ .keyword k then unexpected (some (.keyword k))

def command : Nat → Read Tree
  | 0 => return .simple 0 [] [] []
  | fuel + 1 => do
    let line := (← get).line
    match ← token fuel with
    | .word | .redirection =>
      again
      simple fuel line [] [] []
    | .keyword .choice => do
      let t ← choice fuel
      expect fuel .choiceEnd
      compound fuel line (some t)
    | .keyword .asLong => do
      let t ← loop fuel true
      compound fuel line (some t)
    | .keyword .till => do
      let t ← loop fuel false
      compound fuel line (some t)
    | .keyword .each => do
      let t ← each fuel line
      compound fuel line (some t)
    | .keyword .select => do
      let t ← select fuel line
      compound fuel line (some t)
    | .openParen => do
      let body ← list fuel .inside
      if (← token fuel) ≠ .closeParen then unexpected (some .closeParen)
      look { keywords := true, aliases := true }
      return .subshell line body (← redirections fuel)
    | .keyword .braceOpen => do
      let body ← list fuel .inside
      expect fuel .braceClose
      compound fuel line body
    | _ => unexpected none

def compound : Nat → Nat → Option Tree → Read Tree
  | 0, _, _ => return .simple 0 [] [] []
  | fuel + 1, line, body => do
    look { keywords := true, aliases := true }
    match ← redirections fuel, body with
    | [], some t => return t
    | l, body => return .redirected line body l

def choice : Nat → Read Tree
  | 0 => return .simple 0 [] [] []
  | fuel + 1 => do
    let test ← list fuel .inside
    expect fuel .consequence
    let yes ← list fuel .inside
    match ← token fuel with
    | .keyword .orIf => return .choice test yes (some (← choice fuel))
    | .keyword .otherwise => return .choice test yes (← list fuel .inside)
    | _ =>
      again
      return .choice test yes none

def loop : Nat → Bool → Read Tree
  | 0, _ => return .simple 0 [] [] []
  | fuel + 1, holds => do
    let test ← list fuel .inside
    expect fuel .body
    let body ← list fuel .inside
    expect fuel .bodyEnd
    return .loop holds test body

def words : Nat → Read (List Word)
  | 0 => return []
  | fuel + 1 => do
    if (← token fuel) ≠ .word then return []
    let w := (← get).word
    return w :: (← words fuel)

def each : Nat → Nat → Read Tree
  | 0, _ => return .simple 0 [] [] []
  | fuel + 1, line => do
    let t ← token fuel
    let r ← get
    let name := (bareText? r.word).getD []
    if t ≠ .word ∨ r.quoted ∨ !isName name then throw .badLoopVariable
    look commandLook
    let items ←
      if (← token fuel) = .keyword .among then do
        let items ← words fuel
        let r ← get
        if r.token ≠ .newline ∧ r.token ≠ .semicolon then unexpected none
        pure items
      else do
        if (← get).token ≠ .semicolon then again
        pure [[.quote, .openVariable ['@'] .value false, .quote]]
    look commandLook
    expect fuel .body
    let body ← list fuel .inside
    expect fuel .bodyEnd
    return .each line name items body

def select : Nat → Nat → Read Tree
  | 0, _ => return .simple 0 [] [] []
  | fuel + 1, line => do
    if (← token fuel) ≠ .word then unexpected (some .word)
    let word := (← get).word
    look commandLook
    expect fuel .among
    return .select line word (← cases fuel)

def cases : Nat → Read (List (List Word × Option Tree))
  | 0 => return []
  | fuel + 1 => do
    let l : Look := { newlines := true, keywords := true }
    look l
    let t ← token fuel
    if t = .keyword .selectEnd then return []
    if t = .openParen then let _ ← token fuel
    let patterns ← patterns fuel
    if (← get).token ≠ .closeParen then unexpected (some .closeParen)
    let body ← list fuel .maybeEmpty
    look l
    match ← token fuel with
    | .keyword .selectEnd => return [(patterns, body)]
    | .endCase => return (patterns, body) :: (← cases fuel)
    | _ => unexpected (some .endCase)

def patterns : Nat → Read (List Word)
  | 0 => return []
  | fuel + 1 => do
    let w := (← get).word
    if (← token fuel) ≠ .pipe then return [w]
    let _ ← token fuel
    return w :: (← patterns fuel)

/-- A command that is made of words, after those that were read already, the last one first. -/
def simple : Nat → Nat → List Word → List Word → List Redirection → Read Tree
  | 0, _, _, _, _ => return .simple 0 [] [] []
  | fuel + 1, line, assignments, arguments, redirections => do
    look { aliases := arguments.isEmpty }
    match ← token fuel with
    | .word =>
      let w := (← get).word
      if arguments.isEmpty ∧ isAssignment w then
        simple fuel line (w :: assignments) arguments redirections
      else simple fuel line assignments (w :: arguments) redirections
    | .redirection =>
      let r ← redirection fuel
      simple fuel line assignments arguments (r :: redirections)
    | t =>
      match t, assignments, arguments, redirections with
      | .openParen, [], [w], [] =>
        if (← token fuel) ≠ .closeParen then unexpected (some .closeParen)
        let name := (bareText? w).getD []
        if !isName name ∨ specialBuiltins.contains (String.ofList name) then throw .badFunctionName
        look commandLook
        let line := (← get).line
        return .define line name (← command fuel)
      | _, _, _, _ =>
        again
        return .simple line assignments.reverse arguments.reverse redirections.reverse

end

/-- A complete command, as far as there is one, and whether nothing follows it. -/
def line : Read (Option Tree × Bool) := do
  modify fun r => { r with again := false, look := {}, promises := [] }
  let t ← list plenty .line
  let r ← get
  return (t, r.again && r.token == .endOfFile)

/-- A text in which only what is worked out has a meaning, as in a document. -/
def text (octets : Octets) : Word :=
  let layer : Layer := { style := .double, quoted := true }
  let reading : Read Word := do
    let c ← joined
    let (s, _) ← spell plenty .text { layer } c
    return s.out.reverse
  match reading.run { ahead := octets } with
  | .ok w _ => w
  | .error _ _ => []

end Read

end SyntaxSweep.Shell
