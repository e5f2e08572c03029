import SyntaxSweep.Proofs.CommandLine.Contents
import SyntaxSweep.Proofs.Text.Utf8
import Mathlib.Algebra.Group.Nat.Defs
import Mathlib.Data.List.Basic

namespace SyntaxSweep.CommandLine

def Named.name : Named → String
  | .opt .root => "run-on"
  | .opt .extension => "extension"
  | .opt .pattern => "ignore"
  | .opt .checker => "checker"
  | .opt .jobs => "jobs"
  | .opt .timeout => "timeout"
  | .opt .config => "config"
  | .opt .output => "output"
  | .flag .stdin => "stdin"
  | .flag .staged => "staged"
  | .flag .verbose => "verbose"
  | .flag .help => "help"
  | .flag .version => "version"

def Named.dashed (n : Named) : Bytes :=
  dash :: dash :: bytesOf n.name

def Opt.spelled : (o : Opt) → o.Content → Bytes
  | .root, s | .extension, s | .pattern, s | .checker, s => bytesOf s
  | .jobs, n | .timeout, n => bytesOf (Nat.repr n)
  | .config, p => Path.bytes p
  | .output, f => bytesOf (Format.name f)

def Opt.Fits : (o : Opt) → o.Content → Prop
  | .root, _ | .extension, _ | .pattern, _ | .checker, _ | .output, _ => True
  | .jobs, n | .timeout, n => Nat.lt n (Nat.pow 2 64)
  | .config, p => Path.bytes p ≠ []

/-- An option with a content, or a flag, as it stands on a line. The value of an option hangs on it after
an equals sign, or follows as a token of its own. -/
inductive Item where
  | hung (o : Opt) (c : o.Content)
  | apart (o : Opt) (c : o.Content)
  | flag (f : Flag)

namespace Item

def tokens : Item → List Bytes
  | .hung o c => [(Named.opt o).dashed ++ equals :: o.spelled c]
  | .apart o c => [(Named.opt o).dashed, o.spelled c]
  | .flag f => [(Named.flag f).dashed]

/-- A value of its own token does not begin with a dash, or is a dash alone. -/
def Plain : Item → Prop
  | .apart o c => (o.spelled c).head? ≠ some dash ∨ o.spelled c = [dash]
  | .hung .. | .flag _ => True

instance : DecidablePred Plain
  | .apart _ _ => inferInstanceAs (Decidable (_ ∨ _))
  | .hung _ _ | .flag _ => inferInstanceAs (Decidable True)

def content? (o : Opt) : Item → Option o.Content
  | .hung other c | .apart other c => if h : other = o then some (h ▸ c) else none
  | .flag _ => none

def raises (f : Flag) : Item → Bool
  | .hung .. | .apart .. => false
  | .flag g => g = f

end Item

/-- The items give all that the second arguments hold beyond the first, files apart: for each option its
contents in their order, and each flag once. -/
structure Leads (b : Arguments) (items : List Item) (a : Arguments) : Prop where
  contents : ∀ o, b.contents o ++ items.filterMap (·.content? o) = a.contents o
  raised : ∀ f, (b.raised f).toNat + items.countP (·.raises f) = (a.raised f).toNat

/-- A line of items and of files, which follow two dashes if there are any. -/
def commandLine (items : List Item) (files : List Path) : List Bytes :=
  items.flatMap Item.tokens ++ if files = [] then [] else [dash, dash] :: files.map Path.bytes

section Values

theorem textValue_bytesOf (s : String) : textValue (bytesOf s) = .ok s := by
  have hdecode : Utf8.decode? (bytesOf s) = some s.toList := Utf8.decode?_eq_some_iff.2 rfl
  rw [textValue, strictText?, hdecode, Option.map_some, String.ofList_toList]

theorem count?_digits {digits : List Char} (hne : digits ≠ []) (h : ∀ d ∈ digits, d.isDigit) :
    count? digits =
      if Nat.ofDigitChars 10 digits 0 < Nat.pow 2 64 then some (Nat.ofDigitChars 10 digits 0)
      else none := by
  have hplus : ∀ r, digits ≠ '+' :: r := by
    rintro r rfl
    exact absurd (h '+' List.mem_cons_self) (by decide)
  have hall : ¬(digits = [] ∨ !digits.all Char.isDigit) := by
    simpa [hne] using h
  have hvalue : digits.foldl (fun n d => n * 10 + (d.toNat - '0'.toNat)) 0 =
      Nat.ofDigitChars 10 digits 0 := by
    rw [Nat.ofDigitChars_eq_foldl]
    simp only [Nat.mul_comm]
  unfold count?
  split
  · exact absurd rfl (hplus _)
  · simp only [if_neg hall, hvalue]

theorem countValue_repr {n : Nat} (h : n < Nat.pow 2 64) : countValue (bytesOf n.repr) = .ok n := by
  have hcount : count? n.repr.toList = some n := by
    rw [Nat.toList_repr, count?_digits Nat.toDigits_ne_nil
      fun _ => Nat.isDigit_of_mem_toDigits (by decide) (by decide), Nat.ofDigitChars_ten_toDigits,
      if_pos h]
  rw [countValue, textValue_bytesOf]
  simp only [bind, Except.bind, hcount]

theorem content?_spelled {o : Opt} {c : o.Content} (h : o.Fits c) :
    o.content? (o.spelled c) = .ok c := by
  cases o with
  | root | extension | pattern | checker => exact textValue_bytesOf c
  | jobs | timeout => exact countValue_repr h
  | config => exact if_neg h
  | output => cases c <;> rfl

end Values

variable {p : Progress} {a b : Arguments} {o : Opt} {c : o.Content} {f : Flag} {i : Item}
  {items : List Item}

section Tokens

theorem ofBytes_dashed (n : Named) : Token.ofBytes n.dashed = .long (bytesOf n.name) none := by
  cases n with
  | opt o => cases o <;> decide
  | flag f => cases f <;> decide

theorem ofBytes_hung (n : Named) (v : Bytes) :
    Token.ofBytes (n.dashed ++ equals :: v) = .long (bytesOf n.name) (some v) := by
  cases n with
  | opt o => cases o <;> rfl
  | flag f => cases f <;> rfl

theorem ofBytes_plain {v : Bytes} (h : v.head? ≠ some dash ∨ v = [dash]) :
    Token.ofBytes v = .word := by
  match v, h with
  | [], _ | [_], _ => rfl
  | b :: c :: rest, h =>
    have hb : b ≠ dash := fun hb => by simp [hb] at h
    rw [Token.ofBytes, if_pos hb]

theorem ofLong?_name (n : Named) : ofLong? (bytesOf n.name) = some n := by
  cases n with
  | opt o => cases o <;> decide
  | flag f => cases f <;> decide

theorem read_long (p : Progress) {token name : Bytes} {value : Option Bytes}
    (h : Token.ofBytes token = .long name value) (rest : List Bytes) :
    p.read (token :: rest) = p.long name value >>= fun q => q.read rest := by
  rw [Progress.read, h]

theorem read_flag (p : Progress) (f : Flag) (rest : List Bytes) :
    p.read ((Named.flag f).dashed :: rest) = p.flag f >>= fun q => q.read rest := by
  rw [read_long p (ofBytes_dashed _), Progress.long, ofLong?_name]
  rfl

theorem read_hung (p : Progress) (o : Opt) (v : Bytes) (rest : List Bytes) :
    p.read (((Named.opt o).dashed ++ equals :: v) :: rest) =
      p.opt o (some v) >>= fun q => q.read rest := by
  rw [read_long p (ofBytes_hung _ v), Progress.long, ofLong?_name]

theorem read_opt (p : Progress) (o : Opt) (rest : List Bytes) :
    p.read ((Named.opt o).dashed :: rest) = p.opt o none >>= fun q => q.read rest := by
  rw [read_long p (ofBytes_dashed _), Progress.long, ofLong?_name]

theorem read_plain (p : Progress) {v : Bytes} (h : v.head? ≠ some dash ∨ v = [dash])
    (rest : List Bytes) : p.read (v :: rest) = p.word v >>= fun q => q.read rest := by
  rw [Progress.read, ofBytes_plain h]

end Tokens

namespace Progress

def Holds (p : Progress) (a : Arguments) : Prop :=
  p.stored.settle p.pending = .ok a

theorem Holds.settle_eq (hp : p.Holds b) : p.stored.settle p.pending = .ok b :=
  hp

theorem Holds.flag (hp : p.Holds b) (hstays : f.Stays) (hfirst : b.raised f = false) :
    p.flag f = .ok ⟨b.raising f, .nothing⟩ := by
  rw [Progress.flag, hp.settle_eq]
  change b.raise f >>= _ = _
  rw [Arguments.raise_ok_iff.2 ⟨hstays, hfirst, rfl⟩]
  rfl

theorem Holds.hung (hp : p.Holds b) (htakes : b.Takes o) (hc : o.Fits c) :
    p.opt o (some (o.spelled c)) = .ok ⟨b.adding o c, .nothing⟩ := by
  rw [Progress.opt, hp.settle_eq]
  change b.store o _ >>= _ = _
  rw [Arguments.store_ok_iff.2 ⟨htakes, c, content?_spelled hc, rfl⟩]
  rfl

theorem Holds.opt (hp : p.Holds b) (o : Opt) : p.opt o none = .ok ⟨b, .opt o none⟩ := by
  rw [Progress.opt, hp.settle_eq]
  rfl

theorem Holds.file (hp : p.Holds b) {path : Path} (hpath : path.bytes ≠ []) :
    ∃ q, p.file path.bytes = .ok q ∧ q.Holds { b with files := b.files ++ [path] } := by
  have halone : (Progress.mk b (.files [path.bytes])).Holds
      { b with files := b.files ++ [path] } :=
    Arguments.settle_files_ok_iff.2 ⟨List.forall_mem_singleton.2 hpath, rfl⟩
  unfold Progress.file
  unfold Holds at hp
  -- The file waits with those that wait already, or else alone.
  cases hpending : p.pending with
  | files values =>
    rw [hpending] at hp
    obtain ⟨hvalues, rfl⟩ := Arguments.settle_files_ok_iff.1 hp
    refine ⟨_, rfl, Arguments.settle_files_ok_iff.2 ⟨?_, by simp⟩⟩
    exact List.forall_mem_append.2 ⟨hvalues, List.forall_mem_singleton.2 hpath⟩
  | nothing | opt =>
    rw [hpending] at hp
    exact ⟨_, by rw [hp]; rfl, halone⟩

theorem Holds.files (hp : p.Holds b) {paths : List Path} (hpaths : ∀ path ∈ paths, path.bytes ≠ []) :
    ∃ q, (paths.map Path.bytes).foldlM Progress.file p = .ok q ∧
      q.Holds { b with files := b.files ++ paths } := by
  induction paths generalizing p b with
  | nil => exact ⟨p, rfl, by simpa using hp⟩
  | cons path paths ih =>
    obtain ⟨hpath, hpaths⟩ := List.forall_mem_cons.1 hpaths
    obtain ⟨q, hfile, hq⟩ := hp.file hpath
    obtain ⟨r, hfiles, hr⟩ := ih hq hpaths
    refine ⟨r, ?_, by simpa using hr⟩
    rw [List.map_cons, List.foldlM_cons, hfile]
    exact hfiles

theorem Holds.finish (hp : p.Holds a) (h : a.sources ≤ 1) : p.finish = .ok a := by
  rw [Progress.finish, hp.settle_eq]
  exact if_neg (Nat.not_lt.2 h)

end Progress

namespace Item

def addedTo (b : Arguments) : Item → Arguments
  | .hung o c | .apart o c => b.adding o c
  | .flag f => b.raising f

theorem files_addedTo (b : Arguments) (i : Item) : (i.addedTo b).files = b.files := by
  cases i with
  | hung o c | apart o c => exact b.files_adding o c
  | flag f => exact b.files_raising f

def Suits (b : Arguments) : Item → Prop
  | .hung o c | .apart o c => b.Takes o ∧ o.Fits c
  | .flag f => f.Stays ∧ b.raised f = false

/-- The tokens of one item are read, whatever stands before and after them. -/
theorem read_tokens (hp : p.Holds b) (hsuits : i.Suits b) (hplain : i.Plain) (rest : List Bytes) :
    ∃ q : Progress, q.Holds (i.addedTo b) ∧ p.read (i.tokens ++ rest) = q.read rest := by
  cases i with
  | flag f =>
    refine ⟨⟨b.raising f, .nothing⟩, rfl, ?_⟩
    rw [tokens, List.cons_append, read_flag, hp.flag hsuits.1 hsuits.2]
    rfl
  | hung o c =>
    refine ⟨⟨b.adding o c, .nothing⟩, rfl, ?_⟩
    rw [tokens, List.cons_append, read_hung, hp.hung hsuits.1 hsuits.2]
    rfl
  | apart o c =>
    -- The value waits until the next item begins.
    refine ⟨⟨b, .opt o (some (o.spelled c))⟩, ?_, ?_⟩
    · exact Arguments.store_ok_iff.2 ⟨hsuits.1, c, content?_spelled hsuits.2, rfl⟩
    · rw [tokens, List.cons_append, read_opt, hp.opt]
      change (Progress.mk b (.opt o none)).read (o.spelled c :: rest) = _
      rw [read_plain _ hplain]
      rfl

end Item

namespace Leads

/-- One more content was not given before if its option may not be given again. -/
theorem takes_of_contents {more : List o.Content} (h : b.contents o ++ c :: more = a.contents o) :
    b.Takes o := by
  by_cases honce : (Named.opt o).Repeats
  · exact .inl honce
  · have hlength := Arguments.length_contents_le_one honce a
    rw [← h, List.length_append, List.length_cons] at hlength
    exact .inr (List.eq_nil_of_length_eq_zero (by omega))

theorem adding (hcontents : b.contents o ++ c :: items.filterMap (·.content? o) = a.contents o)
    (hothers : ∀ other, other ≠ o →
      b.contents other ++ items.filterMap (·.content? other) = a.contents other)
    (hraised : ∀ f, (b.raised f).toNat + items.countP (·.raises f) = (a.raised f).toNat) :
    Leads (b.adding o c) items a where
  contents other := by
    by_cases hother : other = o
    · subst hother
      rw [Arguments.contents_adding (takes_of_contents hcontents), List.append_assoc]
      exact hcontents
    · rw [b.contents_adding_of_ne hother]
      exact hothers other hother
  raised f := by
    rw [b.raised_adding]
    exact hraised f

theorem raising (hcount : (b.raised f).toNat + (items.countP (·.raises f) + 1) = (a.raised f).toNat)
    (hcontents : ∀ o, b.contents o ++ items.filterMap (·.content? o) = a.contents o)
    (hothers : ∀ other, other ≠ f →
      (b.raised other).toNat + items.countP (·.raises other) = (a.raised other).toNat) :
    (f.Stays ∧ b.raised f = false) ∧ Leads (b.raising f) items a := by
  have hmost := Bool.toNat_le (a.raised f)
  have hraised : a.raised f = true := Bool.toNat_eq_one.1 (by omega)
  have hfirst : b.raised f = false := Bool.toNat_eq_zero.1 (by omega)
  have hstays : f.Stays := by
    cases f with
    | stdin | staged | verbose => trivial
    | help | version => cases hraised
  refine ⟨⟨hstays, hfirst⟩, fun o => ?_, fun other => ?_⟩
  · rw [b.contents_raising]
    exact hcontents o
  · by_cases hother : other = f
    · subst hother
      rw [Arguments.raised_raising hstays, Bool.toNat_true]
      omega
    · rw [b.raised_raising_of_ne hother]
      exact hothers other hother

theorem cons (h : Leads b (i :: items) a) (hfits : ∀ o, ∀ c ∈ a.contents o, o.Fits c) :
    i.Suits b ∧ Leads (i.addedTo b) items a := by
  cases i with
  | hung o c | apart o c =>
    have hcontents : b.contents o ++ c :: items.filterMap (·.content? o) = a.contents o := by
      rw [← h.contents o, List.filterMap_cons_some (dif_pos rfl)]
    have hothers (other : Opt) (hother : other ≠ o) :
        b.contents other ++ items.filterMap (·.content? other) = a.contents other := by
      rw [← h.contents other, List.filterMap_cons_none (dif_neg hother.symm)]
    have hc : c ∈ a.contents o := hcontents ▸ List.mem_append_right _ List.mem_cons_self
    exact ⟨⟨takes_of_contents hcontents, hfits o c hc⟩, adding hcontents hothers h.raised⟩
  | flag f =>
    refine raising ?_ h.contents fun other hother => ?_
    · rw [← h.raised f, List.countP_cons_of_pos]
      exact decide_eq_true rfl
    · rw [← h.raised other, List.countP_cons_of_neg]
      simpa [Item.raises] using hother.symm

theorem eq_of_nil (h : Leads b [] a) (hfiles : b.files = a.files) : b = a := by
  refine Arguments.eq_of_contents (fun o => ?_) (fun f => ?_) hfiles
  · simpa using h.contents o
  · have hraised := h.raised f
    rw [List.countP_nil, Nat.add_zero] at hraised
    revert hraised
    cases b.raised f <;> cases a.raised f <;> decide

theorem of_files (h : Leads b items a) (files : List Path) :
    Leads b items { a with files := files } where
  contents o := by
    rw [h.contents o]
    cases o <;> rfl
  raised f := by
    rw [h.raised f]
    cases f <;> rfl

end Leads

/-- From one item to the next, the arguments held so far are those the items before have given. -/
theorem read_items (hp : p.Holds b) (h : Leads b items a) (hfiles : b.files = a.files)
    (hfits : ∀ o, ∀ c ∈ a.contents o, o.Fits c) (hplain : ∀ i ∈ items, i.Plain)
    (rest : List Bytes) :
    ∃ q : Progress, q.Holds a ∧ p.read (items.flatMap Item.tokens ++ rest) = q.read rest := by
  induction items generalizing p b with
  | nil => exact ⟨p, h.eq_of_nil hfiles ▸ hp, rfl⟩
  | cons i items ih =>
    obtain ⟨hi, hplain⟩ := List.forall_mem_cons.1 hplain
    obtain ⟨hsuits, hleads⟩ := h.cons hfits
    obtain ⟨q, hq, hread⟩ := i.read_tokens hp hsuits hi (items.flatMap Item.tokens ++ rest)
    obtain ⟨r, hr, hrest⟩ := ih hq hleads ((i.files_addedTo b).trans hfiles) hplain
    refine ⟨r, hr, ?_⟩
    rw [List.flatMap_cons, List.append_assoc, hread, hrest]

theorem read_files (hp : p.Holds { a with files := [] }) (hfiles : ∀ path ∈ a.files, path.bytes ≠ [])
    (h : a.sources ≤ 1) :
    p.read (if a.files = [] then [] else [dash, dash] :: a.files.map Path.bytes) = .ok a := by
  by_cases hnone : a.files = []
  · have ha : { a with files := [] } = a := by rw [← hnone]
    rw [if_pos hnone]
    exact (ha ▸ hp : p.Holds a).finish h
  · obtain ⟨q, hfold, hq⟩ := hp.files hfiles
    rw [if_neg hnone]
    change (a.files.map Path.bytes).foldlM Progress.file p >>= Progress.finish = _
    rw [hfold]
    exact hq.finish h

/-- Arguments that are written out are read as they were, and lie on top of the settings file with just
what was given. An option has an item for each of its contents, in their order, and apart from this the
items stand in any order, each value on its option or after it. The format may be left out if it is the one
for people. -/
theorem read_commandLine (a : Arguments) (format : Format) (items : List Item)
    (hitems : Leads {} items a) (hplain : ∀ i ∈ items, i.Plain)
    (hformat : a.output = some format ∨ a.output = none ∧ format = .human)
    (hjobs : ∀ n ∈ a.jobs, n < 2 ^ 64) (htimeout : ∀ n ∈ a.timeout, n < 2 ^ 64)
    (hconfig : ∀ path ∈ a.config, path.bytes ≠ []) (hfiles : ∀ path ∈ a.files, path.bytes ≠ [])
    (hsources : a.sources ≤ 1) :
    read (commandLine items a.files) = .ok a ∧ a.format = format ∧
      (∀ l, a.layer.roots = some l ↔ l = a.roots ∧ l ≠ []) ∧
      (∀ l, a.layer.extensions = some l ↔ l = a.extensions ∧ l ≠ []) ∧
      (∀ l, a.layer.ignored = some l ↔ l = a.patterns ∧ l ≠ []) ∧
      a.layer.checker = a.checker ∧ a.layer.jobs = a.jobs ∧ a.layer.timeout = a.timeout ∧
      a.layer.checkerArgs = none := by
  have hfits : ∀ o, ∀ c ∈ ({ a with files := [] } : Arguments).contents o, o.Fits c := by
    intro o c hc
    cases o with
    | root | extension | pattern | checker | output => trivial
    | jobs => exact hjobs c (Option.mem_toList.1 hc)
    | timeout => exact htimeout c (Option.mem_toList.1 hc)
    | config => exact hconfig c (Option.mem_toList.1 hc)
  have hread : read (commandLine items a.files) = .ok a := by
    obtain ⟨q, hq, hread⟩ := read_items (p := .start) (b := {}) rfl (hitems.of_files []) rfl hfits
      hplain (if a.files = [] then [] else [dash, dash] :: a.files.map Path.bytes)
    rw [read, commandLine, hread]
    exact read_files hq hfiles hsources
  have hlook : a.format = format := by
    obtain hsome | ⟨hnone, rfl⟩ := hformat
    · rw [Arguments.format, hsome]
      rfl
    · rw [Arguments.format, hnone]
      rfl
  exact ⟨hread, hlook, fun _ => Arguments.given_eq_some_iff, fun _ => Arguments.given_eq_some_iff,
    fun _ => Arguments.given_eq_some_iff, rfl, rfl, rfl, rfl⟩

/-- With texts and files that begin with a dash, an empty text and the greatest number. -/
def mixedArguments : Arguments where
  files := [.ofText "-f.php", .ofText "--"]
  verbose := true
  roots := ["web", "-x"]
  extensions := [""]
  checker := some "-"
  jobs := some (2 ^ 64 - 1)
  config := some (.ofText "a=b")
  output := some .json

/-- The roots are apart from each other, with other items between them. -/
def mixedItems : List Item :=
  [.apart .jobs (2 ^ 64 - 1), .apart .root "web", .flag .verbose, .apart .extension "",
    .hung .config (.ofText "a=b"), .hung .root "-x", .apart .output .json, .apart .checker "-"]

example : commandLine mixedItems mixedArguments.files =
    ["--jobs", "18446744073709551615", "--run-on", "web", "--verbose", "--extension", "",
      "--config=a=b", "--run-on=-x", "--output", "json", "--checker", "-", "--", "-f.php", "--"].map
      bytesOf := by
  decide +kernel

theorem mixed_arguments_read :
    read (commandLine mixedItems mixedArguments.files) = .ok mixedArguments := by
  have hleads : Leads {} mixedItems mixedArguments := by
    constructor
    · rintro (_ | _) <;> rfl
    · rintro (_ | _) <;> rfl
  refine (read_commandLine mixedArguments .json mixedItems hleads (by decide) (.inl rfl) ?_ ?_ ?_
    (by decide) (by decide)).1
  · rintro n ⟨⟩
    decide
  · rintro n ⟨⟩
  · rintro path ⟨⟩
    decide

end SyntaxSweep.CommandLine
