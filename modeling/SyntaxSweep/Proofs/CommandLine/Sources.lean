import SyntaxSweep.Proofs.CommandLine.Contents
import SyntaxSweep.Proofs.Run.Formats

namespace SyntaxSweep.CommandLine

/-- What a line mentions: a file, or a named thing. -/
inductive Mention where
  | file (value : Bytes)
  | named (n : Named)
  deriving DecidableEq

def Mention.file? : Mention → Option Bytes
  | .file value => some value
  | .named _ => none

/-- What letters after one dash mention. What follows the letter of an option is its value. -/
def letterMentions : Bytes → List Mention
  | [] => []
  | letter :: rest =>
    match ofShort? letter with
    | some (.opt o) => [.named (.opt o)]
    | some (.flag f) => .named (.flag f) :: letterMentions rest
    | none => []

/-- The last letter is that of an option, so that its value is still to come. -/
def lettersAwait : Bytes → Bool
  | [] => false
  | letter :: rest =>
    match ofShort? letter with
    | some (.opt _) => rest.isEmpty
    | some (.flag _) => lettersAwait rest
    | none => false

/-- The name of an option, without a value that hangs on it. -/
def nameAwaits (n : Named) (value : Option Bytes) : Bool :=
  match n with
  | .opt _ => value.isNone
  | .flag _ => false

/-- What tokens mention, values apart. A word is a file unless a value is awaited, and after two dashes
all are files. -/
def mentions (awaited : Bool) : List Bytes → List Mention
  | [] => []
  | token :: rest =>
    match Token.ofBytes token with
    | .escape => rest.map .file
    | .long name value =>
      match ofLong? name with
      | some n => .named n :: mentions (nameAwaits n value) rest
      | none => mentions false rest
    | .short letters => letterMentions letters ++ mentions (lettersAwait letters) rest
    | .word => (if awaited then [] else [.file token]) ++ mentions false rest

def mentioned (tokens : List Bytes) : List Mention :=
  mentions false tokens

section Gathering

/-- The rest of a line read, whatever sources of files it names. -/
def Progress.gather (p : Progress) : List Bytes → Except UsageProblem Arguments
  | [] => p.stored.settle p.pending
  | token :: rest =>
    match Token.ofBytes token with
    | .escape => rest.foldlM file p >>= fun q => q.stored.settle q.pending
    | .long name value => p.long name value >>= fun q => q.gather rest
    | .short letters => p.short letters >>= fun q => q.gather rest
    | .word => p.word token >>= fun q => q.gather rest

/-- A line read but for the conflict of sources. It is an answer or a mistake of another kind that this
can fail with. -/
def gathered (tokens : List Bytes) : Except UsageProblem Arguments :=
  Progress.start.gather tokens

theorem Progress.read_eq_gather (p : Progress) (tokens : List Bytes) :
    p.read tokens =
      p.gather tokens >>= fun a => if 1 < a.sources then .error .conflict else .ok a := by
  induction tokens generalizing p with
  | nil => rfl
  | cons token rest ih =>
    rw [Progress.read, gather]
    cases Token.ofBytes token with
    | escape => exact (bind_assoc _ _ _).symm
    | long | short | word =>
      simp only [ih]
      exact (bind_assoc _ _ _).symm

theorem read_of_gathered {tokens : List Bytes} {a : Arguments} (h : gathered tokens = .ok a) :
    read tokens = if 1 < a.sources then .error .conflict else .ok a := by
  rw [read, Progress.read_eq_gather]
  change gathered tokens >>= _ = _
  rw [h]
  rfl

theorem read_of_not_gathered {tokens : List Bytes} {e : UsageProblem}
    (h : gathered tokens = .error e) : read tokens = .error e := by
  rw [read, Progress.read_eq_gather]
  change gathered tokens >>= _ = _
  rw [h]
  rfl

theorem read_ok_iff {tokens : List Bytes} {a : Arguments} :
    read tokens = .ok a ↔ gathered tokens = .ok a ∧ a.sources ≤ 1 := by
  cases h : gathered tokens with
  | error e => simp [read_of_not_gathered h]
  | ok b =>
    rw [read_of_gathered h]
    split
    · simp only [reduceCtorEq, false_iff]
      rintro ⟨⟨⟩, hone⟩
      omega
    · simp only [Except.ok.injEq, iff_self_and]
      rintro rfl
      omega

end Gathering

structure Records (a : Arguments) (l : List Mention) : Prop where
  files : a.files.map Path.bytes = l.filterMap Mention.file?
  contents : ∀ o, (a.contents o).length = l.count (.named (.opt o))
  raised : ∀ f, (a.raised f).toNat = l.count (.named (.flag f))

namespace Records

variable {a b : Arguments} {l : List Mention} {o : Opt} {f : Flag} {v : Bytes}

theorem empty : Records {} [] where
  files := rfl
  contents o := by cases o <;> rfl
  raised f := by cases f <;> rfl

theorem count_named_files (n : Named) (values : List Bytes) :
    (values.map Mention.file).count (.named n) = 0 := by
  rw [List.count_eq_zero]
  simp

theorem files_adding (h : Records a l) (values : List Bytes) :
    Records { a with files := a.files ++ values.map Path.mk } (l ++ values.map .file) where
  files := by
    rw [List.map_append, h.files, List.filterMap_append, List.map_map, List.filterMap_map]
    change _ ++ values.map id = _ ++ values.filterMap some
    rw [List.map_id, List.filterMap_some]
  contents o := by
    rw [List.count_append, count_named_files, ← h.contents o]
    cases o <;> rfl
  raised f := by
    rw [List.count_append, count_named_files, ← h.raised f]
    cases f <;> rfl

theorem store (h : Records a l) (hstore : a.store o v = .ok b) :
    Records b (l ++ [.named (.opt o)]) := by
  obtain ⟨htakes, c, -, rfl⟩ := Arguments.store_ok_iff.1 hstore
  refine ⟨?_, fun other => ?_, fun f => ?_⟩
  · rw [Arguments.files_adding, h.files, List.filterMap_append]
    exact (List.append_nil _).symm
  · rw [List.count_append, ← h.contents other]
    by_cases hother : other = o
    · subst hother
      rw [Arguments.contents_adding htakes, List.length_append]
      simp
    · rw [a.contents_adding_of_ne hother, List.count_singleton, if_neg (by simpa using Ne.symm hother)]
      rfl
  · rw [Arguments.raised_adding, h.raised f, List.count_append]
    rfl

theorem raise (h : Records a l) (hraise : a.raise f = .ok b) :
    Records b (l ++ [.named (.flag f)]) := by
  obtain ⟨hstays, hfirst, rfl⟩ := Arguments.raise_ok_iff.1 hraise
  refine ⟨?_, fun o => ?_, fun other => ?_⟩
  · rw [Arguments.files_raising, h.files, List.filterMap_append]
    exact (List.append_nil _).symm
  · rw [Arguments.contents_raising, h.contents o, List.count_append]
    rfl
  · rw [List.count_append, ← h.raised other]
    by_cases hother : other = f
    · subst hother
      rw [Arguments.raised_raising hstays, hfirst]
      simp
    · rw [a.raised_raising_of_ne hother, List.count_singleton, if_neg (by simpa using Ne.symm hother)]
      rfl

end Records

def Pending.mentions : Pending → List Mention
  | .nothing => []
  | .opt o _ => [.named (.opt o)]
  | .files values => values.map .file

def Pending.awaits : Pending → Bool
  | .opt _ none => true
  | .nothing | .opt _ (some _) | .files _ => false

theorem Records.settle {a b : Arguments} {w : Pending} {l : List Mention} (h : Records a l)
    (hsettle : a.settle w = .ok b) : Records b (l ++ w.mentions) := by
  cases w with
  | nothing =>
    cases hsettle
    rwa [Pending.mentions, List.append_nil]
  | opt o value =>
    cases value with
    | none => cases hsettle
    | some v => exact h.store hsettle
  | files values =>
    obtain ⟨-, rfl⟩ := Arguments.settle_files_ok_iff.1 hsettle
    exact h.files_adding values

namespace Progress

def Notes (p : Progress) (l : List Mention) : Prop :=
  ∃ before, Records p.stored before ∧ before ++ p.pending.mentions = l

variable {p q : Progress} {a : Arguments} {l : List Mention}

theorem notes_start : start.Notes [] :=
  ⟨[], .empty, rfl⟩

theorem Notes.settled (h : p.Notes l) (hsettle : p.stored.settle p.pending = .ok a) :
    Records a l := by
  obtain ⟨before, hrecords, rfl⟩ := h
  exact hrecords.settle hsettle

theorem Notes.of_stored (h : Records p.stored l) (hpending : p.pending = .nothing) : p.Notes l :=
  ⟨l, h, by rw [hpending, Pending.mentions, List.append_nil]⟩

theorem Notes.file {v : Bytes} (h : p.Notes l) (hfile : p.file v = .ok q) :
    q.Notes (l ++ [.file v]) ∧ q.pending.awaits = false := by
  unfold Progress.file at hfile
  cases hpending : p.pending with
  | files values =>
    rw [hpending] at hfile
    cases hfile
    obtain ⟨before, hrecords, rfl⟩ := h
    exact ⟨⟨before, hrecords, by simp [hpending, Pending.mentions]⟩, rfl⟩
  | nothing | opt =>
    rw [hpending] at hfile
    obtain ⟨a, hsettle, hq⟩ := bind_ok_iff.1 hfile
    cases hq
    exact ⟨⟨l, h.settled (hpending ▸ hsettle), rfl⟩, rfl⟩

theorem Notes.opt {o : Opt} {value : Option Bytes} (h : p.Notes l) (hopt : p.opt o value = .ok q) :
    q.Notes (l ++ [.named (.opt o)]) ∧ q.pending.awaits = value.isNone := by
  obtain ⟨a, hsettle, hq⟩ := bind_ok_iff.1 hopt
  have hrecords := h.settled hsettle
  cases value with
  | none =>
    cases hq
    exact ⟨⟨l, hrecords, rfl⟩, rfl⟩
  | some v =>
    obtain ⟨b, hstore, hq⟩ := bind_ok_iff.1 hq
    cases hq
    exact ⟨.of_stored (hrecords.store hstore) rfl, rfl⟩

theorem Notes.flag {f : Flag} (h : p.Notes l) (hflag : p.flag f = .ok q) :
    q.Notes (l ++ [.named (.flag f)]) ∧ q.pending.awaits = false := by
  obtain ⟨a, hsettle, hq⟩ := bind_ok_iff.1 hflag
  obtain ⟨b, hraise, hq⟩ := bind_ok_iff.1 hq
  cases hq
  exact ⟨.of_stored ((h.settled hsettle).raise hraise) rfl, rfl⟩

theorem Notes.long {name : Bytes} {value : Option Bytes} (h : p.Notes l)
    (hlong : p.long name value = .ok q) :
    ∃ n, ofLong? name = some n ∧ q.Notes (l ++ [.named n]) ∧
      q.pending.awaits = nameAwaits n value := by
  unfold Progress.long at hlong
  cases hname : ofLong? name with
  | none =>
    rw [hname] at hlong
    cases hlong
  | some n =>
    rw [hname] at hlong
    cases n with
    | opt o => exact ⟨.opt o, rfl, h.opt hlong⟩
    | flag f =>
      change (if value.isSome then Except.error .tooManyValues else p.flag f) = .ok q at hlong
      split at hlong
      · cases hlong
      · exact ⟨.flag f, rfl, h.flag hlong⟩

/-- Letter after letter. Behind the last one nothing is awaited that was not before. -/
theorem Notes.short {letters : Bytes} (h : p.Notes l) (hshort : p.short letters = .ok q)
    (hempty : letters = [] → p.pending.awaits = false) :
    q.Notes (l ++ letterMentions letters) ∧ q.pending.awaits = lettersAwait letters := by
  induction letters generalizing p l with
  | nil =>
    cases hshort
    rw [letterMentions, List.append_nil]
    exact ⟨h, hempty rfl⟩
  | cons letter rest ih =>
    rw [Progress.short] at hshort
    rw [letterMentions, lettersAwait]
    cases hletter : ofShort? letter with
    | none =>
      rw [hletter] at hshort
      cases hshort
    | some n =>
      rw [hletter] at hshort
      cases n with
      | opt o =>
        cases rest with
        | nil => exact h.opt hshort
        | cons first value => exact h.opt hshort
      | flag f =>
        obtain ⟨r, hflag, hrest⟩ := bind_ok_iff.1 hshort
        obtain ⟨hr, hawaits⟩ := h.flag hflag
        obtain ⟨hq, hlast⟩ := ih hr hrest fun _ => hawaits
        rw [List.append_assoc] at hq
        exact ⟨hq, hlast⟩

theorem Notes.word {v : Bytes} (h : p.Notes l) (hword : p.word v = .ok q) :
    q.Notes (l ++ if p.pending.awaits then [] else [.file v]) ∧ q.pending.awaits = false := by
  unfold Progress.word at hword
  cases hpending : p.pending with
  | nothing | files =>
    rw [hpending] at hword
    exact h.file hword
  | opt o value =>
    rw [hpending] at hword
    cases value with
    | some v => exact h.file hword
    | none =>
      cases hword
      obtain ⟨before, hrecords, rfl⟩ := h
      refine ⟨⟨before, hrecords, ?_⟩, rfl⟩
      rw [hpending]
      exact (List.append_nil _).symm

theorem Notes.files {values : List Bytes} (h : p.Notes l)
    (hfiles : values.foldlM Progress.file p = .ok q) : q.Notes (l ++ values.map .file) := by
  induction values generalizing p l with
  | nil =>
    cases hfiles
    rwa [List.map_nil, List.append_nil]
  | cons v values ih =>
    rw [List.foldlM_cons] at hfiles
    obtain ⟨r, hfile, hrest⟩ := bind_ok_iff.1 hfiles
    have hq := ih (h.file hfile).1 hrest
    rwa [List.append_assoc] at hq

theorem letters_ne_nil {token letters : Bytes} (h : Token.ofBytes token = .short letters) :
    letters ≠ [] := by
  unfold Token.ofBytes at h
  split at h
  · split at h
    · cases h
    · split at h
      · cases h
        exact List.cons_ne_nil _ _
      · split at h <;> cases h
  · cases h

theorem Notes.gather {tokens : List Bytes} (h : p.Notes l) (hgather : p.gather tokens = .ok a) :
    Records a (l ++ mentions p.pending.awaits tokens) := by
  induction tokens generalizing p l with
  | nil =>
    rw [mentions, List.append_nil]
    exact h.settled hgather
  | cons token rest ih =>
    rw [Progress.gather] at hgather
    rw [mentions]
    cases htoken : Token.ofBytes token with
    | escape =>
      rw [htoken] at hgather
      obtain ⟨q, hfiles, hsettle⟩ := bind_ok_iff.1 hgather
      exact (h.files hfiles).settled hsettle
    | long name value =>
      rw [htoken] at hgather
      obtain ⟨q, hlong, hrest⟩ := bind_ok_iff.1 hgather
      obtain ⟨n, hname, hq, hawaits⟩ := h.long hlong
      have ha := ih hq hrest
      rw [hawaits, List.append_assoc, List.singleton_append] at ha
      simpa only [hname] using ha
    | short letters =>
      rw [htoken] at hgather
      obtain ⟨q, hshort, hrest⟩ := bind_ok_iff.1 hgather
      obtain ⟨hq, hawaits⟩ := h.short hshort fun hempty => absurd hempty (letters_ne_nil htoken)
      have ha := ih hq hrest
      rwa [hawaits, List.append_assoc] at ha
    | word =>
      rw [htoken] at hgather
      obtain ⟨q, hword, hrest⟩ := bind_ok_iff.1 hgather
      obtain ⟨hq, hawaits⟩ := h.word hword
      have ha := ih hq hrest
      rwa [hawaits, List.append_assoc] at ha

end Progress

inductive Source where
  | files
  | stdin
  | staged

namespace Source

def Given (a : Arguments) : Source → Prop
  | .files => a.files ≠ []
  | .stdin => a.stdin
  | .staged => a.staged

def Mentioned (l : List Mention) : Source → Prop
  | .files => ∃ value, .file value ∈ l
  | .stdin => .named (.flag .stdin) ∈ l
  | .staged => .named (.flag .staged) ∈ l

/-- What is selected from the source. The files are those mentioned, in their order. -/
def selection {σ : Type} (around : Surroundings σ) (s : Settings) (l : List Mention) :
    Source → Except Failure Selection
  | .files => .ok (.listed ((l.filterMap Mention.file?).map Path.mk))
  | .stdin => (readInput around.stdin).map .listed
  | .staged => (stagedFiles s.filter around.files.isFile around.git).map .listed

variable {a : Arguments} {l : List Mention}

theorem files_mentioned_iff : (Source.files.Mentioned l) ↔ l.filterMap Mention.file? ≠ [] := by
  have hmem (v : Bytes) : v ∈ l.filterMap Mention.file? ↔ .file v ∈ l := by
    rw [List.mem_filterMap]
    constructor
    · rintro ⟨_ | _, hm, ⟨⟩⟩
      exact hm
    · intro hv
      exact ⟨.file v, hv, rfl⟩
  rw [← List.isEmpty_eq_false_iff, List.isEmpty_eq_false_iff_exists_mem]
  exact exists_congr fun v => (hmem v).symm

theorem given_iff_mentioned (h : Records a l) (source : Source) :
    source.Given a ↔ source.Mentioned l := by
  have hflag (f : Flag) : a.raised f = true ↔ .named (.flag f) ∈ l := by
    rw [← List.count_pos_iff, ← h.raised f]
    cases a.raised f <;> decide
  cases source with
  | files =>
    rw [files_mentioned_iff, ← h.files, ne_eq, List.map_eq_nil_iff]
    rfl
  | stdin => exact hflag .stdin
  | staged => exact hflag .staged

theorem forall_source {P : Source → Prop} : (∀ s, P s) ↔ P .files ∧ P .stdin ∧ P .staged := by
  constructor
  · intro h
    exact ⟨h .files, h .stdin, h .staged⟩
  · rintro ⟨hfiles, hstdin, hstaged⟩ (_ | _ | _)
    · exact hfiles
    · exact hstdin
    · exact hstaged

theorem sources_le_one_iff :
    a.sources ≤ 1 ↔ ∀ s t : Source, s.Given a → t.Given a → s = t := by
  simp only [forall_source, Given, Arguments.sources]
  by_cases hfiles : a.files = [] <;> cases a.stdin <;> cases a.staged <;> simp [hfiles]

theorem sources_le_one_iff_mentioned (h : Records a l) :
    a.sources ≤ 1 ↔ ∀ s t : Source, s.Mentioned l → t.Mentioned l → s = t := by
  rw [sources_le_one_iff]
  simp only [given_iff_mentioned h]

variable {σ : Type} (around : Surroundings σ) (settings : Settings)

theorem select_eq (h : Records a l) (hone : a.sources ≤ 1) {source : Source}
    (hsource : source.Mentioned l) :
    around.select a settings = source.selection around settings l := by
  have hgiven := (given_iff_mentioned h source).2 hsource
  have hother {other : Source} (hne : other ≠ source) : ¬other.Given a :=
    fun hother => hne (sources_le_one_iff.1 hone other source hother hgiven)
  unfold Surroundings.select
  cases source with
  | files =>
    have hfiles : a.files = (l.filterMap Mention.file?).map Path.mk := by
      rw [← h.files, List.map_map]
      exact (List.map_id _).symm
    refine (if_pos hgiven).trans ?_
    rw [hfiles]
    rfl
  | stdin =>
    have hfiles : ¬Given a .files := hother nofun
    exact (if_neg hfiles).trans (if_pos hgiven)
  | staged =>
    have hfiles : ¬Given a .files := hother nofun
    have hstdin : ¬Given a .stdin := hother nofun
    exact (if_neg hfiles).trans ((if_neg hstdin).trans (if_pos hgiven))

theorem select_of_none (h : Records a l) (hnone : ∀ source : Source, ¬source.Mentioned l) :
    around.select a settings = .ok .scanned := by
  have hgiven (source : Source) : ¬source.Given a := by
    rw [given_iff_mentioned h]
    exact hnone source
  unfold Surroundings.select
  exact (if_neg (hgiven .files)).trans ((if_neg (hgiven .stdin)).trans (if_neg (hgiven .staged)))

end Source

theorem Records.count_le_one {a : Arguments} {l : List Mention} (h : Records a l) {n : Named}
    (hn : ¬n.Repeats) : l.count (.named n) ≤ 1 := by
  cases n with
  | opt o => exact h.contents o ▸ a.length_contents_le_one hn
  | flag f => exact h.raised f ▸ Bool.toNat_le _

theorem records_of_gathered {tokens : List Bytes} {a : Arguments} (h : gathered tokens = .ok a) :
    Records a (mentioned tokens) :=
  Progress.notes_start.gather h

/-- A line that is read gives one source of files at most, and gives each that it mentions; what may be
given once is mentioned once at most. The source mentioned is the one selected, and without one there is a
scan. A line that mentions two is not read: if nothing else is wrong with it and no answer is asked for,
its sources are in conflict. A line that mentions one at most is read if nothing else is wrong with it. -/
theorem source_unambiguous {σ : Type} (around : Surroundings σ) (tokens : List Bytes) :
    (∀ a, read tokens = .ok a →
      (∀ s t : Source, s.Given a → t.Given a → s = t) ∧
      (∀ s : Source, s.Given a ↔ s.Mentioned (mentioned tokens)) ∧
      (∀ n : Named, ¬n.Repeats → (mentioned tokens).count (.named n) ≤ 1) ∧
      ∀ settings,
        (∀ s : Source, s.Mentioned (mentioned tokens) →
          around.select a settings = s.selection around settings (mentioned tokens)) ∧
        ((∀ s : Source, ¬s.Mentioned (mentioned tokens)) →
          around.select a settings = .ok .scanned)) ∧
    (∀ s t : Source, s ≠ t → s.Mentioned (mentioned tokens) → t.Mentioned (mentioned tokens) →
      ∃ e, read tokens = .error e ∧
        (gathered tokens = .error e ∨
          (∃ a, gathered tokens = .ok a) ∧ e = .conflict ∧ e.exitCode = 2)) ∧
    ∀ a, gathered tokens = .ok a →
      (∀ s t : Source, s.Mentioned (mentioned tokens) → t.Mentioned (mentioned tokens) → s = t) →
        read tokens = .ok a := by
  refine ⟨fun a hread => ?_, fun s t hne hs ht => ?_, fun a hgathered hone => ?_⟩
  · obtain ⟨hgathered, hone⟩ := read_ok_iff.1 hread
    have hrecords := records_of_gathered hgathered
    refine ⟨Source.sources_le_one_iff.1 hone, Source.given_iff_mentioned hrecords, ?_, ?_⟩
    · intro n hn
      exact hrecords.count_le_one hn
    · intro settings
      exact ⟨fun s => Source.select_eq around settings hrecords hone,
        Source.select_of_none around settings hrecords⟩
  · cases hgathered : gathered tokens with
    | error e => exact ⟨e, read_of_not_gathered hgathered, .inl rfl⟩
    | ok a =>
      have hmany : ¬a.sources ≤ 1 := by
        rw [Source.sources_le_one_iff_mentioned (records_of_gathered hgathered)]
        intro hone
        exact hne (hone s t hs ht)
      refine ⟨.conflict, ?_, .inr ⟨⟨a, rfl⟩, rfl, rfl⟩⟩
      rw [read_of_gathered hgathered, if_pos (Nat.not_le.1 hmany)]
  · have hsources := (Source.sources_le_one_iff_mentioned (records_of_gathered hgathered)).2 hone
    exact read_ok_iff.2 ⟨hgathered, hsources⟩

theorem sources_told_apart :
    (∀ settings, Surroundings.bare.select { stdin := true, jobs := some 4 } settings =
      (readPaths []).map .listed) ∧
      read [bytesOf "--staged", bytesOf "-v", bytesOf "a.php"] = .error .conflict ∧
      read [bytesOf "-v", bytesOf "a.php"] = .ok { verbose := true, files := [.ofText "a.php"] } := by
  refine ⟨fun settings => ?_, ?_, ?_⟩
  · obtain ⟨-, -, -, hselect⟩ := (source_unambiguous Surroundings.bare
      [bytesOf "-j", bytesOf "4", bytesOf "--stdin"]).1 { stdin := true, jobs := some 4 } rfl
    exact (hselect settings).1 .stdin (by unfold Source.Mentioned; decide)
  · obtain ⟨e, hread, hgathered | ⟨-, rfl, -⟩⟩ := (source_unambiguous Surroundings.bare
      [bytesOf "--staged", bytesOf "-v", bytesOf "a.php"]).2.1 .files .staged nofun
      ⟨bytesOf "a.php", by decide⟩ (by unfold Source.Mentioned; decide)
    · cases hgathered
    · exact hread
  · have hgathered : gathered [bytesOf "-v", bytesOf "a.php"] =
        .ok { verbose := true, files := [.ofText "a.php"] } := rfl
    have hone := (Source.sources_le_one_iff_mentioned (records_of_gathered hgathered)).1 (by decide)
    exact (source_unambiguous Surroundings.bare _).2.2 _ hgathered hone

end SyntaxSweep.CommandLine
