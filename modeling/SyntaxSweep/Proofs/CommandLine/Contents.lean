import SyntaxSweep.CommandLine.Reading
import SyntaxSweep.Proofs.Steps

namespace SyntaxSweep.CommandLine

def Opt.Content : Opt → Type
  | .root | .extension | .pattern | .checker => String
  | .jobs | .timeout => Nat
  | .config => Path
  | .output => Format

def Opt.content? : (o : Opt) → Bytes → Except UsageProblem o.Content
  | .root, v | .extension, v | .pattern, v | .checker, v => textValue v
  | .jobs, v | .timeout, v => countValue v
  | .config, v => pathValue v
  | .output, v => formatValue v

/-- May be given again and again. -/
def Named.Repeats : Named → Prop
  | .opt .root | .opt .extension | .opt .pattern => True
  | .opt .checker | .opt .jobs | .opt .timeout | .opt .config | .opt .output | .flag _ => False

def Flag.Stays : Flag → Prop
  | .stdin | .staged | .verbose => True
  | .help | .version => False

theorem eq_of_toList {α : Type} {x y : Option α} (h : x.toList = y.toList) : x = y := by
  cases x <;> cases y <;> simp_all

namespace Arguments

def contents (a : Arguments) : (o : Opt) → List o.Content
  | .root => a.roots
  | .extension => a.extensions
  | .pattern => a.patterns
  | .checker => a.checker.toList
  | .jobs => a.jobs.toList
  | .timeout => a.timeout.toList
  | .config => a.config.toList
  | .output => a.output.toList

def adding (a : Arguments) : (o : Opt) → o.Content → Arguments
  | .root, (s : String) => { a with roots := a.roots ++ [s] }
  | .extension, (s : String) => { a with extensions := a.extensions ++ [s] }
  | .pattern, (s : String) => { a with patterns := a.patterns ++ [s] }
  | .checker, s => { a with checker := some s }
  | .jobs, n => { a with jobs := some n }
  | .timeout, n => { a with timeout := some n }
  | .config, p => { a with config := some p }
  | .output, f => { a with output := some f }

def raised (a : Arguments) : Flag → Bool
  | .stdin => a.stdin
  | .staged => a.staged
  | .verbose => a.verbose
  | .help | .version => false

def raising (a : Arguments) : Flag → Arguments
  | .stdin => { a with stdin := true }
  | .staged => { a with staged := true }
  | .verbose => { a with verbose := true }
  | .help | .version => a

/-- An option can take one more content: it may be given again, or was not given yet. -/
def Takes (a : Arguments) (o : Opt) : Prop :=
  (Named.opt o).Repeats ∨ a.contents o = []

variable {a b : Arguments} {o : Opt} {f : Flag}

theorem eq_of_contents (hcontents : ∀ o, a.contents o = b.contents o)
    (hraised : ∀ f, a.raised f = b.raised f) (hfiles : a.files = b.files) : a = b := by
  cases a with
  | mk =>
    cases b with
    | mk =>
      congr
      · exact hraised .stdin
      · exact hraised .staged
      · exact hraised .verbose
      · exact hcontents .root
      · exact hcontents .extension
      · exact hcontents .pattern
      · exact eq_of_toList (hcontents .checker)
      · exact eq_of_toList (hcontents .jobs)
      · exact eq_of_toList (hcontents .timeout)
      · exact eq_of_toList (hcontents .config)
      · exact eq_of_toList (hcontents .output)

theorem length_contents_le_one (h : ¬(Named.opt o).Repeats) (a : Arguments) :
    (a.contents o).length ≤ 1 := by
  cases o with
  | root | extension | pattern => exact absurd trivial h
  | checker | jobs | timeout | config | output => exact Option.length_toList_le

theorem contents_adding (h : a.Takes o) (c : o.Content) :
    (a.adding o c).contents o = a.contents o ++ [c] := by
  cases o with
  | root | extension | pattern => rfl
  | checker | jobs | timeout | config | output =>
    rw [h.resolve_left id]
    rfl

theorem contents_adding_of_ne (a : Arguments) {other : Opt} (h : other ≠ o) (c : o.Content) :
    (a.adding o c).contents other = a.contents other := by
  cases o <;> cases other
  any_goals rfl
  all_goals exact absurd rfl h

theorem files_adding (a : Arguments) (o : Opt) (c : o.Content) : (a.adding o c).files = a.files := by
  cases o <;> rfl

theorem raised_adding (a : Arguments) (o : Opt) (c : o.Content) (f : Flag) :
    (a.adding o c).raised f = a.raised f := by
  cases o <;> cases f <;> rfl

theorem raised_raising (h : f.Stays) (a : Arguments) : (a.raising f).raised f = true := by
  cases f with
  | stdin | staged | verbose => rfl
  | help | version => cases h

theorem raised_raising_of_ne (a : Arguments) {other : Flag} (h : other ≠ f) :
    (a.raising f).raised other = a.raised other := by
  cases f <;> cases other
  any_goals rfl
  all_goals exact absurd rfl h

theorem files_raising (a : Arguments) (f : Flag) : (a.raising f).files = a.files := by
  cases f <;> rfl

theorem contents_raising (a : Arguments) (f : Flag) (o : Opt) :
    (a.raising f).contents o = a.contents o := by
  cases f <;> cases o <;> rfl

theorem store_of_takes (h : a.Takes o) (v : Bytes) :
    a.store o v = (o.content? v).map (a.adding o) := by
  cases o with
  | root | extension | pattern => rfl
  | checker | jobs | timeout | config | output =>
    have hfirst := Option.toList_eq_nil_iff.1 (h.resolve_left id)
    rw [store, hfirst]
    rfl

/-- That an option cannot take a value is found before the value is looked at. -/
theorem store_of_not_takes (h : ¬a.Takes o) (v : Bytes) : a.store o v = .error .conflict := by
  obtain ⟨honce, hsecond⟩ := not_or.1 h
  cases o with
  | root | extension | pattern => exact absurd trivial honce
  | checker | jobs | timeout | config | output =>
    obtain ⟨c, hc⟩ := Option.ne_none_iff_exists'.1 (mt Option.toList_eq_nil_iff.2 hsecond)
    rw [store, hc]
    rfl

theorem store_ok_iff {v : Bytes} :
    a.store o v = .ok b ↔ a.Takes o ∧ ∃ c, o.content? v = .ok c ∧ a.adding o c = b := by
  by_cases h : a.Takes o
  · rw [store_of_takes h]
    cases o.content? v <;> simp [Except.map, h]
  · simp [store_of_not_takes h, h]

theorem raise_ok_iff : a.raise f = .ok b ↔ f.Stays ∧ a.raised f = false ∧ a.raising f = b := by
  cases f with
  | stdin | staged | verbose =>
    rw [raise]
    split <;> simp_all [Flag.Stays, raised, raising]
  | help | version => simp [raise, Flag.Stays]

theorem given_eq_some_iff {l more : List String} :
    given l = some more ↔ more = l ∧ more ≠ [] := by
  unfold given
  split
  · simp_all
  · rw [Option.some.injEq]
    exact ⟨fun h => h ▸ ⟨rfl, ‹_›⟩, fun h => h.1.symm⟩

theorem pathValue_ok_iff {v : Bytes} {path : Path} :
    pathValue v = .ok path ↔ v ≠ [] ∧ Path.mk v = path := by
  unfold pathValue
  split <;> simp_all

theorem mapM_pathValue_ok_iff {values : List Bytes} {paths : List Path} :
    values.mapM pathValue = .ok paths ↔ (∀ v ∈ values, v ≠ []) ∧ values.map Path.mk = paths := by
  induction values generalizing paths with
  | nil => simp [pure, Except.pure]
  | cons v values ih =>
    rw [List.mapM_cons, bind_ok_iff, List.forall_mem_cons, List.map_cons]
    constructor
    · rintro ⟨path, hv, hrest⟩
      obtain ⟨more, hmore, hpaths⟩ := bind_ok_iff.1 hrest
      obtain ⟨hne, rfl⟩ := pathValue_ok_iff.1 hv
      obtain ⟨hall, rfl⟩ := ih.1 hmore
      cases hpaths
      exact ⟨⟨hne, hall⟩, rfl⟩
    · rintro ⟨⟨hne, hall⟩, rfl⟩
      have hmore := ih.2 ⟨hall, rfl⟩
      exact ⟨⟨v⟩, pathValue_ok_iff.2 ⟨hne, rfl⟩, bind_ok_iff.2 ⟨_, hmore, rfl⟩⟩

theorem settle_files_ok_iff {values : List Bytes} :
    a.settle (.files values) = .ok b ↔
      (∀ v ∈ values, v ≠ []) ∧ { a with files := a.files ++ values.map Path.mk } = b := by
  rw [settle, bind_ok_iff]
  simp [mapM_pathValue_ok_iff, pure, Except.pure, and_assoc]

end Arguments

end SyntaxSweep.CommandLine
