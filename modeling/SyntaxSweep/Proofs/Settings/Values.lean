import SyntaxSweep.Proofs.Settings.Layering
import SyntaxSweep.Proofs.Steps

namespace SyntaxSweep

namespace Key

/-- What is said for a key, as the value of a document. -/
def value : (key : Key) → key.Content → Toml.Value
  | .ignored, l | .extensions, l | .roots, l | .checkerArgs, l => .array (l.map .string)
  | .checker, t => .string t
  | .jobs, n | .timeout, n => .integer (Int.ofNat n)

def wanted : Key → Wanted
  | .ignored | .extensions | .roots | .checkerArgs => .sequence
  | .checker => .text
  | .jobs => .count
  | .timeout => .seconds

theorem value_inj {key : Key} {v w : key.Content} (h : key.value v = key.value w) : v = w := by
  cases key with
  | ignored | extensions | roots | checkerArgs =>
    exact (List.map_inj_right fun _ _ => Toml.Value.string.inj).1 (Toml.Value.array.inj h)
  | checker => exact Toml.Value.string.inj h
  | jobs | timeout => exact Int.ofNat.inj (Toml.Value.integer.inj h)

theorem ofName?_name (key : Key) : ofName? key.name = some key := by
  cases key <;> decide

theorem name_inj {a b : Key} (h : a.name = b.name) : a = b := by
  rw [← Option.some_inj, ← ofName?_name, ← ofName?_name, h]

theorem ofName?_eq_none {name : String} (h : ∀ key : Key, name ≠ key.name) : ofName? name = none := by
  rw [ofName?, List.find?_eq_none]
  intro key _ hkey
  exact h key (of_decide_eq_true hkey).symm

end Key

/-- The value is of that kind, whatever it holds. -/
def Wanted.Suits : Wanted → Toml.Value → Prop
  | .sequence, .array _ | .text, .string _ | .count, .integer _ | .seconds, .integer _ => True
  | _, _ => False

/-- Why a value is refused for a key: it is of another kind, or an array with a first item that is no
text, or a negative number. -/
inductive Key.Refuses (key : Key) : Toml.Value → DocumentProblem → Prop
  | kind {v : Toml.Value} (h : ¬key.wanted.Suits v) : Refuses key v (.wrongKind v key.wanted)
  | item {before after : List Toml.Value} {item : Toml.Value} (hkey : key.wanted = .sequence)
      (hbefore : ∀ i ∈ before, Wanted.text.Suits i) (hitem : ¬Wanted.text.Suits item) :
      Refuses key (.array (before ++ item :: after)) (.wrongKind item .text)
  | negative {n : Int} (hkey : key.wanted = .count ∨ key.wanted = .seconds) (hn : n < 0) :
      Refuses key (.integer n) (.negative n key.wanted)

namespace Toml.Value

variable {v : Value} {p : DocumentProblem}

theorem text?_ok_iff {t : String} : v.text? = .ok t ↔ v = .string t := by
  cases v <;> simp [text?]

theorem exists_text? : (∃ t, v.text? = .ok t) ↔ Wanted.text.Suits v := by
  cases v <;> simp [text?, Wanted.Suits]

theorem text?_error_iff : v.text? = .error p ↔ ¬Wanted.text.Suits v ∧ p = .wrongKind v .text := by
  cases v <;> simp [text?, Wanted.Suits, eq_comm]

theorem texts?_ok_iff {l : List String} : v.texts? = .ok l ↔ v = .array (l.map .string) := by
  cases v with
  | array items =>
    rw [texts?, mapM_ok_iff, Value.array.injEq]
    induction items generalizing l with
    | nil => cases l <;> simp
    | cons item items ih =>
      cases l with
      | nil => simp
      | cons t l => simp only [List.map_cons, List.cons.injEq, ih, text?_ok_iff]
  | _ => simp [texts?]

theorem texts?_error_iff : v.texts? = .error p ↔
    (¬Wanted.sequence.Suits v ∧ p = .wrongKind v .sequence) ∨
      ∃ before item after, v = .array (before ++ item :: after) ∧
        (∀ i ∈ before, Wanted.text.Suits i) ∧ ¬Wanted.text.Suits item ∧ p = .wrongKind item .text := by
  cases v with
  | array items =>
    rw [texts?, mapM_error_iff]
    simp only [exists_text?, text?_error_iff]
    simp [Wanted.Suits]
  | _ => simp [texts?, Wanted.Suits, eq_comm]

theorem natural?_ok_iff {w : Wanted} {n : Nat} : v.natural? w = .ok n ↔ v = .integer n := by
  cases v with
  | integer m =>
    rw [natural?, Value.integer.injEq]
    split
    · simp
      omega
    · rw [Except.ok.injEq]
      omega
  | _ => simp [natural?]

theorem natural?_error_iff {w : Wanted} (hw : w = .count ∨ w = .seconds) : v.natural? w = .error p ↔
    (¬w.Suits v ∧ p = .wrongKind v w) ∨ ∃ n : Int, v = .integer n ∧ n < 0 ∧ p = .negative n w := by
  cases v with
  | integer m =>
    have hsuits : w.Suits (.integer m) := by
      rcases hw with rfl | rfl <;> trivial
    rw [natural?]
    split
    · next hm => simp [hsuits, hm, eq_comm]
    · next hm => simp [hsuits, hm]
  | _ => rcases hw with rfl | rfl <;> simp [natural?, Wanted.Suits, eq_comm]

end Toml.Value

namespace Key

def content? : (key : Key) → Toml.Value → Except DocumentProblem key.Content
  | .ignored, v | .extensions, v | .roots, v | .checkerArgs, v => v.texts?
  | .checker, v => v.text?
  | .jobs, v => v.natural? .count
  | .timeout, v => v.natural? .seconds

variable {key : Key} {v : Toml.Value} {p : DocumentProblem}

theorem content?_ok_iff {c : key.Content} : key.content? v = .ok c ↔ v = key.value c := by
  cases key with
  | ignored | extensions | roots | checkerArgs => exact Toml.Value.texts?_ok_iff
  | checker => exact Toml.Value.text?_ok_iff
  | jobs | timeout => exact Toml.Value.natural?_ok_iff

theorem refuses_sequence (h : key.wanted = .sequence) : key.Refuses v p ↔ v.texts? = .error p := by
  rw [Toml.Value.texts?_error_iff]
  constructor
  · rintro (hkind | ⟨-, hbefore, hitem⟩ | ⟨hkey, -⟩)
    · rw [h] at hkind ⊢
      exact .inl ⟨hkind, rfl⟩
    · exact .inr ⟨_, _, _, rfl, hbefore, hitem, rfl⟩
    · simp [h] at hkey
  · rintro (⟨hkind, rfl⟩ | ⟨before, item, after, rfl, hbefore, hitem, rfl⟩)
    · rw [← h] at hkind ⊢
      exact .kind hkind
    · exact .item h hbefore hitem

theorem refuses_text (h : key.wanted = .text) : key.Refuses v p ↔ v.text? = .error p := by
  rw [Toml.Value.text?_error_iff]
  constructor
  · rintro (hkind | ⟨hkey, -, -⟩ | ⟨hkey, -⟩)
    · rw [h] at hkind ⊢
      exact ⟨hkind, rfl⟩
    · simp [h] at hkey
    · simp [h] at hkey
  · rintro ⟨hkind, rfl⟩
    rw [← h] at hkind ⊢
    exact .kind hkind

theorem refuses_number (h : key.wanted = .count ∨ key.wanted = .seconds) :
    key.Refuses v p ↔ v.natural? key.wanted = .error p := by
  rw [Toml.Value.natural?_error_iff h]
  constructor
  · rintro (hkind | ⟨hkey, -, -⟩ | ⟨-, hn⟩)
    · exact .inl ⟨hkind, rfl⟩
    · simp [hkey] at h
    · exact .inr ⟨_, rfl, hn, rfl⟩
  · rintro (⟨hkind, rfl⟩ | ⟨n, rfl, hn, rfl⟩)
    · exact .kind hkind
    · exact .negative h hn

theorem content?_error_iff : key.content? v = .error p ↔ key.Refuses v p := by
  cases key with
  | ignored | extensions | roots | checkerArgs => exact (refuses_sequence rfl).symm
  | checker => exact (refuses_text rfl).symm
  | jobs => exact (@refuses_number .jobs v p (.inl rfl)).symm
  | timeout => exact (@refuses_number .timeout v p (.inr rfl)).symm

end Key

namespace Layer

theorem say_eq (l : Layer) (key : Key) (v : Toml.Value) :
    l.say key v = (key.content? v).map fun c => l.saying key (some c) := by
  cases key <;> rfl

theorem say_value (l : Layer) (key : Key) (v : key.Content) :
    l.say key (key.value v) = .ok (l.saying key (some v)) := by
  rw [say_eq, Key.content?_ok_iff.2 rfl]
  rfl

end Layer

end SyntaxSweep
