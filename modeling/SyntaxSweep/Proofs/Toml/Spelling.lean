import SyntaxSweep.Toml.Expression
import Mathlib.Data.List.Basic
import Mathlib.Tactic.IntervalCases

namespace SyntaxSweep.Toml

variable {fuel depth : Nat}

def hexDigit (upper : Bool) (d : Nat) : Char :=
  if upper then d.digitChar.toUpper else d.digitChar

/-- The last `width` digits of a number to the base 16. -/
def paddedHex (upper : Bool) : Nat → Nat → List Char
  | 0, _ => []
  | width + 1, n => paddedHex upper width (n / 16) ++ [hexDigit upper (n % 16)]

/-- The letters that stand for a character after a backslash, with that character. -/
def letters : List (Char × Char) :=
  [('b', '\x08'), ('t', '\t'), ('n', '\n'), ('f', '\x0c'), ('r', '\r'), ('"', '"'), ('\\', '\\')]

/-- A character between double quotes: as it is, if nothing forbids that, or by an escape. -/
inductive Writes (c : Char) : List Char → Prop
  | plain (hc : c = '\t' ∨ 0x20 ≤ c.toNat ∧ c.toNat ≠ 0x7F) (hquote : c ≠ '"') (hslash : c ≠ '\\') :
    Writes c [c]
  | letter {k : Char} (h : (k, c) ∈ letters) : Writes c ['\\', k]
  | four (upper : Bool) (h : c.toNat < 16 ^ 4) :
    Writes c ('\\' :: 'u' :: paddedHex upper 4 c.toNat)
  | eight (upper : Bool) : Writes c ('\\' :: 'U' :: paddedHex upper 8 c.toNat)

/-- A choice, for each character, of how it is written between double quotes. -/
structure Spelling where
  of : Char → List Char
  writes : ∀ c, Writes c (of c)

namespace Spelling

/-- Escapes where they are needed, a letter if one stands for the character. -/
def needed : Spelling where
  of c :=
    match letters.find? (·.2 = c) with
    | some (k, _) => ['\\', k]
    | none =>
      if 0x20 ≤ c.toNat ∧ c.toNat ≠ 0x7F then [c] else '\\' :: 'u' :: paddedHex false 4 c.toNat
  writes c := by
    split
    · next k d hk =>
      have hd : d = c := by simpa using List.find?_some hk
      subst hd
      exact .letter (List.mem_of_find?_eq_some hk)
    · next hk =>
      have hother : ∀ p ∈ letters, p.2 ≠ c := by simpa using hk
      split
      · next hc =>
        refine .plain (.inr hc) (fun hq => ?_) fun hs => ?_
        · exact hother ('"', '"') (by decide) hq.symm
        · exact hother ('\\', '\\') (by decide) hs.symm
      · next hc => exact .four false (by omega)

def text (s : Spelling) (t : String) : List Char :=
  '"' :: t.toList.flatMap s.of ++ ['"']

/-- Texts as they stand between the brackets of an array. -/
def items (s : Spelling) (l : List String) : List Char :=
  [',', ' '].intercalate (l.map s.text)

def array (s : Spelling) (l : List String) : List Char :=
  '[' :: s.items l ++ [']']

end Spelling

def decimal (n : Nat) : List Char :=
  Nat.toDigits 10 n

theorem hexValue?_hexDigit (upper : Bool) {d : Nat} (h : d < 16) :
    hexValue? (hexDigit upper d) = some d := by
  revert upper d
  decide

theorem length_paddedHex (upper : Bool) (width n : Nat) :
    (paddedHex upper width n).length = width := by
  induction width generalizing n with
  | zero => rfl
  | succ width ih => rw [paddedHex, List.length_append, ih, List.length_singleton]

theorem hexValues_paddedHex (upper : Bool) (width : Nat) {n : Nat} (h : n < 16 ^ width) :
    ∃ values, (paddedHex upper width n).mapM hexValue? = some values ∧
      values.foldl (fun n d => n * 16 + d) 0 = n := by
  induction width generalizing n with
  | zero => exact ⟨[], rfl, (Nat.lt_one_iff.1 h).symm⟩
  | succ width ih =>
    have hdiv : n / 16 < 16 ^ width := Nat.div_lt_of_lt_mul (by rwa [Nat.pow_succ'] at h)
    obtain ⟨values, hvalues, hn⟩ := ih hdiv
    have hlast := hexValue?_hexDigit upper (Nat.mod_lt n (by decide : 0 < 16))
    refine ⟨values ++ [n % 16], ?_, ?_⟩
    · simp [paddedHex, hvalues, hlast]
    · rw [List.foldl_append, hn, List.foldl_cons, List.foldl_nil]
      exact Nat.div_add_mod' n 16

theorem scalar?_paddedHex (upper : Bool) {width : Nat} {c : Char} (h : c.toNat < 16 ^ width) :
    scalar? (paddedHex upper width c.toNat) = some c := by
  obtain ⟨values, hvalues, hn⟩ := hexValues_paddedHex upper width h
  have hc : c.toNat < 0xD800 ∨ 0xDFFF < c.toNat ∧ c.toNat < 0x110000 := c.valid
  simp [scalar?, hvalues, hn, hc]

theorem toNat_lt (c : Char) : c.toNat < 16 ^ 8 := by
  have hc : c.toNat < 0xD800 ∨ 0xDFFF < c.toNat ∧ c.toNat < 0x110000 := c.valid
  omega

theorem escaped?_of_mem_letters :
    ∀ p ∈ letters, escaped? p.1 = some p.2 ∧ p.1 ≠ 'u' ∧ p.1 ≠ 'U' := by
  decide

theorem isPlain_of {c : Char} (h : c = '\t' ∨ 0x20 ≤ c.toNat ∧ c.toNat ≠ 0x7F) : isPlain c := by
  simpa [isPlain] using h

namespace Writes

variable {c : Char} {w : List Char}

theorem basicText?_append (h : Writes c w) (more : List Char) :
    basicText? (w ++ more) = (basicText? more).map fun p => (c :: p.1, p.2) := by
  cases h with
  | plain hc hquote hslash =>
    rw [List.singleton_append, basicText?]
    · rw [if_pos (isPlain_of hc)]
      cases basicText? more <;> rfl
    · exact fun _ _ _ _ _ hc _ => hslash hc
    · exact fun _ _ _ _ _ _ _ _ _ hc _ => hslash hc
    · exact fun _ _ hc _ => hslash hc
    · exact hquote
  | @letter k h =>
    obtain ⟨hk, hu, hU⟩ := escaped?_of_mem_letters _ h
    change basicText? ('\\' :: k :: more) = _
    rw [basicText?, hk]
    · cases basicText? more <;> rfl
    · exact fun _ _ _ _ _ hk _ => hu hk
    · exact fun _ _ _ _ _ _ _ _ _ hk _ => hU hk
  | four upper h =>
    have hlength := length_paddedHex upper 4 c.toNat
    have hc := scalar?_paddedHex upper h
    generalize paddedHex upper 4 c.toNat = digits at hlength hc
    match digits, hlength with
    | [d₁, d₂, d₃, d₄], _ =>
      change basicText? ('\\' :: 'u' :: d₁ :: d₂ :: d₃ :: d₄ :: more) = _
      rw [basicText?, hc]
      cases basicText? more <;> rfl
  | eight upper =>
    have hlength := length_paddedHex upper 8 c.toNat
    have hc := scalar?_paddedHex upper (toNat_lt c)
    generalize paddedHex upper 8 c.toNat = digits at hlength hc
    match digits, hlength with
    | [d₁, d₂, d₃, d₄, d₅, d₆, d₇, d₈], _ =>
      change basicText? ('\\' :: 'U' :: d₁ :: d₂ :: d₃ :: d₄ :: d₅ :: d₆ :: d₇ :: d₈ :: more) = _
      rw [basicText?, hc]
      cases basicText? more <;> rfl

theorem exists_cons (h : Writes c w) : ∃ d more, w = d :: more ∧ d ≠ '"' := by
  cases h with
  | plain _ hquote _ => exact ⟨c, [], rfl, hquote⟩
  | letter => exact ⟨'\\', _, rfl, by decide⟩
  | four => exact ⟨'\\', _, rfl, by decide⟩
  | eight => exact ⟨'\\', _, rfl, by decide⟩

end Writes

theorem basicText?_flatMap (s : Spelling) (t rest : List Char) :
    basicText? (t.flatMap s.of ++ '"' :: rest) = some (t, rest) := by
  induction t with
  | nil => rfl
  | cons c t ih =>
    rw [List.flatMap_cons, List.append_assoc, (s.writes c).basicText?_append, ih]
    rfl

/-- Only the empty text has another quote after the first, and then no third one. -/
theorem flatMap_ne_quotes (s : Spelling) (t : List Char) {rest : List Char}
    (h : rest.head? ≠ some '"') (more : List Char) :
    t.flatMap s.of ++ '"' :: rest ≠ '"' :: '"' :: more := by
  cases t with
  | nil =>
    rintro heq
    rw [(List.cons.inj heq).2] at h
    exact h rfl
  | cons c t =>
    obtain ⟨d, w, hd, hne⟩ := (s.writes c).exists_cons
    rw [List.flatMap_cons, hd]
    exact fun heq => hne (List.cons.inj heq).1

theorem text?_text (s : Spelling) (t : String) {rest : List Char} (h : rest.head? ≠ some '"') :
    text? (s.text t ++ rest) = some (t.toList, rest) := by
  have hspelled : s.text t ++ rest = '"' :: (t.toList.flatMap s.of ++ '"' :: rest) := by
    simp [Spelling.text]
  rw [hspelled, text?]
  · exact basicText?_flatMap s t.toList rest
  · exact fun more heq => flatMap_ne_quotes s t.toList h more (List.cons.inj heq).2
  · exact fun _ heq => absurd (List.cons.inj heq).1 (by decide)

theorem value?_text (s : Spelling) (t : String) {rest : List Char} (h : rest.head? ≠ some '"') :
    value? (fuel + 1) depth (s.text t ++ rest) = some (.string t, rest) := by
  change (text? (s.text t ++ rest)).map _ = _
  rw [text?_text s t h, Option.map_some]
  simp only [String.ofList_toList]

theorem items_singleton (s : Spelling) (t : String) : s.items [t] = s.text t :=
  List.intercalate_singleton

theorem items_cons_cons (s : Spelling) (t u : String) (l : List String) :
    s.items (t :: u :: l) = s.text t ++ ',' :: ' ' :: s.items (u :: l) := by
  simp [Spelling.items]

theorem exists_items (s : Spelling) (t : String) (l : List String) :
    ∃ more, s.items (t :: l) = '"' :: more := by
  cases l with
  | nil => exact ⟨_, items_singleton s t⟩
  | cons u l => exact ⟨_, items_cons_cons s t u l⟩

theorem length_le_items (s : Spelling) (l : List String) : l.length ≤ (s.items l).length := by
  induction l with
  | nil => exact Nat.zero_le _
  | cons t l ih =>
    cases l with
    | nil =>
      rw [items_singleton]
      exact Nat.le_add_left 1 _
    | cons u l =>
      simp only [items_cons_cons, List.length_append, List.length_cons] at ih ⊢
      omega

theorem items?_items (s : Spelling) (t : String) (l : List String) (rest : List Char)
    (h : l.length < fuel) :
    items? (fuel + 1) depth (s.items (t :: l) ++ ']' :: rest) =
      some ((t :: l).map .string, rest) := by
  induction l generalizing t fuel with
  | nil =>
    obtain ⟨fuel, rfl⟩ := Nat.exists_eq_add_one.2 h
    have hitem : value? (fuel + 1) depth (s.text t ++ ']' :: rest) =
        some (.string t, ']' :: rest) := value?_text s t (by simp)
    rw [items_singleton, items?, hitem]
    rfl
  | cons u l ih =>
    obtain ⟨fuel, rfl⟩ := Nat.exists_eq_add_one.2 (Nat.zero_lt_of_lt h)
    have hitems := items_cons_cons s t u l
    have hitem : value? (fuel + 1) depth
        (s.text t ++ (',' :: ' ' :: s.items (u :: l) ++ ']' :: rest)) =
          some (.string t, ',' :: ' ' :: s.items (u :: l) ++ ']' :: rest) :=
      value?_text s t (by simp)
    have hrest := ih u (Nat.lt_of_succ_lt_succ h)
    -- The blank after the comma is skipped, and what then stands there opens a text.
    obtain ⟨more, hmore⟩ := exists_items s u l
    rw [hmore] at hitems hitem hrest
    rw [hitems, List.append_assoc, items?, hitem]
    change (items? (fuel + 1) depth ('"' :: more ++ ']' :: rest)).bind _ = _
    rw [hrest]
    rfl

theorem value?_array (s : Spelling) (l : List String) (rest : List Char) (h : l.length < fuel)
    (hdepth : depth + 1 < nestingLimit) :
    value? (fuel + 1) depth (s.array l ++ rest) = some (.array (l.map .string), rest) := by
  cases l with
  | nil =>
    change value? (fuel + 1) depth ('[' :: ']' :: rest) = _
    rw [value?, if_neg (Nat.not_le.2 hdepth)]
    rfl
  | cons t l =>
    obtain ⟨fuel, rfl⟩ := Nat.exists_eq_add_one.2 (Nat.zero_lt_of_lt h)
    have hitems := @items?_items _ (depth + 1) s t l rest (Nat.lt_of_succ_lt_succ h)
    have hspelled : s.array (t :: l) ++ rest = '[' :: (s.items (t :: l) ++ ']' :: rest) := by
      simp [Spelling.array]
    obtain ⟨more, hmore⟩ := exists_items s t l
    rw [hmore] at hitems hspelled
    rw [hspelled, value?, if_neg (Nat.not_le.2 hdepth)]
    change (items? (fuel + 1) (depth + 1) ('"' :: more ++ ']' :: rest)).bind _ = _
    rw [hitems]
    rfl

theorem isDigit_of_mem_decimal {n : Nat} {c : Char} (h : c ∈ decimal n) : c.isDigit :=
  Nat.isDigit_of_mem_toDigits (by decide) (by decide) h

theorem exists_decimal {n : Nat} (h : 0 < n) :
    ∃ d more, 0 < d ∧ d < 10 ∧ decimal n = d.digitChar :: more := by
  induction n using Nat.strongRecOn with
  | ind n ih =>
    by_cases hn : n < 10
    · exact ⟨n, [], h, hn, Nat.toDigits_of_lt_base hn⟩
    · obtain ⟨d, more, hpos, hlt, hd⟩ := ih (n / 10) (by omega) (by omega)
      have hlast : decimal n = decimal (n / 10) ++ [(n % 10).digitChar] :=
        Nat.toDigits_of_base_le (by decide) (Nat.not_lt.1 hn)
      exact ⟨d, more ++ [(n % 10).digitChar], hpos, hlt, by rw [hlast, hd, List.cons_append]⟩

theorem valueIn_digits {digits : List Char} (h : ∀ c ∈ digits, c.isDigit) :
    valueIn 10 digits = Nat.ofDigitChars 10 digits 0 := by
  rw [Nat.ofDigitChars_eq_foldl, valueIn]
  apply List.foldl_ext
  intro n d hd
  rw [digitValue, if_pos (h d hd), Nat.mul_comm]

theorem valueIn_decimal (n : Nat) : valueIn 10 (decimal n) = n := by
  rw [valueIn_digits fun _ => isDigit_of_mem_decimal]
  exact Nat.ofDigitChars_ten_toDigits

theorem moreDigits?_digits {digits : List Char} (h : ∀ c ∈ digits, c.isDigit) (rest : List Char) :
    moreDigits? Char.isDigit (digits ++ '\n' :: rest) = some (digits, '\n' :: rest) := by
  induction digits with
  | nil => simp [moreDigits?]
  | cons d digits ih =>
    have hd := h d List.mem_cons_self
    have hmore := ih fun c hc => h c (List.mem_cons_of_mem d hc)
    have hne : d ≠ '_' := by
      rintro rfl
      cases hd
    rw [List.cons_append, moreDigits?]
    · rw [if_pos hd, hmore]
      rfl
    · exact fun _ _ h _ => hne h
    · exact fun h _ => hne h

theorem opensWith_digits {digits : List Char} (h : ∀ c ∈ digits, c.isDigit) (mark : Char)
    (hmark : mark.isDigit = false) (hne : mark ≠ '\n') (count : Nat) (rest : List Char) :
    opensWith count mark (digits ++ '\n' :: rest) = false := by
  induction digits generalizing count with
  | nil =>
    cases count with
    | zero => simp [opensWith, hne.symm]
    | succ count => simp [opensWith]
  | cons d digits ih =>
    have hd := h d List.mem_cons_self
    cases count with
    | zero =>
      have hdmark : d ≠ mark := by
        rintro rfl
        rw [hd] at hmark
        cases hmark
      simp [opensWith, hdmark]
    | succ count =>
      have hmore := ih (fun c hc => h c (List.mem_cons_of_mem d hc)) count
      simpa [opensWith, hd] using hmore

theorem dateTime?_decimal (n : Nat) (rest : List Char) :
    dateTime? (decimal n ++ '\n' :: rest) = none := by
  have hdigits : ∀ c ∈ decimal n, c.isDigit := fun _ => isDigit_of_mem_decimal
  have hdate := opensWith_digits hdigits '-' rfl (by decide) 4 rest
  have htime := opensWith_digits hdigits ':' rfl (by decide) 2 rest
  rw [dateTime?, hdate, htime]
  rfl

theorem wholeDigits?_digit {d : Nat} (hpos : 0 < d) (h : d < 10) (more : List Char) :
    wholeDigits? (d.digitChar :: more) = digits? Char.isDigit (d.digitChar :: more) := by
  interval_cases d <;> rfl

theorem wholeDigits?_decimal (n : Nat) (rest : List Char) :
    wholeDigits? (decimal n ++ '\n' :: rest) = some (decimal n, '\n' :: rest) := by
  cases Nat.eq_zero_or_pos n with
  | inl h =>
    subst h
    rfl
  | inr h =>
    obtain ⟨d, more, hpos, hlt, hd⟩ := exists_decimal h
    have hdigits : ∀ c ∈ decimal n, c.isDigit := fun _ => isDigit_of_mem_decimal
    rw [hd] at hdigits ⊢
    have hmore := moreDigits?_digits (fun c hc => hdigits c (List.mem_cons_of_mem _ hc)) rest
    rw [List.cons_append, wholeDigits?_digit hpos hlt, digits?,
      if_pos (hdigits _ List.mem_cons_self), hmore]
    rfl

theorem decimal?_decimal {n : Nat} (h : n < Nat.pow 2 63) (rest : List Char) :
    decimal? none (decimal n ++ '\n' :: rest) = some (.integer n, '\n' :: rest) := by
  have hn : integer? false (valueIn 10 (decimal n)) = some (.integer n) := by
    rw [valueIn_decimal, integer?, if_neg (by decide), if_pos h]
  rw [decimal?, wholeDigits?_decimal]
  change (integer? false (valueIn 10 (decimal n))).bind _ = _
  rw [hn]
  rfl

/-- What begins with a digit other than zero is a date or a decimal number. -/
theorem value?_digit {d : Nat} (hpos : 0 < d) (h : d < 10) (more : List Char) :
    value? (fuel + 1) depth (d.digitChar :: more) =
      (dateTime? (d.digitChar :: more)).getD (decimal? none (d.digitChar :: more)) := by
  interval_cases d <;> rfl

theorem value?_decimal {n : Nat} (h : n < Nat.pow 2 63) (rest : List Char) :
    value? (fuel + 1) depth (decimal n ++ '\n' :: rest) = some (.integer n, '\n' :: rest) := by
  have hdate := dateTime?_decimal n rest
  have hdecimal := decimal?_decimal h rest
  cases Nat.eq_zero_or_pos n with
  | inl hn =>
    subst hn
    change (dateTime? (decimal 0 ++ '\n' :: rest)).getD
      (decimal? none (decimal 0 ++ '\n' :: rest)) = _
    rw [hdate, hdecimal]
    rfl
  | inr hn =>
    obtain ⟨d, more, hpos, hlt, hd⟩ := exists_decimal hn
    rw [hd, List.cons_append] at hdate hdecimal ⊢
    rw [value?_digit hpos hlt, hdate, hdecimal]
    rfl

end SyntaxSweep.Toml
