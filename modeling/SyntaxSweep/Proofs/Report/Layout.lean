import SyntaxSweep.Report.Json
import SyntaxSweep.Proofs.Text.Trimming
import SyntaxSweep.Proofs.Toml.Spelling

namespace SyntaxSweep.Json

section Quotes

/-- The first character between quotes, and what stands after it; none if the quotes end. -/
def unescaped? : List Char → Option (Char × List Char)
  | '\\' :: 'u' :: '0' :: '0' :: a :: b :: rest => do
    let high ← Toml.hexValue? a
    let low ← Toml.hexValue? b
    return (Char.ofNat (16 * high + low), rest)
  | '\\' :: k :: rest => (Toml.escaped? k).map (·, rest)
  | c :: rest => if c = '"' then none else some (c, rest)
  | [] => none

theorem unescaped?_control {c : Char} (h : c.toNat < 0x20) (rest : List Char) :
    unescaped? ('\\' :: 'u' :: '0' :: '0' :: (c.toNat / 16).digitChar :: (c.toNat % 16).digitChar ::
      rest) = some (c, rest) := by
  have hvalue {d : Nat} (hd : d < 16) : Toml.hexValue? d.digitChar = some d :=
    Toml.hexValue?_hexDigit false hd
  rw [unescaped?, hvalue (by omega), hvalue (by omega)]
  change some (Char.ofNat (16 * (c.toNat / 16) + c.toNat % 16), rest) = _
  rw [Nat.div_add_mod, Char.ofNat_toNat]

theorem unescaped?_plain {c : Char} (hquote : c ≠ '"') (hslash : c ≠ '\\') (rest : List Char) :
    unescaped? (c :: rest) = some (c, rest) := by
  rw [unescaped?]
  · exact if_neg hquote
  · exact fun _ _ _ hc _ => hslash hc
  · exact fun _ _ hc _ => hslash hc

/-- A character between quotes is read back from what it is printed as, whatever follows. -/
theorem unescaped?_escaped (c : Char) (rest : List Char) :
    unescaped? (escaped c ++ rest) = some (c, rest) := by
  unfold escaped
  split
  case h_8 hquote hslash _ _ _ _ _ =>
    split
    · next hc => exact unescaped?_control hc rest
    · exact unescaped?_plain hquote hslash rest
  all_goals rfl

variable {l m r s : List Char}

theorem flatMap_escaped_inj (h : l.flatMap escaped ++ '"' :: r = m.flatMap escaped ++ '"' :: s) :
    l = m ∧ r = s := by
  have hread := congrArg unescaped? h
  induction l generalizing m with
  | nil =>
    cases m with
    | nil => exact ⟨rfl, (List.cons.inj h).2⟩
    | cons d m =>
      rw [List.flatMap_cons, List.append_assoc, unescaped?_escaped] at hread
      cases hread
  | cons c l ih =>
    cases m with
    | nil =>
      rw [List.flatMap_cons, List.append_assoc, unescaped?_escaped] at hread
      cases hread
    | cons d m =>
      rw [List.flatMap_cons, List.flatMap_cons, List.append_assoc, List.append_assoc,
        unescaped?_escaped, unescaped?_escaped, Option.some.injEq, Prod.mk.injEq] at hread
      obtain ⟨rfl, hrest⟩ := hread
      obtain ⟨rfl, hr⟩ := ih hrest (congrArg unescaped? hrest)
      exact ⟨rfl, hr⟩

theorem stringText_append (t : String) (r : List Char) :
    stringText t ++ r = '"' :: (t.toList.flatMap escaped ++ '"' :: r) := by
  simp [stringText]

theorem stringText_inj {t u : String} (h : stringText t ++ r = stringText u ++ s) :
    t = u ∧ r = s := by
  rw [stringText_append, stringText_append] at h
  obtain ⟨htext, hr⟩ := flatMap_escaped_inj (List.cons.inj h).2
  exact ⟨String.toList_injective htext, hr⟩

end Quotes

section Digits

variable {m n : Nat} {r s : List Char}

def NoDigit (r : List Char) : Prop :=
  ∀ c ∈ r.head?, c.isDigit = false

theorem takeWhile_isDigit (n : Nat) (hr : NoDigit r) :
    (Nat.toDigits 10 n ++ r).takeWhile Char.isDigit = Nat.toDigits 10 n := by
  rw [List.takeWhile_append_of_pos fun c => Nat.isDigit_of_mem_toDigits (by decide) (by decide),
    Text.takeWhile_of_head? hr, List.append_nil]

theorem toDigits_inj (hr : NoDigit r) (hs : NoDigit s)
    (h : Nat.toDigits 10 m ++ r = Nat.toDigits 10 n ++ s) : m = n ∧ r = s := by
  have hdigits := congrArg (List.takeWhile Char.isDigit) h
  rw [takeWhile_isDigit m hr, takeWhile_isDigit n hs] at hdigits
  rw [hdigits] at h
  refine ⟨?_, List.append_cancel_left h⟩
  have hvalue := congrArg (Nat.ofDigitChars 10 · 0) hdigits
  simpa using hvalue

end Digits

section Lists

variable {α : Type} {shown : α → List Char} {l m : List α} {r s : List Char}

/-- No other value is shown like that one or like a beginning of it, whatever follows. Only digits
may not follow: more of them would make another number. -/
def Delimited (shown : α → List Char) (a : α) : Prop :=
  ∀ ⦃b r s⦄, NoDigit r → NoDigit s → shown a ++ r = shown b ++ s → a = b ∧ r = s

def following (level : Nat) (shown : α → List Char) (l : List α) : List Char :=
  l.flatMap fun a => ',' :: newLine level ++ shown a

def enclosed (opening closing : Char) (level : Nat) (shown : α → List Char) : List α → List Char
  | [] => [opening, closing]
  | a :: l => opening :: newLine (level + 1) ++ shown a ++ following (level + 1) shown l ++
      newLine level ++ [closing]

theorem following_cons (level : Nat) (a : α) (r : List Char) :
    following level shown (a :: l) ++ r =
      ',' :: newLine level ++ (shown a ++ (following level shown l ++ r)) := by
  simp [following]

theorem noDigit_following (level outer : Nat) (r : List Char) :
    NoDigit (following level shown l ++ (newLine outer ++ r)) := by
  cases l <;> rintro c ⟨⟩ <;> rfl

theorem following_inj {level outer : Nat} (hl : ∀ a ∈ l, Delimited shown a)
    (h : following level shown l ++ (newLine outer ++ r) =
      following level shown m ++ (newLine outer ++ s)) : l = m ∧ r = s := by
  induction l generalizing m with
  | nil =>
    cases m with
    | nil => exact ⟨rfl, List.append_cancel_left h⟩
    | cons b m => cases h
  | cons a l ih =>
    cases m with
    | nil => cases h
    | cons b m =>
      obtain ⟨ha, hl⟩ := List.forall_mem_cons.1 hl
      rw [following_cons, following_cons] at h
      obtain ⟨rfl, hrest⟩ := ha (noDigit_following level outer r) (noDigit_following level outer s)
        (List.append_cancel_left h)
      obtain ⟨rfl, hr⟩ := ih hl hrest
      exact ⟨rfl, hr⟩

theorem enclosed_cons (opening closing : Char) (level : Nat) (a : α) (r : List Char) :
    enclosed opening closing level shown (a :: l) ++ r = opening :: newLine (level + 1) ++
      (shown a ++ (following (level + 1) shown l ++ (newLine level ++ closing :: r))) := by
  simp [enclosed]

/-- The bracket that closes tells no values from some, for a value stands on a line of its own. -/
theorem enclosed_inj {opening closing : Char} (hclosing : closing ≠ '\n') {level : Nat}
    (hl : ∀ a ∈ l, Delimited shown a) (h : enclosed opening closing level shown l ++ r =
      enclosed opening closing level shown m ++ s) : l = m ∧ r = s := by
  cases l with
  | nil =>
    cases m with
    | nil => exact ⟨rfl, List.append_cancel_left h⟩
    | cons b m => exact absurd (List.cons.inj (List.cons.inj h).2).1 hclosing
  | cons a l =>
    cases m with
    | nil => exact absurd (List.cons.inj (List.cons.inj h).2).1.symm hclosing
    | cons b m =>
      obtain ⟨ha, hl⟩ := List.forall_mem_cons.1 hl
      rw [enclosed_cons, enclosed_cons] at h
      obtain ⟨rfl, hrest⟩ := ha (noDigit_following _ level _) (noDigit_following _ level _)
        (List.append_cancel_left h)
      obtain ⟨rfl, hr⟩ := following_inj hl hrest
      exact ⟨rfl, (List.cons.inj hr).2⟩

end Lists

section Values

/-- Induction on a value: what holds of all items or of all values of fields is passed on. -/
@[elab_as_elim]
theorem induct {motive : Json → Prop} (null : motive .null) (boolean : ∀ b, motive (.boolean b))
    (number : ∀ n, motive (.number n)) (string : ∀ text, motive (.string text))
    (array : ∀ items, (∀ item ∈ items, motive item) → motive (.array items))
    (object : ∀ fields, (∀ f ∈ fields, motive f.2) → motive (.object fields)) : ∀ j, motive j
  | .null => null
  | .boolean b => boolean b
  | .number n => number n
  | .string text => string text
  | .array items => array items fun item _ =>
    induct null boolean number string array object item
  | .object fields => object fields fun f hf =>
    have : sizeOf f.2 < sizeOf fields :=
      Nat.lt_trans (by cases f; simp +arith) (List.sizeOf_lt_of_mem hf)
    induct null boolean number string array object f.2

def layField (level : Nat) (f : String × Json) : List Char :=
  stringText f.1 ++ [':', ' '] ++ f.2.lay level

theorem layItems_eq (level : Nat) (items : List Json) :
    layItems level items = following level (lay level) items := by
  induction items with
  | nil => rfl
  | cons item items ih =>
    rw [layItems, ih]
    rfl

theorem layFields_eq (level : Nat) (fields : List (String × Json)) :
    layFields level fields = following level (layField level) fields := by
  induction fields with
  | nil => rfl
  | cons f fields ih =>
    rw [layFields, ih]
    simp [following, layField]

theorem lay_array (level : Nat) (items : List Json) :
    (array items).lay level = enclosed '[' ']' level (lay (level + 1)) items := by
  cases items with
  | nil => rfl
  | cons item items => rw [lay, layItems_eq, enclosed]

theorem lay_object (level : Nat) (fields : List (String × Json)) :
    (object fields).lay level = enclosed '\x7b' '\x7d' level (layField (level + 1)) fields := by
  cases fields with
  | nil => rfl
  | cons f fields =>
    rw [lay, layFields_eq]
    simp [enclosed, layField]

inductive Kind where
  | null
  | boolean (b : Bool)
  | number
  | string
  | array
  | object

def Kind.ofFirst : Char → Kind
  | 'n' => .null
  | 't' => .boolean true
  | 'f' => .boolean false
  | '"' => .string
  | '[' => .array
  | '\x7b' => .object
  | _ => .number

def kind : Json → Kind
  | .null => .null
  | .boolean b => .boolean b
  | .number _ => .number
  | .string _ => .string
  | .array _ => .array
  | .object _ => .object

theorem ofFirst_digit {c : Char} (h : c.isDigit) : Kind.ofFirst c = .number := by
  unfold Kind.ofFirst
  split
  case h_7 => rfl
  all_goals cases h

theorem lay_eq_cons (j : Json) (level : Nat) :
    ∃ c more, j.lay level = c :: more ∧ Kind.ofFirst c = j.kind := by
  cases j with
  | null => exact ⟨_, _, rfl, rfl⟩
  | boolean b => cases b <;> exact ⟨_, _, rfl, rfl⟩
  | number n =>
    obtain ⟨c, more, hdigits⟩ := List.exists_cons_of_ne_nil (Nat.toDigits_ne_nil (n := n) (b := 10))
    have hc : c ∈ Nat.toDigits 10 n := hdigits ▸ List.mem_cons_self
    exact ⟨c, more, hdigits, ofFirst_digit (Nat.isDigit_of_mem_toDigits (by decide) (by decide) hc)⟩
  | string text => exact ⟨_, _, rfl, rfl⟩
  | array items => cases items <;> exact ⟨_, _, rfl, rfl⟩
  | object fields => cases fields <;> exact ⟨_, _, rfl, rfl⟩

theorem kind_eq {j k : Json} {level : Nat} {r s : List Char}
    (h : j.lay level ++ r = k.lay level ++ s) : j.kind = k.kind := by
  obtain ⟨c, _, hj, hc⟩ := j.lay_eq_cons level
  obtain ⟨d, _, hk, hd⟩ := k.lay_eq_cons level
  rw [hj, hk] at h
  rw [← hc, ← hd, (List.cons.inj h).1]

theorem delimited_field {level : Nat} {f : String × Json} (h : Delimited (lay level) f.2) :
    Delimited (layField level) f := by
  intro g r s hr hs heq
  rw [layField, layField, List.append_assoc, List.append_assoc, List.append_assoc,
    List.append_assoc] at heq
  obtain ⟨hkey, hvalue⟩ := stringText_inj heq
  obtain ⟨hvalue, hrest⟩ := h hr hs (List.append_cancel_left hvalue)
  exact ⟨Prod.ext hkey hvalue, hrest⟩

theorem delimited (j : Json) : ∀ level, Delimited (lay level) j := by
  induction j using induct with
  | null =>
    intro level k r s _ _ h
    match k, kind_eq h with
    | .null, _ => exact ⟨rfl, List.append_cancel_left h⟩
  | boolean b =>
    intro level k r s _ _ h
    match k, kind_eq h with
    | .boolean _, rfl => exact ⟨rfl, List.append_cancel_left h⟩
  | number n =>
    intro level k r s hr hs h
    match k, kind_eq h with
    | .number _, _ =>
      obtain ⟨rfl, hrest⟩ := toDigits_inj hr hs h
      exact ⟨rfl, hrest⟩
  | string text =>
    intro level k r s _ _ h
    match k, kind_eq h with
    | .string _, _ =>
      obtain ⟨rfl, hrest⟩ := stringText_inj h
      exact ⟨rfl, hrest⟩
  | array items ih =>
    intro level k r s _ _ h
    match k, kind_eq h with
    | .array _, _ =>
      rw [lay_array, lay_array] at h
      obtain ⟨rfl, hrest⟩ := enclosed_inj (by decide) (fun item hitem => ih item hitem _) h
      exact ⟨rfl, hrest⟩
  | object fields ih =>
    intro level k r s _ _ h
    match k, kind_eq h with
    | .object _, _ =>
      rw [lay_object, lay_object] at h
      obtain ⟨rfl, hrest⟩ :=
        enclosed_inj (by decide) (fun f hf => delimited_field (ih f hf _)) h
      exact ⟨rfl, hrest⟩

theorem text_inj {j k : Json} (h : j.text = k.text) : j = k := by
  have hlay : j.lay 0 ++ [] = k.lay 0 ++ [] := by
    rw [String.ofList_injective h]
  have hnil : NoDigit [] := fun _ hc => nomatch hc
  exact (j.delimited 0 hnil hnil hlay).1

end Values

end SyntaxSweep.Json
