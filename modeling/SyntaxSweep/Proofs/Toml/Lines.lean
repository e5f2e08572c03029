import SyntaxSweep.Toml.Reading
import SyntaxSweep.Proofs.Toml.Spelling

namespace SyntaxSweep.Toml

/-- A key with its value, and how the value is spelled. -/
structure Entry where
  name : List Char
  spelled : List Char
  value : Value

namespace Entry

def line (e : Entry) : List Char :=
  e.name ++ ' ' :: '=' :: ' ' :: e.spelled ++ ['\n']

def pair (e : Entry) : Pair :=
  ⟨⟨[], String.ofList e.name⟩, e.value⟩

end Entry

def IsBareName (name : List Char) : Prop :=
  name ≠ [] ∧ ∀ c ∈ name, isBare c

structure ReadsAs (spelled : List Char) (v : Value) : Prop where
  spaces_eq : ∀ rest, spaces (spelled ++ rest) = spelled ++ rest
  value?_eq : ∀ fuel rest, spelled.length ≤ fuel →
    value? (fuel + 1) 0 (spelled ++ '\n' :: rest) = some (v, '\n' :: rest)

/-- The line of the entry says what the entry says. -/
structure Entry.Readable (e : Entry) : Prop where
  bare : IsBareName e.name
  reads : ReadsAs e.spelled e.value

theorem isSpace_digitChar : ∀ {d : Nat}, d < 10 → isSpace d.digitChar = false := by
  decide

namespace ReadsAs

theorem text (s : Spelling) (t : String) : ReadsAs (s.text t) (.string t) where
  spaces_eq _ := rfl
  value?_eq _ _ _ := value?_text s t (by simp)

theorem array (s : Spelling) (l : List String) : ReadsAs (s.array l) (.array (l.map .string)) where
  spaces_eq _ := rfl
  value?_eq fuel rest h := by
    have hlength := length_le_items s l
    refine value?_array s l _ ?_ (by decide)
    simp only [Spelling.array, List.length_append, List.length_cons] at h
    omega

theorem decimal {n : Nat} (h : n < Nat.pow 2 63) : ReadsAs (decimal n) (.integer n) where
  spaces_eq rest := by
    cases Nat.eq_zero_or_pos n with
    | inl hn =>
      subst hn
      rfl
    | inr hn =>
      obtain ⟨d, more, _, hlt, hd⟩ := exists_decimal hn
      rw [hd]
      exact List.dropWhile_cons_of_neg (by simp [isSpace_digitChar hlt])
  value?_eq _ rest _ := value?_decimal h rest

end ReadsAs

theorem ne_of_isBare {c d : Char} (hc : isBare c) (hd : isBare d = false) : c ≠ d := by
  rintro rfl
  rw [hc] at hd
  cases hd

theorem isSpace_of_isBare {c : Char} (h : isBare c) : isSpace c = false := by
  simp [isSpace, ne_of_isBare h (d := ' ') rfl, ne_of_isBare h (d := '\t') rfl]

namespace IsBareName

variable {name : List Char} (h : IsBareName name)

include h

theorem exists_cons : ∃ c more, name = c :: more ∧ isBare c := by
  cases name with
  | nil => exact absurd rfl h.1
  | cons c more => exact ⟨c, more, rfl, h.2 c List.mem_cons_self⟩

theorem append_ne {d : Char} (hd : isBare d = false) (rest more : List Char) :
    name ++ rest ≠ d :: more := by
  obtain ⟨c, before, rfl, hc⟩ := h.exists_cons
  exact fun heq => ne_of_isBare hc hd (List.cons.inj heq).1

theorem spaces_append (rest : List Char) : spaces (name ++ rest) = name ++ rest := by
  obtain ⟨c, more, rfl, hc⟩ := h.exists_cons
  exact List.dropWhile_cons_of_neg (by simp [isSpace_of_isBare hc])

theorem filler_append (rest : List Char) : filler false (name ++ rest) = some (name ++ rest) := by
  obtain ⟨c, more, rfl, hc⟩ := h.exists_cons
  rw [List.cons_append, filler]
  · rw [isSpace_of_isBare hc]
    rfl
  · exact ne_of_isBare hc rfl
  · exact fun _ hr _ => ne_of_isBare hc rfl hr
  · exact ne_of_isBare hc rfl

theorem keyPart?_append (rest : List Char) :
    keyPart? (name ++ ' ' :: rest) = some (String.ofList name, ' ' :: rest) := by
  have htake : (name ++ ' ' :: rest).takeWhile isBare = name := by
    rw [List.takeWhile_append_of_pos h.2, List.takeWhile_cons_of_neg (by decide), List.append_nil]
  have hdrop : (name ++ ' ' :: rest).dropWhile isBare = ' ' :: rest := by
    rw [List.dropWhile_append_of_pos h.2, List.dropWhile_cons_of_neg (by decide)]
  rw [keyPart?]
  · rw [htake, hdrop, if_neg h.1]
  -- A name that opens with a quote would be read as a text.
  · exact fun more => h.append_ne rfl _ more
  · exact fun more => h.append_ne rfl _ more

theorem key?_append (rest : List Char) :
    key? (name ++ ' ' :: '=' :: rest) = some (⟨[], String.ofList name⟩, '=' :: rest) := by
  have hpart := h.keyPart?_append ('=' :: rest)
  have hspaces := h.spaces_append (' ' :: '=' :: rest)
  have hparts : keyParts? (nestingLimit - 1) (name ++ ' ' :: '=' :: rest) =
      some ([String.ofList name], '=' :: rest) := by
    change keyParts? (78 + 1) _ = _
    rw [keyParts?, hspaces, hpart]
    rfl
  rw [key?, hparts]
  rfl

end IsBareName

theorem line?_line {e : Entry} (h : e.Readable) (rest : List Char) :
    line? (e.line ++ rest) = some (.pair e.pair, rest) := by
  have hline : e.line ++ rest = e.name ++ ' ' :: '=' :: ' ' :: (e.spelled ++ '\n' :: rest) := by
    simp [Entry.line]
  have hkey := h.bare.key?_append (' ' :: (e.spelled ++ '\n' :: rest))
  have hspaces := h.reads.spaces_eq ('\n' :: rest)
  have hvalue := h.reads.value?_eq (e.spelled ++ '\n' :: rest).length.succ rest (by simp; omega)
  rw [hline, line?]
  · rw [hkey]
    change (value? _ 0 (spaces (e.spelled ++ '\n' :: rest))).bind _ = _
    rw [hspaces]
    change (value? ((e.spelled ++ '\n' :: rest).length.succ + 1) 0 _).bind _ = _
    rw [hvalue]
    rfl
  · exact fun more => h.bare.append_ne rfl _ _
  · exact fun more => h.bare.append_ne rfl _ more

theorem lines?_lines {entries : List Entry} (h : ∀ e ∈ entries, e.Readable) {fuel : Nat}
    (hfuel : entries.length < fuel) :
    lines? fuel (entries.flatMap Entry.line) = some ((entries.map Entry.pair).map .pair) := by
  induction entries generalizing fuel with
  | nil =>
    obtain ⟨fuel, rfl⟩ := Nat.exists_eq_add_one.2 hfuel
    rfl
  | cons e entries ih =>
    obtain ⟨fuel, rfl⟩ := Nat.exists_eq_add_one.2 (Nat.zero_lt_of_lt hfuel)
    have he := h e List.mem_cons_self
    have hline := line?_line he (entries.flatMap Entry.line)
    have hmore := ih (fun e he => h e (List.mem_cons_of_mem _ he)) (Nat.lt_of_succ_lt_succ hfuel)
    have hfiller : filler false (e.line ++ entries.flatMap Entry.line) =
        some (e.line ++ entries.flatMap Entry.line) := by
      rw [Entry.line, List.append_assoc, List.append_assoc]
      exact he.bare.filler_append _
    have hne : e.line ++ entries.flatMap Entry.line ≠ [] := by
      simp [Entry.line]
    rw [List.flatMap_cons, lines?, hfiller]
    change (if e.line ++ entries.flatMap Entry.line = [] then some [] else _) = _
    rw [if_neg hne, hline]
    change (lines? fuel (entries.flatMap Entry.line)).bind _ = _
    rw [hmore]
    rfl

theorem sections_pairs (pairs : List Pair) : sections (pairs.map .pair) = (pairs, []) := by
  induction pairs with
  | nil => rfl
  | cons p pairs ih => rw [List.map_cons, sections, ih]

theorem Slots.find?_eq_none {key : String} {slots : Slots} (h : key ∉ slots.map (·.1)) :
    slots.find? key = none := by
  induction slots with
  | nil => rfl
  | cons slot slots ih =>
    rw [List.map_cons, List.mem_cons, not_or] at h
    rw [Slots.find?, if_neg (Ne.symm h.1), ih h.2]

theorem Slots.assignAll_fresh {entries : List Entry} (slots : Slots)
    (h : (slots.map (·.1) ++ entries.map fun e => String.ofList e.name).Nodup) :
    assignAll (entries.map Entry.pair) slots =
      some (slots ++ entries.map fun e => (String.ofList e.name, .value e.value)) := by
  induction entries generalizing slots with
  | nil => simp [assignAll]
  | cons e entries ih =>
    have hfind : slots.find? (String.ofList e.name) = none := by
      apply find?_eq_none
      intro he
      exact (List.nodup_append.1 h).2.2 _ he _ List.mem_cons_self rfl
    have hmore := ih (slots ++ [(String.ofList e.name, .value e.value)]) (by simpa using h)
    rw [List.map_cons, assignAll, List.foldlM_cons]
    change (assign (String.ofList e.name) e.value [] slots).bind _ = _
    rw [assign_fresh e.value hfind]
    change assignAll (entries.map Entry.pair) _ = _
    rw [hmore]
    simp

theorem closeAll_values (values : List (String × Value)) :
    closeAll (values.map fun e => (e.1, .value e.2)) = values := by
  induction values with
  | nil => rfl
  | cons e values ih => rw [List.map_cons, closeAll, ih, Slot.close]

theorem length_le_lines (entries : List Entry) :
    entries.length ≤ (entries.flatMap Entry.line).length := by
  induction entries with
  | nil => exact Nat.zero_le _
  | cons e entries ih =>
    simp only [List.flatMap_cons, List.length_append, List.length_cons, Entry.line]
    omega

theorem lines_ne_mark {entries : List Entry} (h : ∀ e ∈ entries, e.Readable) (more : List Char) :
    entries.flatMap Entry.line ≠ '\ufeff' :: more := by
  cases entries with
  | nil => exact (List.cons_ne_nil _ _).symm
  | cons e entries =>
    rw [List.flatMap_cons, Entry.line, List.append_assoc, List.append_assoc]
    exact (h e List.mem_cons_self).bare.append_ne rfl _ more

theorem read?_lines {entries : List Entry} (h : ∀ e ∈ entries, e.Readable)
    (hnodup : (entries.map fun e => String.ofList e.name).Nodup) :
    Document.read? (entries.flatMap Entry.line) =
      some (entries.map fun e => (String.ofList e.name, e.value)) := by
  have hlines := lines?_lines h (Nat.lt_succ_of_le (length_le_lines entries))
  have hsections := sections_pairs (entries.map Entry.pair)
  have hslots := Slots.assignAll_fresh [] hnodup
  have hclosed := closeAll_values (entries.map fun e => (String.ofList e.name, e.value))
  rw [List.map_map] at hclosed
  rw [Document.read?]
  · change (lines? (entries.flatMap Entry.line).length.succ _).bind _ = _
    rw [hlines, Option.bind_some]
    change Document.assemble? (sections _).1 (sections _).2 = _
    rw [hsections]
    change (Slots.assignAll _ []).bind _ = _
    rw [hslots]
    change some (closeAll _) = _
    exact congrArg some hclosed
  · exact lines_ne_mark h

end SyntaxSweep.Toml
