import Mathlib.Data.List.Basic
import Mathlib.Data.List.Infix
import Mathlib.Data.List.TakeWhile
import Mathlib.Tactic.IntervalCases
import SyntaxSweep.Check.Outcome
import SyntaxSweep.Proofs.Text.Trimming
import SyntaxSweep.Proofs.Text.Utf8

namespace SyntaxSweep

/-- The text ends in a word. It stands after a character that belongs to a word or does not. -/
def endsInWord (inWord : Bool) (text : List Char) : Bool :=
  text.getLast?.elim inWord Unicode.isWord

/-- Digits that a text names: they stand after a mark that does not go on a word, and go as far as they
can. `inWord` says that the character before the text belongs to a word. -/
structure Names (inWord : Bool) (text before digits after : List Char) : Prop where
  text_eq : text = before ++ lineMark ++ digits ++ after
  free : endsInWord inWord before = false
  ne_nil : digits ≠ []
  all : ∀ c ∈ digits, Unicode.isDigit c
  whole : ∀ c ∈ after.head?, Unicode.isDigit c = false

def NamesFirst (inWord : Bool) (text digits : List Char) : Prop :=
  ∃ before after, Names inWord text before digits after ∧
    ∀ before' digits' after', Names inWord text before' digits' after' →
      before.length ≤ before'.length

def foundDigits? (inWord : Bool) (text : List Char) : Option (List Char) :=
  lineDigits? Unicode.isWord Unicode.isDigit inWord text

section Search

variable {inWord : Bool} {c : Char} {text rest before digits after : List Char}

def openingDigits (text : List Char) : List Char :=
  (text.drop lineMark.length).takeWhile Unicode.isDigit

def Opens (inWord : Bool) (text : List Char) : Prop :=
  inWord = false ∧ lineMark <+: text ∧ openingDigits text ≠ []

theorem foundDigits?_of_opens (h : Opens inWord (c :: rest)) :
    foundDigits? inWord (c :: rest) = some (openingDigits (c :: rest)) := by
  obtain ⟨rfl, hmark, hdigits⟩ := h
  rw [foundDigits?, lineDigits?]
  exact if_pos ⟨rfl, List.isPrefixOf_iff_prefix.2 hmark, hdigits⟩

theorem foundDigits?_of_not_opens (h : ¬Opens inWord (c :: rest)) :
    foundDigits? inWord (c :: rest) = foundDigits? (Unicode.isWord c) rest := by
  rw [foundDigits?, lineDigits?]
  refine if_neg fun ⟨hfree, hmark, hdigits⟩ => h ⟨?_, List.isPrefixOf_iff_prefix.1 hmark, hdigits⟩
  simpa using hfree

theorem opens_of_names (h : Names inWord text [] digits after) :
    Opens inWord text ∧ digits = openingDigits text := by
  obtain ⟨rfl, hfree, hne, hall, hwhole⟩ := h
  have hdigits : openingDigits ([] ++ lineMark ++ digits ++ after) = digits := by
    rw [openingDigits, List.nil_append, List.append_assoc, List.drop_left,
      List.takeWhile_append_of_pos hall, Text.takeWhile_of_head? hwhole, List.append_nil]
  exact ⟨⟨hfree, ⟨digits ++ after, by simp⟩, by rwa [hdigits]⟩, hdigits.symm⟩

theorem names_of_opens (h : Opens inWord text) :
    ∃ after, Names inWord text [] (openingDigits text) after := by
  obtain ⟨hfree, ⟨more, rfl⟩, hne⟩ := h
  have hdigits : openingDigits (lineMark ++ more) = more.takeWhile Unicode.isDigit := by
    rw [openingDigits, List.drop_left]
  rw [hdigits] at hne ⊢
  refine ⟨more.dropWhile Unicode.isDigit, ?_, hfree, hne, fun c => List.mem_takeWhile_imp, ?_⟩
  · rw [List.nil_append, List.append_assoc, List.takeWhile_append_dropWhile]
  · intro c hc
    have hhead := List.head?_dropWhile_not Unicode.isDigit more
    rwa [Option.mem_def.1 hc] at hhead

theorem endsInWord_cons (inWord : Bool) (c : Char) (text : List Char) :
    endsInWord inWord (c :: text) = endsInWord (Unicode.isWord c) text := by
  cases text with
  | nil => rfl
  | cons d more => simp [endsInWord, List.getLast?_cons]

theorem names_cons_iff {d : Char} : Names inWord (c :: rest) (d :: before) digits after ↔
    d = c ∧ Names (Unicode.isWord c) rest before digits after := by
  constructor
  · rintro ⟨heq, hfree, hne, hall, hwhole⟩
    obtain ⟨rfl, rfl⟩ := List.cons.inj heq
    exact ⟨rfl, rfl, endsInWord_cons inWord c before ▸ hfree, hne, hall, hwhole⟩
  · rintro ⟨rfl, rfl, hfree, hne, hall, hwhole⟩
    exact ⟨rfl, (endsInWord_cons inWord d before).trans hfree, hne, hall, hwhole⟩

theorem exists_names_rest (hopens : ¬Opens inWord (c :: rest))
    (h : Names inWord (c :: rest) before digits after) :
    ∃ more, before = c :: more ∧ Names (Unicode.isWord c) rest more digits after := by
  cases before with
  | nil => exact absurd (opens_of_names h).1 hopens
  | cons d more =>
    obtain ⟨rfl, hmore⟩ := names_cons_iff.1 h
    exact ⟨more, rfl, hmore⟩

theorem not_names_nil : ¬Names inWord [] before digits after := by
  intro h
  obtain ⟨hbefore, -⟩ := List.append_eq_nil_iff.1 h.text_eq.symm
  obtain ⟨-, hdigits⟩ := List.append_eq_nil_iff.1 hbefore
  exact h.ne_nil hdigits

theorem namesFirst_of_found (h : foundDigits? inWord text = some digits) :
    NamesFirst inWord text digits := by
  induction text generalizing inWord with
  | nil => cases h
  | cons c rest ih =>
    by_cases hopens : Opens inWord (c :: rest)
    · rw [foundDigits?_of_opens hopens] at h
      obtain ⟨after, hnames⟩ := names_of_opens hopens
      obtain rfl := Option.some.inj h
      exact ⟨[], after, hnames, fun _ _ _ _ => Nat.zero_le _⟩
    · rw [foundDigits?_of_not_opens hopens] at h
      obtain ⟨before, after, hnames, hfirst⟩ := ih h
      refine ⟨c :: before, after, names_cons_iff.2 ⟨rfl, hnames⟩, fun before' digits' after' h' => ?_⟩
      obtain ⟨more, rfl, hmore⟩ := exists_names_rest hopens h'
      exact Nat.succ_le_succ (hfirst more digits' after' hmore)

theorem found_of_names (h : Names inWord text before digits after) :
    ∃ first, foundDigits? inWord text = some first := by
  induction text generalizing inWord before with
  | nil => exact absurd h not_names_nil
  | cons c rest ih =>
    by_cases hopens : Opens inWord (c :: rest)
    · exact ⟨_, foundDigits?_of_opens hopens⟩
    · obtain ⟨more, -, hmore⟩ := exists_names_rest hopens h
      rw [foundDigits?_of_not_opens hopens]
      exact ih hmore

theorem Names.digits_eq {before' digits' after' : List Char}
    (h : Names inWord text before digits after) (h' : Names inWord text before' digits' after')
    (hlength : before.length = before'.length) : digits = digits' := by
  induction text generalizing inWord before before' with
  | nil => exact absurd h not_names_nil
  | cons c rest ih =>
    cases before with
    | nil =>
      obtain rfl := List.length_eq_zero_iff.1 hlength.symm
      rw [(opens_of_names h).2, (opens_of_names h').2]
    | cons d more =>
      cases before' with
      | nil => cases hlength
      | cons d' more' =>
        exact ih (names_cons_iff.1 h).2 (names_cons_iff.1 h').2 (Nat.succ.inj hlength)

theorem namesFirst_iff : NamesFirst inWord text digits ↔ foundDigits? inWord text = some digits := by
  refine ⟨fun ⟨before, after, hnames, hfirst⟩ => ?_, namesFirst_of_found⟩
  obtain ⟨found, hfound⟩ := found_of_names hnames
  obtain ⟨before', after', hnames', hfirst'⟩ := namesFirst_of_found hfound
  have hlength :=
    Nat.le_antisymm (hfirst before' found after' hnames') (hfirst' before digits after hnames)
  rw [hfound, hnames.digits_eq hnames' hlength]

theorem found_eq_none_iff :
    foundDigits? inWord text = none ↔ ∀ digits, ¬NamesFirst inWord text digits := by
  simp only [namesFirst_iff, Option.eq_none_iff_forall_ne_some, ne_eq]

theorem foundDigits?_append_of_free
    (h : ∀ m, m <:+ text → m ≠ [] → ¬m <+: lineMark ∧ ¬lineMark <+: m) :
    foundDigits? inWord (text ++ rest) = foundDigits? (endsInWord inWord text) rest := by
  induction text generalizing inWord with
  | nil => rfl
  | cons c more ih =>
    have hopens : ¬Opens inWord (c :: (more ++ rest)) := by
      rintro ⟨-, hmark, -⟩
      obtain ⟨hshort, hlong⟩ := h (c :: more) List.suffix_rfl (List.cons_ne_nil c more)
      exact (List.prefix_or_prefix_of_prefix hmark (List.prefix_append (c :: more) rest)).elim
        hlong hshort
    rw [List.cons_append, foundDigits?_of_not_opens hopens, endsInWord_cons]
    exact ih fun m hm => h m (hm.trans (List.suffix_cons c more))

theorem lineMark_eq : lineMark = ['o', 'n', ' ', 'l', 'i', 'n', 'e', ' '] := by
  decide

theorem openingDigits_append (h : lineMark.length ≤ text.length) :
    openingDigits (text ++ ' ' :: rest) = openingDigits text := by
  have hblank : (' ' :: rest).takeWhile Unicode.isDigit = [] :=
    List.takeWhile_cons_of_neg (by decide)
  rw [openingDigits, List.drop_append_of_le_length h, List.takeWhile_append, hblank, List.append_nil]
  split
  · next hall => exact ((List.takeWhile_prefix _).eq_of_length hall).symm
  · rfl

theorem not_opens_of_short (h : text.length < lineMark.length) :
    ¬Opens inWord (text ++ ' ' :: 'o' :: rest) := by
  rintro ⟨-, ⟨more, hmore⟩, hdigits⟩
  have hblank : (lineMark ++ more)[text.length]? = some ' ' := by simp [hmore]
  have hletter : (lineMark ++ more)[text.length + 1]? = some 'o' := by simp [hmore]
  rw [← hmore, openingDigits, List.drop_left] at hdigits
  refine hdigits (Text.takeWhile_of_head? fun c hc => ?_)
  generalize text.length = k at h hblank hletter
  -- The blanks of the mark are followed by another letter, and by digits.
  rw [lineMark_eq] at h hblank hletter
  replace h : k < 8 := h
  interval_cases k <;> simp at hblank hletter
  rw [List.head?_eq_getElem?, hletter] at hc
  obtain rfl := Option.some.inj hc
  decide

theorem opens_append_iff : Opens inWord (text ++ ' ' :: 'o' :: rest) ↔ Opens inWord text := by
  obtain hshort | hlong := Nat.lt_or_ge text.length lineMark.length
  · refine iff_of_false (not_opens_of_short hshort) fun hopens => ?_
    exact absurd hopens.2.1.length_le (Nat.not_le.2 hshort)
  · rw [Opens, Opens, openingDigits_append hlong]
    refine and_congr_right fun _ => and_congr_left fun _ => ⟨fun hmark => ?_, fun hmark => ?_⟩
    · exact List.prefix_of_prefix_length_le hmark (List.prefix_append _ _) hlong
    · exact hmark.trans (List.prefix_append _ _)

theorem foundDigits?_append : foundDigits? inWord (text ++ ' ' :: 'o' :: rest) =
    (foundDigits? inWord text).or (foundDigits? (endsInWord inWord text) (' ' :: 'o' :: rest)) := by
  induction text generalizing inWord with
  | nil => rfl
  | cons c more ih =>
    have happend := @opens_append_iff inWord (c :: more) rest
    rw [List.cons_append] at happend ⊢
    by_cases hopens : Opens inWord (c :: more)
    · rw [foundDigits?_of_opens hopens, foundDigits?_of_opens (happend.2 hopens), ← List.cons_append,
        openingDigits_append hopens.2.1.length_le, Option.some_or]
    · rw [foundDigits?_of_not_opens hopens, foundDigits?_of_not_opens (mt happend.1 hopens), ih,
        endsInWord_cons]

/-- A mark with digits behind a blank is found, whatever stood before the blank. -/
theorem foundDigits?_mark (hne : digits ≠ []) (hall : ∀ c ∈ digits, Unicode.isDigit c)
    (hwhole : ∀ c ∈ after.head?, Unicode.isDigit c = false) :
    foundDigits? inWord (' ' :: (lineMark ++ (digits ++ after))) = some digits := by
  have hblank : ¬Opens inWord (' ' :: (lineMark ++ (digits ++ after))) := by
    rintro ⟨-, hmark, -⟩
    rw [lineMark_eq, List.cons_prefix_cons] at hmark
    exact absurd hmark.1 (by decide)
  have hnames : Names (Unicode.isWord ' ') (lineMark ++ (digits ++ after)) [] digits after :=
    ⟨by rw [List.nil_append, List.append_assoc], by decide +kernel, hne, hall, hwhole⟩
  rw [foundDigits?_of_not_opens hblank, ← namesFirst_iff]
  exact ⟨[], after, hnames, fun _ _ _ _ => Nat.zero_le _⟩

theorem foundDigits?_append_mark (hne : digits ≠ []) (hall : ∀ c ∈ digits, Unicode.isDigit c)
    (hwhole : ∀ c ∈ after.head?, Unicode.isDigit c = false) :
    foundDigits? inWord (text ++ ' ' :: (lineMark ++ (digits ++ after))) =
      (foundDigits? inWord text).or (some digits) := by
  have hsplit : foundDigits? inWord (text ++ ' ' :: (lineMark ++ (digits ++ after))) =
      (foundDigits? inWord text).or
        (foundDigits? (endsInWord inWord text) (' ' :: (lineMark ++ (digits ++ after)))) := by
    rw [lineMark_eq]
    exact foundDigits?_append
  rw [hsplit, foundDigits?_mark hne hall hwhole]

end Search

theorem isDigit_of_isDigit {c : Char} (h : c.isDigit) : Unicode.isDigit c := by
  rw [Unicode.isDigit, Unicode.inRanges_iff]
  exact ⟨(0x30, 0x39), List.mem_cons_self, Char.isDigit_iff_toNat.1 h⟩

theorem lineNumber?_toDigits {n : Nat} (h : n < 2 ^ 32) :
    lineNumber? (Nat.toDigits 10 n) = some n := by
  have hall : (Nat.toDigits 10 n).all Char.isDigit :=
    List.all_eq_true.2 fun _ => Nat.isDigit_of_mem_toDigits (by decide) (by decide)
  have hvalue : (Nat.toDigits 10 n).foldl (fun n d => n * 10 + (d.toNat - '0'.toNat)) 0 = n := by
    have hten := @Nat.ofDigitChars_ten_toDigits n
    rw [Nat.ofDigitChars_eq_foldl] at hten
    simpa only [Nat.mul_comm] using hten
  rw [lineNumber?, if_pos hall]
  simp only [hvalue]
  exact if_pos h

def unexpectedEnd : String :=
  "PHP Parse error:  syntax error, unexpected end of file in "

/-- What the interpreter prints of a file that ends too early, with the line where it does. -/
def parseError (name : String) (line : Nat) : String :=
  unexpectedEnd ++ name ++ " on line " ++ line.repr ++ "\nErrors parsing " ++ name ++ "\n"

theorem unexpectedEnd_free : ∀ m, m <:+ unexpectedEnd.toList → m ≠ [] →
    ¬m <+: lineMark ∧ ¬lineMark <+: m := by
  have hall : ∀ m ∈ unexpectedEnd.toList.tails, m ≠ [] → ¬m <+: lineMark ∧ ¬lineMark <+: m := by
    decide
  exact fun m hm => hall m ((List.mem_tails m _).2 hm)

theorem foundDigits?_parseError (name : String) (line : Nat) :
    foundDigits? false (parseError name line).toList =
      (foundDigits? false name.toList).or (some (Nat.toDigits 10 line)) := by
  have htext : (parseError name line).toList = unexpectedEnd.toList ++ (name.toList ++
      ' ' :: (lineMark ++ (Nat.toDigits 10 line ++ ("\nErrors parsing " ++ name ++ "\n").toList))) := by
    have hmark : " on line ".toList = ' ' :: lineMark := rfl
    simp only [parseError, String.toList_append, Nat.toList_repr, hmark, List.append_assoc,
      List.cons_append]
  have hfree : endsInWord false unexpectedEnd.toList = false := by decide +kernel
  rw [htext, foundDigits?_append_of_free unexpectedEnd_free, hfree]
  refine foundDigits?_append_mark Nat.toDigits_ne_nil (fun c hc => ?_) fun c hc => ?_
  · exact isDigit_of_isDigit (Nat.isDigit_of_mem_toDigits (by decide) (by decide) hc)
  · rw [String.toList_append, String.toList_append] at hc
    obtain rfl : '\n' = c := Option.some.inj hc
    decide

theorem namedLine?_parseError (name : String) (line : Nat) : namedLine? (parseError name line) =
    ((foundDigits? false name.toList).or (some (Nat.toDigits 10 line))).bind lineNumber? :=
  congrArg (·.bind lineNumber?) (foundDigits?_parseError name line)

variable {σ : Type}

/-- Of a file that ends too early, the line that the interpreter names is the one recorded just if the
file's own name names no line or that same one; else it is the line that the name names first. -/
theorem line_of_parseError (s : Settings) (checker : Checker σ) (state : σ) (name : String)
    {status : Int} {line : Nat} (hstatus : status ≠ 0) (hline : line ≤ 2 ^ 32 - 1)
    (hanswer : (checker state (s.callFor (.ofText name))).1 = .ok ⟨status, parseError name line⟩) :
    ∃ o, (checkFile s checker state (.ofText name)).1 = .ok o ∧ o.path = .ofText name ∧
      o.succeeded = false ∧
      (o.line = some line ↔
        ∀ digits, NamesFirst false name.toList digits → lineNumber? digits = some line) ∧
      ∀ digits, NamesFirst false name.toList digits → o.line = lineNumber? digits := by
  have houtcome : (checkFile s checker state (.ofText name)).1 =
      .ok (.ofAnswer (.ofText name) ⟨status, parseError name line⟩) :=
    congrArg (Except.map (Outcome.ofAnswer (.ofText name))) hanswer
  refine ⟨_, houtcome, ?_⟩
  rw [Outcome.ofAnswer, if_neg hstatus]
  refine ⟨rfl, rfl, ?_⟩
  dsimp only
  rw [namedLine?_parseError]
  simp only [namesFirst_iff]
  cases hfound : foundDigits? false name.toList with
  | none =>
    have hvalue := lineNumber?_toDigits (Nat.lt_of_le_pred (by decide) hline)
    simp [hvalue]
  | some digits => simp

def endsEarly (line : Nat) : Checker Unit := fun _ call =>
  (.ok ⟨255, parseError (call.args.getLastD "") line⟩, ())

theorem endsEarly_callFor (s : Settings) (name : String) (line : Nat) :
    (endsEarly line () (s.callFor (.ofText name))).1 = .ok ⟨255, parseError name line⟩ := by
  have htext : (Path.ofText name).text = name := lossyText_bytesOf name
  simp [endsEarly, Settings.callFor, htext]

def oneRoot : Settings :=
  ⟨[], ["php"], [.ofText "."], "php", ["-l"], 1, none⟩

/-- The marks in this name stand behind another letter, or before what is no digit. -/
theorem line_of_nearMiss :
    ∃ o, (checkFile oneRoot (endsEarly 4294967295) () (.ofText "upon line 4 on line x.php")).1 =
      .ok o ∧ o.line = some 4294967295 := by
  have hfound : foundDigits? false "upon line 4 on line x.php".toList = none := by decide +kernel
  obtain ⟨o, ho, -, -, hline, -⟩ := line_of_parseError oneRoot (endsEarly 4294967295) ()
    "upon line 4 on line x.php" (by decide : (255 : Int) ≠ 0) (by decide) (endsEarly_callFor _ _ _)
  exact ⟨o, ho, hline.2 fun digits hdigits => absurd hdigits (found_eq_none_iff.1 hfound digits)⟩

/-- The line in this name is recorded, and not the one that the interpreter names. -/
theorem line_of_name_recorded : ¬∀ (name : String) (line : Nat), line ≤ 2 ^ 32 - 1 →
    ∃ o, (checkFile oneRoot (endsEarly line) () (.ofText name)).1 = .ok o ∧ o.line = some line := by
  intro h
  obtain ⟨o, ho, hline⟩ := h "old on line 7.php" 3 (by decide)
  have houtcome : (checkFile oneRoot (endsEarly 3) () (.ofText "old on line 7.php")).1 =
      .ok (.ofAnswer (.ofText "old on line 7.php") ⟨255, parseError "old on line 7.php" 3⟩) :=
    congrArg (Except.map (Outcome.ofAnswer _)) (endsEarly_callFor oneRoot "old on line 7.php" 3)
  have hfound : foundDigits? false "old on line 7.php".toList = some ['7'] := by decide +kernel
  obtain rfl := Except.ok.inj (houtcome.symm.trans ho)
  have hfailed : (255 : Int) ≠ 0 := by decide
  rw [Outcome.ofAnswer, if_neg hfailed] at hline
  dsimp only at hline
  rw [namedLine?_parseError, hfound] at hline
  cases hline

end SyntaxSweep
