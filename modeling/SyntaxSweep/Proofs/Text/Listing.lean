import SyntaxSweep.PathList
import SyntaxSweep.Proofs.Text.Utf8
import SyntaxSweep.Proofs.Text.Trimming

namespace SyntaxSweep

namespace Utf8

theorem decode?_line (l r : Bytes) : decode? (l ++ lineFeed :: r) = do
    let before ← decode? l
    let after ← decode? r
    return before ++ '\n' :: after :=
  decode?_append_ascii l r (by decide)

theorem newline_not_mem {l : Bytes} {text : List Char} (h : decode? l = some text)
    (hl : lineFeed ∉ l) : '\n' ∉ text := by
  rw [decode?_eq_some_iff] at h
  rintro hmem
  apply hl
  rw [h, encode, List.mem_flatMap]
  exact ⟨'\n', hmem, List.mem_singleton_self lineFeed⟩

end Utf8

section Lines

variable {l : Bytes}

theorem rawLines_of_not_mem (hne : l ≠ []) (h : lineFeed ∉ l) : rawLines l = [l] := by
  induction l with
  | nil => exact absurd rfl hne
  | cons b rest ih =>
    obtain ⟨hb, hrest⟩ := not_or.1 (mt List.mem_cons.2 h)
    rw [rawLines, if_neg (Ne.symm hb)]
    by_cases hr : rest = []
    · rw [hr]
      rfl
    · rw [ih hr hrest]

theorem rawLines_append (h : lineFeed ∉ l) (r : Bytes) :
    rawLines (l ++ lineFeed :: r) = (l ++ [lineFeed]) :: rawLines r := by
  induction l with
  | nil => rfl
  | cons b rest ih =>
    obtain ⟨hb, hrest⟩ := not_or.1 (mt List.mem_cons.2 h)
    rw [List.cons_append, rawLines, if_neg (Ne.symm hb), ih hrest]
    rfl

theorem trim_withoutReturn (line : List Char) :
    Text.trim (withoutReturn line) = Text.trim line := by
  unfold withoutReturn
  split
  · next h =>
    obtain ⟨before, rfl⟩ := List.getLast?_eq_some_iff.1 h
    rw [List.dropLast_concat, Text.trim_append before (by decide)]
  · rfl

theorem trim_withoutEnd (line : List Char) : Text.trim (withoutEnd line) = Text.trim line := by
  unfold withoutEnd
  split
  · next h =>
    obtain ⟨before, rfl⟩ := List.getLast?_eq_some_iff.1 h
    rw [List.dropLast_concat, trim_withoutReturn, Text.trim_append before (by decide)]
  · rfl

theorem pathOn?_withoutEnd (line : List Char) : pathOn? (withoutEnd line) = pathOn? line := by
  rw [pathOn?, trim_withoutEnd]
  rfl

theorem pathOn?_withoutReturn (line : List Char) : pathOn? (withoutReturn line) = pathOn? line := by
  rw [pathOn?, trim_withoutReturn]
  rfl

theorem pathOn?_append (line : List Char) {c : Char} (hc : isBlank c) :
    pathOn? (line ++ [c]) = pathOn? line := by
  rw [pathOn?, Text.trim_append line hc]
  rfl

end Lines

def pathsIn (text : List Char) : List Path :=
  (((pieces '\n' text).map Text.trim).filter (· ≠ [])).map fun name => ⟨Utf8.encode name⟩

theorem pathsIn_append (a b : List Char) : pathsIn (a ++ '\n' :: b) = pathsIn a ++ pathsIn b := by
  simp only [pathsIn, pieces_append_cons, List.map_append, List.filter_append]

theorem pathsIn_of_not_mem {text : List Char} (h : '\n' ∉ text) :
    pathsIn text = (pathOn? text).toList := by
  rw [pathsIn, pieces_of_not_mem h, pathOn?]
  by_cases hname : Text.trim text = [] <;> simp [hname]

section Streams

variable {l : Bytes}

theorem filterMap_pathOn?_cons (line : List Char) (more : List (List Char)) :
    (line :: more).filterMap pathOn? = (pathOn? line).toList ++ more.filterMap pathOn? := by
  rw [List.filterMap_cons]
  cases pathOn? line <;> rfl

theorem readPaths_line (h : lineFeed ∉ l) : readPaths l =
    match Utf8.decode? l with
    | some text => .ok (pathOn? text).toList
    | none => .error (.fileList (.unreadable .notUtf8)) := by
  by_cases hl : l = []
  · rw [hl]
    rfl
  · rw [readPaths, rawLines_of_not_mem hl h, List.mapM_cons, textOfLine?]
    cases Utf8.decode? l with
    | none => rfl
    | some text =>
      change Except.ok ([withoutEnd text].filterMap pathOn?) = _
      rw [filterMap_pathOn?_cons, pathOn?_withoutEnd, List.filterMap_nil, List.append_nil]

theorem textOfLine?_concat (l : Bytes) :
    textOfLine? (l ++ [lineFeed]) = (Utf8.decode? l).map withoutReturn := by
  rw [textOfLine?, Utf8.decode?_line]
  cases Utf8.decode? l with
  | none => rfl
  | some text =>
    change some (withoutEnd (text ++ ['\n'])) = _
    rw [withoutEnd, List.getLast?_concat, if_pos rfl, List.dropLast_concat]
    rfl

/-- The paths of a stream up to a line feed, then those of what follows it. -/
theorem readPaths_line_append (h : lineFeed ∉ l) (r : Bytes) :
    readPaths (l ++ lineFeed :: r) = do return (← readPaths l) ++ (← readPaths r) := by
  rw [readPaths_line h, readPaths, rawLines_append h, List.mapM_cons, textOfLine?_concat, readPaths]
  cases Utf8.decode? l with
  | none => rfl
  | some text =>
    cases (rawLines r).mapM textOfLine? with
    | none => rfl
    | some lines =>
      change Except.ok ((withoutReturn text :: lines).filterMap pathOn?) = _
      rw [filterMap_pathOn?_cons, pathOn?_withoutReturn]
      rfl

theorem readPaths_append (l r : Bytes) :
    readPaths (l ++ lineFeed :: r) = do return (← readPaths l) ++ (← readPaths r) := by
  induction l using induction_lines (s := lineFeed) with
  | last l h => exact readPaths_line_append h r
  | line l m h ih =>
    rw [List.append_assoc, List.cons_append, readPaths_line_append h, ih, readPaths_line_append h]
    cases readPaths l with
    | error => rfl
    | ok before =>
      cases readPaths m with
      | error => rfl
      | ok middle =>
        cases readPaths r with
        | error => rfl
        | ok after => exact congrArg Except.ok (List.append_assoc before middle after).symm

theorem readPaths_eq (stream : Bytes) : readPaths stream =
    match Utf8.decode? stream with
    | some text => .ok (pathsIn text)
    | none => .error (.fileList (.unreadable .notUtf8)) := by
  induction stream using induction_lines (s := lineFeed) with
  | last l h =>
    rw [readPaths_line h]
    cases htext : Utf8.decode? l with
    | none => rfl
    | some text =>
      dsimp only
      rw [pathsIn_of_not_mem (Utf8.newline_not_mem htext h)]
  | line l r h ih =>
    rw [readPaths_line_append h, readPaths_line h, ih, Utf8.decode?_line]
    cases htext : Utf8.decode? l with
    | none => rfl
    | some text =>
      cases Utf8.decode? r with
      | none => rfl
      | some more =>
        change Except.ok ((pathOn? text).toList ++ pathsIn more) =
          .ok (pathsIn (text ++ '\n' :: more))
        rw [pathsIn_append, pathsIn_of_not_mem (Utf8.newline_not_mem htext h)]

theorem readPaths_encode (text : List Char) :
    readPaths (Utf8.encode text) = .ok (pathsIn text) := by
  rw [readPaths_eq, Utf8.decode?_encode]

theorem pathsIn_blank {text : List Char} (h : ∀ c ∈ text, isBlank c) : pathsIn text = [] := by
  induction text using induction_lines (s := '\n') with
  | last line hline =>
    rw [pathsIn_of_not_mem hline, pathOn?, if_pos (Text.trim_eq_nil_iff.2 h)]
    rfl
  | line line rest hline ih =>
    have hblank : ∀ c ∈ line, isBlank c := fun c hc => h c (List.mem_append_left _ hc)
    have hrest := ih fun c hc => h c (List.mem_append_right _ (List.mem_cons_of_mem _ hc))
    rw [pathsIn_append, hrest, pathsIn_of_not_mem hline, pathOn?,
      if_pos (Text.trim_eq_nil_iff.2 hblank)]
    rfl

theorem readPaths_blank {text : List Char} (h : ∀ c ∈ text, isBlank c) :
    readPaths (Utf8.encode text) = .ok [] := by
  rw [readPaths_encode, pathsIn_blank h]

/-- White space on lines of its own before a stream adds no path. -/
theorem readPaths_blank_append {text : List Char} (h : ∀ c ∈ text, isBlank c) (stream : Bytes) :
    readPaths (Utf8.encode text ++ lineFeed :: stream) = readPaths stream := by
  rw [readPaths_append, readPaths_blank h]
  cases readPaths stream <;> rfl

theorem readPaths_append_blank {text : List Char} (h : ∀ c ∈ text, isBlank c) (stream : Bytes) :
    readPaths (stream ++ lineFeed :: Utf8.encode text) = readPaths stream := by
  rw [readPaths_append, readPaths_blank h]
  cases readPaths stream with
  | error => rfl
  | ok paths => exact congrArg Except.ok (List.append_nil paths)

/-- A line feed with a carriage return before it, and every other octet as it is. -/
def withReturn (b : UInt8) : Bytes :=
  if b = lineFeed then [0x0D, lineFeed] else [b]

theorem flatMap_withReturn (h : lineFeed ∉ l) : l.flatMap withReturn = l := by
  induction l with
  | nil => rfl
  | cons b rest ih =>
    obtain ⟨hb, hrest⟩ := not_or.1 (mt List.mem_cons.2 h)
    rw [List.flatMap_cons, ih hrest, withReturn, if_neg (Ne.symm hb)]
    rfl

theorem readPaths_return (h : lineFeed ∉ l) : readPaths (l ++ [0x0D]) = readPaths l := by
  have hreturn : lineFeed ∉ l ++ [0x0D] := by
    rw [List.mem_append, not_or]
    exact ⟨h, by decide⟩
  rw [readPaths_line h, readPaths_line hreturn, Utf8.decode?_append_ascii l [] (by decide)]
  cases Utf8.decode? l with
  | none => rfl
  | some text =>
    change Except.ok (pathOn? (text ++ ['\r'])).toList = _
    rw [pathOn?_append text (by decide)]

theorem readPaths_withReturn (stream : Bytes) :
    readPaths (stream.flatMap withReturn) = readPaths stream := by
  induction stream using induction_lines (s := lineFeed) with
  | last l h => rw [flatMap_withReturn h]
  | line l r h ih =>
    have hstream : (l ++ lineFeed :: r).flatMap withReturn =
        (l ++ [0x0D]) ++ lineFeed :: r.flatMap withReturn := by
      rw [List.flatMap_append, flatMap_withReturn h, List.flatMap_cons, List.append_assoc]
      rfl
    rw [hstream, readPaths_append, readPaths_append, readPaths_return h, ih]

/-- A name that stands on a line as it is. -/
structure IsListable (name : List Char) : Prop extends Text.IsUnpadded name where
  ne_nil : name ≠ []
  no_feed : '\n' ∉ name

theorem IsListable.pathOn?_eq {name : List Char} (h : IsListable name) :
    pathOn? name = some ⟨Utf8.encode name⟩ := by
  rw [pathOn?, Text.trim_eq_self h.toIsUnpadded]
  exact if_neg h.ne_nil

theorem readPaths_joined {names : List (List Char)} (h : ∀ name ∈ names, IsListable name) :
    readPaths (joined lineFeed (names.map Utf8.encode)) =
      .ok (names.map fun name => ⟨Utf8.encode name⟩) := by
  induction names with
  | nil => rfl
  | cons name rest ih =>
    obtain ⟨hname, hrest⟩ := List.forall_mem_cons.1 h
    have hone : readPaths (Utf8.encode name) = .ok [⟨Utf8.encode name⟩] := by
      rw [readPaths_encode, pathsIn_of_not_mem hname.no_feed, hname.pathOn?_eq]
      rfl
    by_cases hr : rest = []
    · rw [hr]
      exact hone
    · rw [List.map_cons, joined_cons _ (by simpa using hr), readPaths_append, hone, ih hrest]
      rfl

/-- Every path that stands on a line of a text is read, in order, and nothing but that decides over
what is read: not how lines end, not blank lines, and not how the stream is cut at line feeds. -/
theorem readPaths_lossless (stream : Bytes) :
    ((∃ e, readPaths stream = .error e) ↔ ∀ text, stream ≠ Utf8.encode text) ∧
      (∀ e, readPaths stream = .error e → e = .fileList (.unreadable .notUtf8)) ∧
      (∀ text, stream = Utf8.encode text →
        readPaths stream = .ok ((((pieces '\n' text).map Text.trim).filter (· ≠ [])).map
          fun name => ⟨Utf8.encode name⟩)) ∧
      readPaths (stream.flatMap withReturn) = readPaths stream ∧
      readPaths (stream ++ [lineFeed]) = readPaths stream ∧
      (∀ blank : List Char, (∀ c ∈ blank, isBlank c) →
        readPaths (Utf8.encode blank ++ lineFeed :: stream) = readPaths stream ∧
        readPaths (stream ++ lineFeed :: Utf8.encode blank) = readPaths stream ∧
        ∀ more, readPaths (stream ++ lineFeed :: (Utf8.encode blank ++ lineFeed :: more)) =
          readPaths (stream ++ lineFeed :: more)) ∧
      (∀ more, readPaths (stream ++ lineFeed :: more) = do
        return (← readPaths stream) ++ (← readPaths more)) ∧
      ∀ names : List (List Char), (∀ name ∈ names, IsListable name) →
        readPaths (joined lineFeed (names.map Utf8.encode)) =
          .ok (names.map fun name => ⟨Utf8.encode name⟩) := by
  have hended : readPaths (stream ++ [lineFeed]) = readPaths stream :=
    @readPaths_append_blank [] nofun stream
  refine ⟨?_, ?_, ?_, readPaths_withReturn stream, hended, ?_, readPaths_append stream,
    fun names => readPaths_joined⟩
  · rw [readPaths_eq]
    constructor
    · rintro ⟨e, he⟩ text rfl
      rw [Utf8.decode?_encode] at he
      cases he
    · intro h
      have hnone : Utf8.decode? stream = none :=
        Option.eq_none_iff_forall_ne_some.2 fun text ht => h text (Utf8.decode?_eq_some_iff.1 ht)
      rw [hnone]
      exact ⟨_, rfl⟩
  · intro e he
    rw [readPaths_eq] at he
    split at he
    · cases he
    · exact (Except.error.inj he).symm
  · rintro text rfl
    exact readPaths_encode text
  · intro blank hblank
    refine ⟨readPaths_blank_append hblank stream, readPaths_append_blank hblank stream, ?_⟩
    intro more
    rw [readPaths_append, readPaths_blank_append hblank, readPaths_append]

/-- An ideographic space, a carriage return and a tab around names that hold a blank and an accent,
and the octets of the accent on two lines. -/
theorem readPaths_awkward :
    readPaths (bytesOf "\u3000a b\r\n\n\té.php\n \n") = .ok [.ofText "a b", .ofText "é.php"] ∧
      readPaths (bytesOf "a b\né.php") = .ok [.ofText "a b", .ofText "é.php"] ∧
      readPaths [0x61, lineFeed, 0xC3, lineFeed, 0xA9] =
        .error (.fileList (.unreadable .notUtf8)) := by
  refine ⟨?_, ?_, ?_⟩
  · obtain ⟨-, -, -, -, -, hblank, -⟩ := readPaths_lossless (bytesOf "\u3000a b\r\n\n\té.php")
    obtain ⟨-, -, htext, -⟩ := readPaths_lossless (bytesOf "\u3000a b\r\n\n\té.php")
    have hended := (hblank [' ', '\n'] (List.all_eq_true.1 rfl)).2.1
    have hnames : ((pieces '\n' "\u3000a b\r\n\n\té.php".toList).map Text.trim).filter (· ≠ []) =
        ["a b".toList, "é.php".toList] := by
      decide +kernel
    have hread := htext _ rfl
    rw [hnames] at hread
    exact hended.trans hread
  · obtain ⟨-, -, -, -, -, -, -, hnames⟩ := readPaths_lossless []
    have hlistable : ∀ name ∈ ["a b".toList, "é.php".toList], IsListable name := by
      simp only [List.forall_mem_cons]
      exact ⟨⟨⟨by simp [isBlank], by simp [isBlank]⟩, by decide, by decide⟩,
        ⟨⟨by simp [isBlank], by simp [isBlank]⟩, by decide, by decide⟩, nofun⟩
    exact hnames _ hlistable
  · obtain ⟨⟨-, herror⟩, hcause, -⟩ :=
      readPaths_lossless [0x61, lineFeed, 0xC3, lineFeed, 0xA9]
    obtain ⟨e, he⟩ := herror fun text htext => by
      have hnone : Utf8.decode? [0x61, lineFeed, 0xC3, lineFeed, 0xA9] = none := by decide
      rw [htext, Utf8.decode?_encode] at hnone
      cases hnone
    rw [he, hcause e he]

end Streams

end SyntaxSweep
