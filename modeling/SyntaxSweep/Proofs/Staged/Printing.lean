import SyntaxSweep.Proofs.Scan.Extension
import SyntaxSweep.Proofs.Staged.Scoping

namespace SyntaxSweep

def isUnquoted (b : UInt8) : Bool :=
  0x20 ≤ b.toNat && b.toNat < 0x7F && b.toNat ≠ 0x22 && b.toNat ≠ 0x5C

/-- The letter after the backslash, for an octet that has one. -/
def escapeLetter? (b : UInt8) : Option Char :=
  match b.toNat with
  | 0x07 => some 'a'
  | 0x08 => some 'b'
  | 0x09 => some 't'
  | 0x0A => some 'n'
  | 0x0B => some 'v'
  | 0x0C => some 'f'
  | 0x0D => some 'r'
  | 0x22 => some '"'
  | 0x5C => some '\\'
  | _ => none

def printedOctet (b : UInt8) : List Char :=
  if isUnquoted b then [Char.ofNat b.toNat]
  else
    match escapeLetter? b with
    | some c => ['\\', c]
    | none => '\\' :: [b.toNat / 64, b.toNat / 8 % 8, b.toNat % 8].map Nat.digitChar

def isUnquotedName (name : String) : Bool :=
  (bytesOf name).all isUnquoted

def printedName (name : String) : String :=
  if isUnquotedName name then name
  else String.ofList ('"' :: (bytesOf name).flatMap printedOctet ++ ['"'])

def printedLines (names : List String) : String :=
  String.ofList ((names.map fun name => (printedName name).toList).flatMap (· ++ ['\n']))

/-- What git prints in a repository with this top and these names staged. -/
structure Git.Prints (git : Git) (top : String) (names : List String) : Prop where
  top_eq : ∃ warnings, git topArgs = .ok ⟨0, bytesOf (top ++ "\n"), warnings⟩
  names_eq : ∃ warnings, git namesArgs = .ok ⟨0, bytesOf (printedLines names), warnings⟩

/-- A git that prints nothing but this. -/
def repository (top : String) (names : List String) : Git := fun args =>
  .ok ⟨0, bytesOf (if args = topArgs then top ++ "\n" else printedLines names), []⟩

theorem prints_repository (top : String) (names : List String) :
    (repository top names).Prints top names :=
  ⟨⟨[], rfl⟩, ⟨[], rfl⟩⟩

section Printed

variable {name : String}

theorem printedOctet_visible (b : UInt8) : ∀ c ∈ printedOctet b, 0x20 ≤ c.toNat := by
  have hall : (List.range 256).all fun n =>
      (printedOctet (UInt8.ofNat n)).all fun c => 0x20 ≤ c.toNat := by
    decide +kernel
  have hb := List.all_eq_true.1 hall b.toNat (List.mem_range.2 b.toNat_lt)
  rw [UInt8.ofNat_toNat] at hb
  exact fun c hc => of_decide_eq_true (List.all_eq_true.1 hb c hc)

theorem not_mem_of_unquoted (h : isUnquotedName name) {c : Char} {b : UInt8}
    (hc : String.utf8EncodeChar c = [b]) (hb : isUnquoted b = false) : c ∉ name.toList := by
  intro hmem
  have hbytes : b ∈ bytesOf name :=
    List.mem_flatMap.2 ⟨c, hmem, hc ▸ List.mem_singleton_self b⟩
  rw [List.all_eq_true.1 h b hbytes] at hb
  cases hb

theorem printedName_unquoted (h : isUnquotedName name) : printedName name = name := if_pos h

theorem toList_printedName (h : ¬isUnquotedName name) :
    (printedName name).toList = '"' :: (bytesOf name).flatMap printedOctet ++ ['"'] := by
  rw [printedName, if_neg h, String.toList_ofList]

theorem getLast?_printedName (h : ¬isUnquotedName name) :
    (printedName name).toList.getLast? = some '"' := by
  rw [toList_printedName h, List.getLast?_concat]

theorem printedName_line (name : String) :
    '\n' ∉ (printedName name).toList ∧ (printedName name).toList.getLast? ≠ some '\r' := by
  by_cases h : isUnquotedName name
  · rw [printedName_unquoted h]
    refine ⟨not_mem_of_unquoted h rfl rfl, fun hlast => ?_⟩
    exact not_mem_of_unquoted h rfl rfl (List.mem_of_getLast? hlast)
  · refine ⟨fun hmem => ?_, by simp [getLast?_printedName h]⟩
    rw [toList_printedName h] at hmem
    have hflat : '\n' ∈ (bytesOf name).flatMap printedOctet := by simpa using hmem
    obtain ⟨b, -, hb⟩ := List.mem_flatMap.1 hflat
    exact absurd (printedOctet_visible b _ hb) (by decide)

theorem namesIn_printedLines (names : List String) :
    namesIn (printedLines names) = (names.map printedName).filter (· ≠ "") := by
  have hlines := @lines_ended (names.map fun name => (printedName name).toList) (by
    intro line hline
    obtain ⟨name, -, rfl⟩ := List.mem_map.1 hline
    exact printedName_line name)
  have hempty : (fun name : String => decide (name.toList ≠ [])) = fun name => decide (name ≠ "") := by
    funext name
    simp
  rw [namesIn, printedLines, String.toList_ofList, hlines, ← hempty]
  simp [List.filter_map, Function.comp_def]

def isUnquotedLine (line : String) : Bool :=
  line.toList.getLast? ≠ some '"'

theorem isUnquotedLine_printedName (name : String) :
    isUnquotedLine (printedName name) = isUnquotedName name := by
  by_cases h : isUnquotedName name
  · rw [printedName_unquoted h, h, isUnquotedLine, decide_eq_true_iff]
    intro hlast
    exact not_mem_of_unquoted h rfl rfl (List.mem_of_getLast? hlast)
  · rw [Bool.eq_false_iff.2 h, isUnquotedLine, getLast?_printedName h]
    rfl

theorem filter_printed (names : List String) :
    (names.map printedName).filter isUnquotedLine = names.filter isUnquotedName := by
  have hunquoted : isUnquotedLine ∘ printedName = isUnquotedName := funext isUnquotedLine_printedName
  have hself : (names.filter isUnquotedName).map printedName = (names.filter isUnquotedName).map id :=
    List.map_congr_left fun name hname => printedName_unquoted (List.mem_filter.1 hname).2
  rw [List.filter_map, hunquoted, hself, List.map_id]

end Printed

section Dropped

variable {f : Filter}

theorem endsIn_quote {text extension : List Char} (h : extension.getLast? ≠ some '"') :
    endsIn (text ++ ['"']) extension = false := by
  rw [Bool.eq_false_iff]
  intro hends
  obtain ⟨stem, -, hname⟩ := endsIn_iff.1 hends
  have hlast := congrArg List.getLast? hname.symm
  rw [List.getLast?_append, List.getLast?_concat, List.getLast?_cons] at hlast
  cases hext : extension.getLast? with
  | none => simp [hext] at hlast
  | some c =>
    rw [hext] at hlast h
    exact h hlast

theorem fileName?_quoted {p : Path} {l : Bytes} (hp : p.bytes = l ++ [0x22]) :
    ∃ n, p.fileName? = some (n ++ [0x22]) := by
  obtain ⟨before, n, hseg⟩ := @pieces_concat _ _ Path.slash l 0x22 (by decide)
  have hmem : n ++ [0x22] ∈ pieces Path.slash p.bytes := by
    rw [hp, hseg]
    simp
  have hlast {m : Bytes} (hm : m.getLast? ≠ some 0x22) : n ++ [0x22] ≠ m := by
    rintro rfl
    exact hm List.getLast?_concat
  refine ⟨n, p.fileName?_of_segments (l := before) (by rw [Path.segments, hp, hseg]) ⟨?_, ?_, ?_, ?_⟩⟩
  · exact hlast (by decide)
  · exact hlast (by decide)
  · exact hlast (by decide)
  · exact not_mem_of_mem_pieces hmem

theorem decode?_quoted {n : Bytes} {text : List Char} (h : Utf8.decode? (n ++ [0x22]) = some text) :
    text = Utf8.decodeLossy n ++ ['"'] := by
  have henc := Utf8.decode?_eq_some_iff.1 h
  rw [← Utf8.decodeLossy_encode text, ← henc, Utf8.decodeLossy_append_ascii n [] (by decide)]
  rfl

theorem bytes_beside_quoted {name : String} (h : name.toList.getLast? = some '"') :
    ∃ l, (besideHere name).bytes = l ++ [0x22] := by
  obtain ⟨before, hname⟩ := List.getLast?_eq_some_iff.1 h
  have hbytes : bytesOf name = Utf8.encode before ++ [0x22] := by
    rw [bytesOf, hname, Utf8.encode_append]
    rfl
  rw [besideHere, Path.join]
  split
  · exact ⟨_, hbytes⟩
  · split
    · exact ⟨_, by rw [Path.ofText, Path.ofText, hbytes, ← List.append_assoc]⟩
    · exact ⟨_, by rw [Path.ofText, Path.ofText, hbytes, ← List.cons_append, ← List.append_assoc]⟩

/-- A name between quotes ends in none of the extensions. -/
theorem admits_quoted (hf : ∀ e ∈ f.extensions, e.toList.getLast? ≠ some '"') {name : String}
    (h : name.toList.getLast? = some '"') : f.admits (besideHere name) = false := by
  obtain ⟨l, hl⟩ := bytes_beside_quoted h
  obtain ⟨n, hn⟩ := fileName?_quoted hl
  rw [Filter.admits, Bool.and_eq_false_iff]
  left
  rw [Filter.admitsName, hn, Option.bind_some]
  cases htext : Utf8.decode? (n ++ [0x22]) with
  | none => rfl
  | some text =>
    rw [decode?_quoted htext, List.any_eq_false]
    intro e he
    rw [endsIn_quote (hf e he)]
    exact Bool.false_ne_true

end Dropped

section Repository

variable {f : Filter} {isFile : Path → Bool} {git : Git} {top : String} {names : List String}

theorem askGit_printed {args : List String} {text : String} {warnings : Bytes}
    (h : git args = .ok ⟨0, bytesOf text, warnings⟩) : askGit git args = .ok text := by
  rw [askGit, h]
  exact congrArg Except.ok (lossyText_bytesOf text)

theorem trimmed_line (text : String) : trimmed (text ++ "\n") = trimmed text := by
  rw [trimmed, trimmed, String.toList_append]
  exact congrArg String.ofList (Text.trim_append text.toList (by decide))

theorem stages_empty (top : Path) : f.stages isFile top "" = false :=
  rfl

theorem stagedFiles_printed (h : git.Prints top names) :
    stagedFiles f isFile git =
      .ok (scopeStaged f isFile (.ofText (trimmed top)) (names.map printedName)) := by
  obtain ⟨_, htop⟩ := h.top_eq
  obtain ⟨_, hnames⟩ := h.names_eq
  have hempty : ∀ name ∈ names.map printedName,
      f.stages isFile (.ofText (trimmed top)) name → decide (name ≠ "") := by
    intro name _ hstages
    apply decide_eq_true
    rintro rfl
    rw [stages_empty] at hstages
    cases hstages
  rw [stagedFiles, askGit_printed htop, askGit_printed hnames, ← scopeStaged_filter hempty,
    ← namesIn_printedLines, ← trimmed_line]
  rfl

/-- The staged files are those of the names that git prints, below the top as far as it has no white
space around it. If no extension ends in a double quote, names that git puts between quotes are all
left out. So the staged files are the right ones where the top and the names are printed as they are. -/
theorem stagedFiles_of_unquoted (h : git.Prints top names) :
    stagedFiles f isFile git =
        .ok (scopeStaged f isFile (.ofText (trimmed top)) (names.map printedName)) ∧
      ((∀ e ∈ f.extensions, e.toList.getLast? ≠ some '"') →
        stagedFiles f isFile git =
          .ok (scopeStaged f isFile (.ofText (trimmed top)) (names.filter isUnquotedName))) ∧
      (trimmed top = top → (∀ name ∈ names, isUnquotedName name) →
        stagedFiles f isFile git = .ok (scopeStaged f isFile (.ofText top) names)) := by
  refine ⟨stagedFiles_printed h, fun hf => ?_, fun htop hnames => ?_⟩
  · have hquoted : ∀ name ∈ names.map printedName,
        f.stages isFile (.ofText (trimmed top)) name → isUnquotedLine name := by
      intro name _ hstages
      apply decide_eq_true
      intro hlast
      rw [Filter.stages, admits_quoted hf hlast] at hstages
      cases hstages
    rw [stagedFiles_printed h, ← scopeStaged_filter hquoted, filter_printed]
  · have hself : names.map printedName = names.map id :=
      List.map_congr_left fun name hname => printedName_unquoted (hnames name hname)
    rw [stagedFiles_printed h, htop, hself, List.map_id]

theorem staged_unquoted_names :
    (repository "/r" ["b.php", "é.php", "a b.php"]).Prints "/r" ["b.php", "é.php", "a b.php"] ∧
      stagedFiles ⟨["php"], []⟩ (fun _ => true) (repository "/r" ["b.php", "é.php", "a b.php"]) =
        .ok [.ofText "/r/b.php", .ofText "/r/a b.php"] := by
  have h := prints_repository "/r" ["b.php", "é.php", "a b.php"]
  refine ⟨h, ?_⟩
  exact (@stagedFiles_of_unquoted ⟨["php"], []⟩ (fun _ => true) _ _ _ h).2.1 (by decide)

/-- A file that is wanted is left out for the letter in its name, and another one is looked for in the
wrong place for the blank at the end of the top. -/
theorem staged_names_lost :
    (repository "/r" ["é.php"]).Prints "/r" ["é.php"] ∧
      stagedFiles ⟨["php"], []⟩ (fun _ => true) (repository "/r" ["é.php"]) = .ok [] ∧
      scopeStaged ⟨["php"], []⟩ (fun _ => true) (.ofText "/r") ["é.php"] = [.ofText "/r/é.php"] ∧
      (repository "/r " ["a.php"]).Prints "/r " ["a.php"] ∧
      stagedFiles ⟨["php"], []⟩ (fun _ => true) (repository "/r " ["a.php"]) =
        .ok [.ofText "/r/a.php"] ∧
      scopeStaged ⟨["php"], []⟩ (fun _ => true) (.ofText "/r ") ["a.php"] =
        [.ofText "/r /a.php"] := by
  exact ⟨prints_repository _ _, rfl, rfl, prints_repository _ _, rfl, rfl⟩

end Repository

end SyntaxSweep
