import SyntaxSweep.Proofs.Settings.Written
import SyntaxSweep.Proofs.Toml.Keys

namespace SyntaxSweep

open Toml (Spelling)

/-- The entry of a document has a known key, with a value that is a content of this key. -/
def Suitable (entry : String × Toml.Value) : Prop :=
  ∃ (key : Key) (c : key.Content), entry = (key.name, key.value c)

inductive Offends : String × Toml.Value → DocumentProblem → Prop
  | unknown {name : String} {v : Toml.Value} (h : ∀ key : Key, name ≠ key.name) :
      Offends (name, v) (.unknownKey name)
  | refused {key : Key} {v : Toml.Value} {p : DocumentProblem} (h : key.Refuses v p) :
      Offends (key.name, v) p

namespace Layer

def take (l : Layer) (entry : String × Toml.Value) : Except DocumentProblem Layer :=
  match Key.ofName? entry.1 with
  | some key => l.say key entry.2
  | none => .error (.unknownKey entry.1)

theorem ofDocument_eq (d : Toml.Document) : ofDocument d = d.foldlM take empty :=
  rfl

theorem take_known (l : Layer) (key : Key) (v : Toml.Value) :
    l.take (key.name, v) = (key.content? v).map fun c => l.saying key (some c) := by
  rw [take, Key.ofName?_name, ← say_eq]

theorem take_unknown (l : Layer) {name : String} (h : ∀ key : Key, name ≠ key.name) (v : Toml.Value) :
    l.take (name, v) = .error (.unknownKey name) := by
  rw [take, Key.ofName?_eq_none h]

theorem take_value (l : Layer) (key : Key) (c : key.Content) :
    l.take (key.name, key.value c) = .ok (l.saying key (some c)) := by
  rw [take_known, Key.content?_ok_iff.2 rfl]
  rfl

theorem suitable_of_take {l m : Layer} {entry : String × Toml.Value} (h : l.take entry = .ok m) :
    Suitable entry := by
  obtain ⟨name, v⟩ := entry
  by_cases hname : ∀ key : Key, name ≠ key.name
  · rw [take_unknown l hname] at h
    cases h
  · obtain ⟨key, rfl⟩ := not_forall_not.1 hname
    rw [take_known] at h
    obtain ⟨c, hc⟩ := (map_ok_iff (key.content? v) _).1 ⟨m, h⟩
    exact ⟨key, c, by rw [Key.content?_ok_iff.1 hc]⟩

theorem take_ok_iff (l : Layer) (entry : String × Toml.Value) :
    (∃ m, l.take entry = .ok m) ↔ Suitable entry := by
  constructor
  · rintro ⟨m, h⟩
    exact suitable_of_take h
  · rintro ⟨key, c, rfl⟩
    exact ⟨_, l.take_value key c⟩

theorem take_error_iff (l : Layer) (entry : String × Toml.Value) (p : DocumentProblem) :
    l.take entry = .error p ↔ Offends entry p := by
  constructor
  · intro h
    obtain ⟨name, v⟩ := entry
    by_cases hname : ∀ key : Key, name ≠ key.name
    · rw [take_unknown l hname] at h
      cases h
      exact .unknown hname
    · obtain ⟨key, rfl⟩ := not_forall_not.1 hname
      rw [take_known, map_error_iff, Key.content?_error_iff] at h
      exact .refused h
  · rintro (hname | h)
    · exact take_unknown l hname _
    · rw [take_known, map_error_iff, Key.content?_error_iff]
      exact h

/-- Each key that is in a document says what the document says, if none is there twice; what is said
for the others was said before. -/
theorem said?_of_foldlM {d : Toml.Document} (hd : (d.map (·.1)).Nodup) {m l : Layer}
    (h : d.foldlM take m = .ok l) (key : Key) :
    ((∀ v, (key.name, v) ∉ d) → l.said? key = m.said? key) ∧
      ∀ v, (key.name, v) ∈ d → ∃ c, v = key.value c ∧ l.said? key = some c := by
  induction d generalizing m with
  | nil =>
    cases h
    exact ⟨fun _ => rfl, nofun⟩
  | cons entry rest ih =>
    rw [List.map_cons, List.nodup_cons] at hd
    obtain ⟨hnew, hrest⟩ := hd
    rw [List.foldlM_cons] at h
    cases htake : m.take entry with
    | error p =>
      rw [htake] at h
      cases h
    | ok next =>
      rw [htake] at h
      obtain ⟨other, c, rfl⟩ := suitable_of_take htake
      rw [take_value] at htake
      cases htake
      obtain ⟨hout, hin⟩ := ih hrest h
      by_cases hkey : key = other
      · subst hkey
        have hlater : ∀ v, (key.name, v) ∉ rest := fun v hv => hnew (List.mem_map.2 ⟨_, hv, rfl⟩)
        have hsaid : l.said? key = some c := by rw [hout hlater, said?_saying]
        refine ⟨fun hnone => absurd List.mem_cons_self (hnone _), fun v hv => ?_⟩
        rcases List.mem_cons.1 hv with heq | hv
        · cases heq
          exact ⟨c, rfl, hsaid⟩
        · exact absurd hv (hlater v)
      · refine ⟨fun hnone => ?_, fun v hv => ?_⟩
        · rw [hout fun v hv => hnone v (List.mem_cons_of_mem _ hv), said?_saying_of_ne m hkey]
        · rcases List.mem_cons.1 hv with heq | hv
          · exact absurd (Key.name_inj (Prod.mk.inj heq).1) hkey
          · exact hin v hv

variable {d : Toml.Document} {l : Layer}

theorem said?_of_ofDocument (hd : (d.map (·.1)).Nodup) (h : ofDocument d = .ok l) (key : Key)
    (c : key.Content) : l.said? key = some c ↔ (key.name, key.value c) ∈ d := by
  obtain ⟨hout, hin⟩ := said?_of_foldlM hd h key
  constructor
  · intro hsaid
    by_cases hnone : ∀ v, (key.name, v) ∉ d
    · rw [hout hnone, said?_empty] at hsaid
      cases hsaid
    · obtain ⟨v, hv⟩ := not_forall_not.1 hnone
      obtain ⟨c', rfl, hc'⟩ := hin v hv
      cases hsaid.symm.trans hc'
      exact hv
  · intro hmem
    obtain ⟨c', hc', hsaid⟩ := hin _ hmem
    rw [hsaid, Key.value_inj hc']

theorem said?_eq_none_of_ofDocument (hd : (d.map (·.1)).Nodup) (h : ofDocument d = .ok l)
    (key : Key) : l.said? key = none ↔ key.name ∉ d.map (·.1) := by
  obtain ⟨hout, hin⟩ := said?_of_foldlM hd h key
  constructor
  · intro hnone hmem
    obtain ⟨⟨_, v⟩, hv, rfl⟩ := List.mem_map.1 hmem
    obtain ⟨c, -, hsaid⟩ := hin v hv
    cases hnone.symm.trans hsaid
  · intro hnew
    rw [hout fun v hv => hnew (List.mem_map.2 ⟨_, hv, rfl⟩), said?_empty]

theorem ofDocument_ok_iff : (∃ l, ofDocument d = .ok l) ↔ ∀ entry ∈ d, Suitable entry := by
  rw [ofDocument_eq]
  exact (foldlM_outcome (fun entry _ l => l.take_ok_iff entry)
    (fun entry _ l => l.take_error_iff entry) empty).1

theorem ofDocument_error_iff {p : DocumentProblem} : ofDocument d = .error p ↔
    ∃ before entry after, d = before ++ entry :: after ∧ (∀ e ∈ before, Suitable e) ∧
      Offends entry p := by
  rw [ofDocument_eq]
  exact (foldlM_outcome (fun entry _ l => l.take_ok_iff entry)
    (fun entry _ l => l.take_error_iff entry) empty).2 p

theorem ofDocument_perm {d' : Toml.Document} (hd : (d.map (·.1)).Nodup) (hperm : d'.Perm d)
    (h : ofDocument d = .ok l) : ofDocument d' = .ok l := by
  have hd' : (d'.map (·.1)).Nodup := (hperm.map (·.1)).nodup_iff.2 hd
  have hall := ofDocument_ok_iff.1 ⟨l, h⟩
  obtain ⟨l', h'⟩ := ofDocument_ok_iff.2 fun entry he => hall entry (hperm.mem_iff.1 he)
  have hsame : l' = l := by
    apply eq_of_said
    intro key
    apply Option.ext
    intro c
    rw [said?_of_ofDocument hd' h', said?_of_ofDocument hd h, hperm.mem_iff]
  rw [h', hsame]

end Layer

namespace Files

/-- The file can be read, and its text is a document with these entries. They stand in the order in which
the reader hands them over: a table that has its own header only after that of a table in it stands where
its own header is. -/
def Holds (files : Files) (file : Path) (d : Toml.Document) : Prop :=
  ∃ bytes text, files.read file = .ok bytes ∧ Utf8.decode? bytes = some text ∧
    Toml.Document.read? text = some d

variable {files : Files} {file : Path} {d : Toml.Document}

theorem Holds.nodup (h : files.Holds file d) : (d.map (·.1)).Nodup := by
  obtain ⟨bytes, text, -, -, hd⟩ := h
  exact Toml.Document.nodup_of_read? hd

theorem Holds.layerAt_ok_iff (h : files.Holds file d) {l : Layer} :
    files.layerAt file = .ok l ↔ Layer.ofDocument d = .ok l := by
  obtain ⟨bytes, text, hread, htext, hd⟩ := h
  simp only [layerAt, hread, htext, Layer.read, hd]
  cases Layer.ofDocument d <;> simp

theorem Holds.layerAt_error_iff (h : files.Holds file d) {e : Failure} :
    files.layerAt file = .error e ↔ ∃ p, Layer.ofDocument d = .error p ∧ e = .document file p := by
  obtain ⟨bytes, text, hread, htext, hd⟩ := h
  simp only [layerAt, hread, htext, Layer.read, hd]
  cases Layer.ofDocument d <;> simp [eq_comm]

end Files

/-- A file with a document is accepted just if each of its entries has a known key and a value of the
key's kind. Then the layer says for each key what the document says, and nothing for keys that are not
in it, and any document with the same entries in another order gives the same layer. Else the file is
refused for the first entry that is not so, in the order of `Files.Holds`. -/
theorem layer_of_document {files : Files} {file : Path} {d : Toml.Document} (h : files.Holds file d) :
    ((∃ l, files.layerAt file = .ok l) ↔ ∀ entry ∈ d, Suitable entry) ∧
      (∀ l, files.layerAt file = .ok l →
        (∀ key c, l.said? key = some c ↔ (key.name, key.value c) ∈ d) ∧
        (∀ key, l.said? key = none ↔ key.name ∉ d.map (·.1)) ∧
        ∀ files' file' d', Files.Holds files' file' d' → d'.Perm d → files'.layerAt file' = .ok l) ∧
      ∀ e, files.layerAt file = .error e ↔ ∃ before entry after p, d = before ++ entry :: after ∧
        (∀ b ∈ before, Suitable b) ∧ Offends entry p ∧ e = .document file p := by
  refine ⟨?_, fun l hl => ⟨?_, ?_, ?_⟩, fun e => ?_⟩
  · simp only [h.layerAt_ok_iff]
    exact Layer.ofDocument_ok_iff
  · exact Layer.said?_of_ofDocument h.nodup (h.layerAt_ok_iff.1 hl)
  · exact Layer.said?_eq_none_of_ofDocument h.nodup (h.layerAt_ok_iff.1 hl)
  · intro files' file' d' h' hperm
    rw [h'.layerAt_ok_iff]
    exact Layer.ofDocument_perm h.nodup hperm (h.layerAt_ok_iff.1 hl)
  · rw [h.layerAt_error_iff]
    simp only [Layer.ofDocument_error_iff]
    constructor
    · rintro ⟨p, ⟨before, entry, after, hd, hbefore, hoffends⟩, he⟩
      exact ⟨before, entry, after, p, hd, hbefore, hoffends, he⟩
    · rintro ⟨before, entry, after, p, hd, hbefore, hoffends, he⟩
      exact ⟨p, ⟨before, entry, after, hd, hbefore, hoffends⟩, he⟩

/-- Lines with a value of the wrong kind, and after it a key that is not known. -/
def mixedLines : List Toml.Entry :=
  [⟨"jobs".toList, Toml.decimal 3, .integer 3⟩,
    ⟨"checker_args".toList, Spelling.needed.array ["-l", "-l"], .array [.string "-l", .string "-l"]⟩,
    ⟨"extensions".toList, Spelling.needed.text "php", .string "php"⟩,
    ⟨"roots".toList, Spelling.needed.array [], .array []⟩]

theorem mixed_lines_refused :
    (settingsDisk (Utf8.encode (mixedLines.flatMap Toml.Entry.line))).files.layerAt
        (.ofText "check-syntax.toml") =
      .error (.document (.ofText "check-syntax.toml") (.wrongKind (.string "php") .sequence)) := by
  have hreadable : ∀ e ∈ mixedLines, e.Readable := by
    simp only [mixedLines, List.forall_mem_cons]
    exact ⟨⟨Key.jobs.isBareName, .decimal (n := 3) (by decide)⟩,
      ⟨Key.checkerArgs.isBareName, .array .needed ["-l", "-l"]⟩,
      ⟨Key.extensions.isBareName, .text .needed "php"⟩,
      ⟨⟨by decide, List.all_eq_true.1 rfl⟩, .array .needed []⟩, nofun⟩
  have hholds : (settingsDisk (Utf8.encode (mixedLines.flatMap Toml.Entry.line))).files.Holds
      (.ofText "check-syntax.toml") (mixedLines.map fun e => (String.ofList e.name, e.value)) :=
    ⟨_, _, read_settingsDisk _, Utf8.decode?_eq_some_iff.2 rfl,
      Toml.read?_lines hreadable (by decide)⟩
  refine ((layer_of_document hholds).2.2 _).2
    ⟨[("jobs", .integer 3), ("checker_args", .array [.string "-l", .string "-l"])],
      ("extensions", .string "php"), [("roots", .array [])], _, rfl, ?_, ?_, rfl⟩
  · simp only [List.forall_mem_cons]
    exact ⟨⟨.jobs, (3 : Nat), rfl⟩, ⟨.checkerArgs, ["-l", "-l"], rfl⟩, nofun⟩
  · exact @Offends.refused .extensions _ _ (.kind id)

end SyntaxSweep
