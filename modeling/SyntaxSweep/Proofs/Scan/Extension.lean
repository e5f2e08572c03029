import SyntaxSweep.Filter
import SyntaxSweep.Proofs.Path.LastName
import SyntaxSweep.Proofs.Text.Cutting

namespace SyntaxSweep

section Names

variable {name before extension : List Char}

theorem getLast?_encode :
    (Utf8.encode before).getLast? = some Path.dot ↔ before.getLast? = some '.' := by
  constructor
  · intro h
    obtain ⟨octets, hoctets⟩ := List.getLast?_eq_some_iff.1 h
    obtain ⟨stem, last, rfl, -, hlast⟩ := Utf8.exists_split hoctets (by rintro b ⟨⟩; decide)
    have hdot : Utf8.encode last = Utf8.encode ['.'] := hlast.symm.trans (by decide)
    rw [Utf8.encode_inj hdot, List.getLast?_concat]
  · intro h
    obtain ⟨stem, rfl⟩ := List.getLast?_eq_some_iff.1 h
    rw [Utf8.encode_append]
    exact List.getLast?_concat

theorem endsIn?_append (h : 1 < (Utf8.encode before).length) :
    endsIn? (before ++ extension) extension = some (decide (before.getLast? = some '.')) := by
  have hlength : (Utf8.encode (before ++ extension)).length =
      (Utf8.encode before).length + (Utf8.encode extension).length := by
    rw [Utf8.encode_append, List.length_append]
  have hlong : (Utf8.encode extension).length + 1 < (Utf8.encode (before ++ extension)).length := by
    omega
  have hsuffix : Utf8.encode extension <:+ Utf8.encode (before ++ extension) := by
    rw [Utf8.encode_append]
    exact List.suffix_append _ _
  have hcut : Utf8.upTo? (Utf8.encode (before ++ extension)) (Utf8.encode before).length =
      some (Utf8.encode before) := Utf8.upTo?_encode.2 ⟨before, extension, rfl, rfl, rfl⟩
  simp only [endsIn?]
  rw [if_pos (by simp [hlong, hsuffix]), hlength, Nat.add_sub_cancel, hcut, Option.map_some]
  simp only [getLast?_encode]

theorem endsIn?_cases (name extension : List Char) :
    (∃ before, name = before ++ extension ∧ 1 < (Utf8.encode before).length) ∨
      endsIn? name extension = some false ∧
        ∀ before, name = before ++ extension → (Utf8.encode before).length ≤ 1 := by
  by_cases h : ∃ before, name = before ++ extension ∧ 1 < (Utf8.encode before).length
  · exact .inl h
  · have hshort : ∀ before, name = before ++ extension → (Utf8.encode before).length ≤ 1 :=
      fun before hname => Nat.le_of_not_lt fun hlong => h ⟨before, hname, hlong⟩
    refine .inr ⟨?_, hshort⟩
    simp only [endsIn?]
    refine if_neg fun hand => ?_
    simp only [Bool.and_eq_true, decide_eq_true_iff, List.isSuffixOf_iff_suffix] at hand
    obtain ⟨before, rfl⟩ := Utf8.suffix_of_encode hand.2
    have hlong := hand.1
    rw [Utf8.encode_append, List.length_append] at hlong
    have := hshort before rfl
    omega

theorem endsIn?_isSome (name extension : List Char) : (endsIn? name extension).isSome := by
  obtain ⟨before, rfl, hlong⟩ | ⟨hfalse, -⟩ := endsIn?_cases name extension
  · rw [endsIn?_append hlong]
    rfl
  · rw [hfalse]
    rfl

theorem endsIn_iff :
    endsIn name extension = true ↔ ∃ stem, stem ≠ [] ∧ name = stem ++ '.' :: extension := by
  have hone : (Utf8.encode ['.']).length = 1 := by decide
  rw [endsIn, decide_eq_true_iff]
  constructor
  · intro h
    obtain ⟨before, rfl, hlong⟩ | ⟨hfalse, -⟩ := endsIn?_cases name extension
    · rw [endsIn?_append hlong, Option.some.injEq, decide_eq_true_iff] at h
      obtain ⟨stem, rfl⟩ := List.getLast?_eq_some_iff.1 h
      refine ⟨stem, ?_, by simp⟩
      rintro rfl
      exact absurd hlong (by rw [List.nil_append, hone]; decide)
    · rw [hfalse] at h
      cases h
  · rintro ⟨stem, hstem, rfl⟩
    have hpos : 0 < (Utf8.encode stem).length :=
      List.length_pos_iff.2 fun hnil => hstem (Utf8.encode_inj (a := stem) (b := []) hnil)
    have hlong : 1 < (Utf8.encode (stem ++ ['.'])).length := by
      rw [Utf8.encode_append, List.length_append, hone]
      exact Nat.succ_lt_succ hpos
    rw [← List.singleton_append, ← List.append_assoc, endsIn?_append hlong, List.getLast?_concat]
    simp

theorem endsIn_toList {name e : String} : endsIn name.toList e.toList = true ↔
    ∃ stem, stem ≠ "" ∧ name = stem ++ "." ++ e := by
  rw [endsIn_iff]
  constructor
  · rintro ⟨stem, hstem, hname⟩
    refine ⟨String.ofList stem, by simpa using hstem, ?_⟩
    rw [← String.toList_inj, hname]
    simp
  · rintro ⟨stem, hstem, rfl⟩
    exact ⟨stem.toList, by simpa using hstem, by simp⟩

end Names

namespace Filter

variable {extensions : List String} {p : Path}

theorem admitsName_iff : admitsName extensions p = true ↔
    ∃ name, p.EndsInName (bytesOf name) ∧
      ∃ e ∈ extensions, ∃ stem, stem ≠ "" ∧ name = stem ++ "." ++ e := by
  have hname (text : List Char) :
      p.fileName?.bind Utf8.decode? = some text ↔ p.EndsInName (Utf8.encode text) := by
    simp only [Option.bind_eq_some_iff, Utf8.decode?_eq_some_iff, exists_eq_right,
      Path.fileName?_eq_some_iff]
  unfold admitsName
  cases htext : p.fileName?.bind Utf8.decode? with
  | none =>
    refine iff_of_false Bool.false_ne_true ?_
    rintro ⟨name, hends, -⟩
    cases htext.symm.trans ((hname name.toList).2 hends)
  | some text =>
    rw [List.any_eq_true]
    constructor
    · rintro ⟨e, he, hendsIn⟩
      refine ⟨String.ofList text, ?_, e, he, endsIn_toList.1 ?_⟩
      · rw [bytesOf, String.toList_ofList]
        exact (hname text).1 htext
      · rwa [String.toList_ofList]
    · rintro ⟨name, hends, e, he, hstem⟩
      obtain rfl := Option.some.inj (htext.symm.trans ((hname name.toList).2 hends))
      exact ⟨e, he, endsIn_toList.2 hstem⟩

/-- Whether a file is wanted by its name never depends on a cut within a character. It is wanted if and only
if its path ends in a stem, a point and an extension, whatever else there is to the path and to the list
of extensions. -/
theorem admitsName_iff_stem (extensions : List String) (p : Path) :
    (∀ name extension : List Char, (endsIn? name extension).isSome) ∧
    (admitsName extensions p = true ↔
      ∃ name, p.EndsInName (bytesOf name) ∧
        ∃ e ∈ extensions, ∃ stem, stem ≠ "" ∧ name = stem ++ "." ++ e) ∧
    ∀ (extensions' : List String) (q : Path), (∀ e, e ∈ extensions' ↔ e ∈ extensions) →
      (∀ name, q.EndsInName name ↔ p.EndsInName name) →
      admitsName extensions' q = admitsName extensions p := by
  refine ⟨endsIn?_isSome, admitsName_iff, fun extensions' q hextensions hends => ?_⟩
  rw [Bool.eq_iff_iff, admitsName_iff, admitsName_iff]
  simp only [hextensions, hends]

/-- The name ends in one extension as a text only, in another just with the point that it begins with, and
a third one is longer than the name. -/
theorem admitsName_dotted :
    admitsName ["é.php", "longer than the name", ".php"] (.ofText "../é..php/./") = true ∧
      admitsName [".php", "é.php", ".php", "longer than the name"] (.ofText "é..php//") =
        admitsName ["é.php", "longer than the name", ".php"] (.ofText "../é..php/./") := by
  obtain ⟨-, hwanted, hsame⟩ := admitsName_iff_stem ["é.php", "longer than the name", ".php"]
    (.ofText "../é..php/./")
  constructor
  · refine hwanted.2 ⟨"é..php", Path.fileName?_eq_some_iff.1 (by decide), ".php", by decide, "é", ?_⟩
    decide
  · refine hsame _ _ (fun e => ?_) fun name => ?_
    · simp only [List.mem_cons, List.not_mem_nil, or_false]
      grind
    · have hname : (Path.ofText "é..php//").fileName? = (Path.ofText "../é..php/./").fileName? := by
        decide
      rw [← Path.fileName?_eq_some_iff, ← Path.fileName?_eq_some_iff, hname]

end Filter

end SyntaxSweep
