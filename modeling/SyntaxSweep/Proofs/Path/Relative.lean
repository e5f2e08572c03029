import Mathlib.Data.List.Forall2
import SyntaxSweep.Proofs.Path.Shown
import SyntaxSweep.Proofs.Text.Lossy

namespace SyntaxSweep.Path

def ShownAs (name : Bytes) (text : String) : Prop :=
  ∃ read, Utf8.ReadAs name read ∧ text = String.ofList (read.map slashed)

theorem shownAs_iff {name : Bytes} {text : String} :
    ShownAs name text ↔ String.ofList (shownName name) = text := by
  constructor
  · rintro ⟨read, hread, rfl⟩
    rw [shownName, Utf8.readAs_iff.1 hread]
  · intro h
    exact ⟨_, Utf8.readAs_decodeLossy name, h.symm⟩

theorem forall₂_shownAs_iff {names : List Bytes} {texts : List String} :
    List.Forall₂ ShownAs names texts ↔
      names.map (fun name => String.ofList (shownName name)) = texts := by
  have hshown : ShownAs = fun name text => String.ofList (shownName name) = text := by
    funext name text
    exact propext shownAs_iff
  rw [hshown, ← List.forall₂_map_left_iff (R := Eq), List.forall₂_eq_eq_eq]

/-- However the root is spelled, the text of a way below it is `./` and the texts of the names with
slashes between them. With a slash it begins the text of every longer way. -/
theorem textBelow_names (root : Path) {names : List Bytes} (hne : names ≠ [])
    (h : ∀ n ∈ names, IsName n) :
    (∀ text, root.textBelow (root.below names) = text ↔
      ∃ texts, List.Forall₂ ShownAs names texts ∧ text = "./" ++ "/".intercalate texts) ∧
    ∀ more, more ≠ [] → (∀ n ∈ more, IsName n) →
      (root.textBelow (root.below names) ++ "/").toList <+:
        (root.textBelow (root.below (names ++ more))).toList := by
  have htext : root.textBelow (root.below names) =
      "./" ++ "/".intercalate (names.map fun name => String.ofList (shownName name)) := by
    rw [← String.toList_inj, textBelow_below root hne h, joined_eq_intercalate, String.toList_append,
      String.toList_intercalate, List.map_map]
    simp [Function.comp_def]
  refine ⟨fun text => ?_, fun more hmore hnames => ?_⟩
  · simp only [forall₂_shownAs_iff, exists_eq_left', htext]
    exact eq_comm
  · exact textBelow_prefix root hne hmore fun n hn => (List.mem_append.1 hn).elim (h n) (hnames n)

theorem textBelow_awkward :
    (ofText ".//a/./..").textBelow ((ofText ".//a/./..").below [[0xE2, 0x82, 0x5C, 0xFF], [0x62]]) =
        "./\ufffd/\ufffd/b" ∧
      ("./\ufffd/\ufffd/b" ++ "/").toList <+: ((ofText ".//a/./..").textBelow
        ((ofText ".//a/./..").below [[0xE2, 0x82, 0x5C, 0xFF], [0x62], [0x2E, 0x5C]])).toList := by
  obtain ⟨htext, hmore⟩ :=
    @textBelow_names (ofText ".//a/./..") [[0xE2, 0x82, 0x5C, 0xFF], [0x62]] (by decide) (by decide)
  have hshown := (htext "./\ufffd/\ufffd/b").2
    ⟨["\ufffd/\ufffd", "b"], forall₂_shownAs_iff.2 (by decide), by decide⟩
  exact ⟨hshown, hshown ▸ hmore [[0x2E, 0x5C]] (by decide) (by decide)⟩

end SyntaxSweep.Path
