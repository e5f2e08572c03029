import SyntaxSweep.Proofs.Path.Below

namespace SyntaxSweep.Path

def shownName (name : Bytes) : List Char :=
  (Utf8.decodeLossy name).map slashed

theorem dropSteps_filler {a : Bytes} (h : isFiller a = true) (k : Nat) (l : List Bytes) :
    dropSteps k (a :: l) = dropSteps k l := by
  cases k <;> simp [dropSteps, h]

theorem stepsOf_cons_filler {a : Bytes} (h : isFiller a = true) (l : List Bytes) :
    stepsOf (a :: l) = stepsOf l := by
  simp [stepsOf, h]

theorem length_stepsOf_cons {a : Bytes} (h : isFiller a = false) (l : List Bytes) :
    (stepsOf (a :: l)).length = (stepsOf l).length + 1 := by
  simp [stepsOf, h]

theorem dropWhile_names {names : List Bytes} (h : ∀ n ∈ names, IsName n) :
    names.dropWhile isFiller = names := by
  cases names with
  | nil => rfl
  | cons n rest => simp [(h n List.mem_cons_self).not_filler]

theorem dropSteps_append (l : List Bytes) {names : List Bytes} (h : ∀ n ∈ names, IsName n) :
    dropSteps (stepsOf l).length (l ++ names) = names := by
  induction l with
  | nil => exact dropWhile_names h
  | cons a l ih =>
    cases ha : isFiller a with
    | true => rw [stepsOf_cons_filler ha, List.cons_append, dropSteps_filler ha, ih]
    | false =>
      rw [length_stepsOf_cons ha, List.cons_append, dropSteps,
        List.dropWhile_cons_of_neg (by simp [ha])]
      exact ih

theorem trimSegments_names {names : List Bytes} (h : ∀ n ∈ names, IsName n) :
    trimSegments names = names := by
  rw [trimSegments, dropWhile_names fun n hn => h n (List.mem_reverse.1 hn), List.reverse_reverse]

theorem length_components_sub_marks (p : Path) :
    p.components.length -
        (if p.components.head? = some .root ∨ p.components.head? = some .here then 1 else 0) =
      (stepsOf p.stem).length := by
  have hsteps : ∀ c ∈ (stepsOf p.segments).head?, c ≠ .root ∧ c ≠ .here := by
    intro c hc
    obtain ⟨a, -, rfl⟩ := List.mem_map.1 (List.mem_of_head? hc)
    unfold stepOf
    split <;> simp
  rw [stepsOf_stem, components_eq]
  unfold mark
  split
  · simp
  · split
    · simp
    · rw [List.nil_append, if_neg]
      · rfl
      · rintro (h | h)
        · exact (hsteps _ h).1 rfl
        · exact (hsteps _ h).2 rfl
  · next h => simp [h, stepsOf]

theorem stem_of_no_components {p : Path} (h : p.components = []) : p.stem = [] := by
  rw [components_eq, List.append_eq_nil_iff] at h
  obtain ⟨hm, hs⟩ := h
  cases hp : p.segments with
  | nil => exact absurd hp (pieces_ne_nil slash p.bytes)
  | cons first rest =>
    rw [hp] at hm hs
    by_cases hf : first = []
    · by_cases hr : rest = []
      · rw [stem, hp, hf, hr]
        rfl
      · rw [hf, mark_root hr] at hm
        cases hm
    · rw [mark_cons hf] at hm
      have hd : first ≠ [dot] := fun he => by simp [he] at hm
      simp [stepsOf, isFiller, hf, hd] at hs

theorem stripPrefix_below (root : Path) {names : List Bytes} (hne : names ≠ [])
    (h : ∀ n ∈ names, IsName n) :
    (root.below names).stripPrefix? root = some ⟨joined slash names⟩ := by
  have hseg := segments_below root hne h
  unfold stripPrefix?
  by_cases hc : root.components = []
  · rw [stem_of_no_components hc, List.nil_append] at hseg
    have hb : root.below names = ⟨joined slash names⟩ := by
      have hj := (root.below names).joined_segments
      rw [hseg] at hj
      rw [hj]
    simp only [hc, ↓reduceIte, Option.some.injEq]
    rw [trimmed, hseg]
    split
    · next _ first second rest =>
      have hf := (h first (by simp)).ne_nil
      rw [ofSegments, trimSegments_names fun n hm => h n (List.mem_cons_of_mem first hm),
        if_neg fun he => hf he.1]
    · exact hb
  · have hp : root.components.isPrefixOf (root.below names).components = true := by
      rw [components_below root h]
      exact List.isPrefixOf_iff_prefix.2 (List.prefix_append _ _)
    simp only [hc, hp, ↓reduceIte, length_components_sub_marks root, hseg]
    rw [dropSteps_append root.stem h, trimSegments_names h]

theorem map_joined {α β : Type} (f : α → β) (s : α) (l : List (List α)) :
    (joined s l).map f = joined (f s) (l.map (List.map f)) := by
  induction l with
  | nil => rfl
  | cons p ps ih =>
    by_cases hps : ps = []
    · rw [hps]
      rfl
    · rw [joined_cons p hps, List.map_append, List.map_cons, ih, List.map_cons,
        joined_cons _ (by simp [hps])]

theorem decodeLossy_joined (names : List Bytes) :
    Utf8.decodeLossy (joined slash names) = joined '/' (names.map Utf8.decodeLossy) := by
  induction names with
  | nil => rfl
  | cons n rest ih =>
    by_cases hr : rest = []
    · rw [hr]
      rfl
    · rw [joined_cons n hr, Utf8.decodeLossy_append_ascii n _ (by decide), ih, List.map_cons,
        joined_cons _ (by simp [hr])]
      rfl

theorem slashText_joined (names : List Bytes) :
    (slashText ⟨joined slash names⟩).toList = joined '/' (names.map shownName) := by
  rw [slashText, String.toList_ofList, decodeLossy_joined, map_joined, List.map_map]
  rfl

theorem joined_names_ne_nil {names : List Bytes} (hne : names ≠ []) (h : ∀ n ∈ names, IsName n) :
    joined slash names ≠ [] := by
  obtain ⟨n, rest, rfl⟩ := List.exists_cons_of_ne_nil hne
  have hn := (h n List.mem_cons_self).ne_nil
  cases rest <;> simp [joined, hn]

theorem textBelow_below (root : Path) {names : List Bytes} (hne : names ≠ [])
    (h : ∀ n ∈ names, IsName n) :
    (root.textBelow (root.below names)).toList = '.' :: '/' :: joined '/' (names.map shownName) := by
  have hne' : slashText ⟨joined slash names⟩ ≠ "" := by
    rw [slashText, ne_eq, String.ofList_eq_empty_iff, List.map_eq_nil_iff]
    exact Utf8.decodeLossy_ne_nil (joined_names_ne_nil hne h)
  rw [textBelow, stripPrefix_below root hne h, Option.getD_some, if_neg hne',
    String.toList_append, slashText_joined]
  rfl

/-- The text of a directory and a slash begin the text of what lies in the directory. -/
theorem textBelow_prefix (root : Path) {names more : List Bytes} (hne : names ≠ [])
    (hmore : more ≠ []) (h : ∀ n ∈ names ++ more, IsName n) :
    (root.textBelow (root.below names) ++ "/").toList <+:
      (root.textBelow (root.below (names ++ more))).toList := by
  rw [String.toList_append, textBelow_below root (by simp [hne]) h,
    textBelow_below root hne fun n hn => h n (List.mem_append_left more hn), List.map_append,
    joined_append (by simp [hne]) (by simp [hmore])]
  exact ⟨joined '/' (more.map shownName), by simp⟩

end SyntaxSweep.Path
