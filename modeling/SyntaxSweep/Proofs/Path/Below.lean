import SyntaxSweep.Path.Rendering
import SyntaxSweep.Proofs.Text.Splitting

namespace SyntaxSweep.Path

/-- A name that an entry of a directory can have. -/
structure IsName (name : Bytes) : Prop where
  ne_nil : name ≠ []
  ne_dot : name ≠ [dot]
  ne_dots : name ≠ [dot, dot]
  no_slash : slash ∉ name

instance : DecidablePred IsName := fun name =>
  decidable_of_iff (name ≠ [] ∧ name ≠ [dot] ∧ name ≠ [dot, dot] ∧ slash ∉ name)
    ⟨fun ⟨h₁, h₂, h₃, h₄⟩ => ⟨h₁, h₂, h₃, h₄⟩, fun ⟨h₁, h₂, h₃, h₄⟩ => ⟨h₁, h₂, h₃, h₄⟩⟩

def below (p : Path) (names : List Bytes) : Path :=
  names.foldl child p

/-- The pieces that stay when a name is put after the path: an empty piece at the end gives way. -/
def stem (p : Path) : List Bytes :=
  if p.segments.getLast? = some [] then p.segments.dropLast else p.segments

def mark : List Bytes → List Component
  | [] :: _ :: _ => [.root]
  | first :: _ => if first = [dot] then [.here] else []
  | [] => []

theorem below_append (p : Path) (l r : List Bytes) : p.below (l ++ r) = (p.below l).below r :=
  List.foldl_append

theorem joined_segments (p : Path) : joined slash p.segments = p.bytes :=
  joined_pieces slash p.bytes

theorem IsName.not_filler {n : Bytes} (h : IsName n) : isFiller n = false := by
  simp [isFiller, h.ne_nil, h.ne_dot]

theorem stepsOf_names {names : List Bytes} (h : ∀ n ∈ names, IsName n) :
    stepsOf names = names.map .name := by
  have hf : names.filter (!isFiller ·) = names :=
    List.filter_eq_self.2 fun n hn => by simp [(h n hn).not_filler]
  rw [stepsOf, hf]
  exact List.map_congr_left fun n hn => if_neg (h n hn).ne_dots

theorem stepsOf_append (l r : List Bytes) : stepsOf (l ++ r) = stepsOf l ++ stepsOf r := by
  simp [stepsOf]

theorem mark_root {rest : List Bytes} (h : rest ≠ []) : mark ([] :: rest) = [.root] := by
  cases rest with
  | nil => exact absurd rfl h
  | cons => rfl

theorem mark_cons {first : Bytes} (h : first ≠ []) (rest : List Bytes) :
    mark (first :: rest) = if first = [dot] then [.here] else [] := by
  cases first with
  | nil => exact absurd rfl h
  | cons => rfl

theorem mark_append {l : List Bytes} (hl : l ≠ []) (hne : l ≠ [[]]) (r : List Bytes) :
    mark (l ++ r) = mark l := by
  obtain ⟨first, rest, rfl⟩ := List.exists_cons_of_ne_nil hl
  by_cases hf : first = []
  · subst hf
    have hr : rest ≠ [] := fun he => hne (by rw [he])
    rw [List.cons_append, mark_root hr, mark_root (by simp [hr])]
  · rw [List.cons_append, mark_cons hf, mark_cons hf]

theorem components_eq (p : Path) : p.components = mark p.segments ++ stepsOf p.segments := by
  unfold components
  cases p.segments with
  | nil => rfl
  | cons first rest =>
    by_cases hn : first = []
    · subst hn
      cases rest <;> simp [mark, stepsOf, isFiller]
    · rw [mark_cons hn]
      by_cases hd : first = [dot] <;> simp [hn, hd, stepsOf, isFiller]

theorem stepsOf_stem (p : Path) : stepsOf p.stem = stepsOf p.segments := by
  unfold stem
  split
  · next h =>
    obtain ⟨l, hl⟩ := List.getLast?_eq_some_iff.1 h
    simp [hl, stepsOf, isFiller]
  · rfl

theorem segments_child (p : Path) {n : Bytes} (h : IsName n) :
    (p.child n).segments = p.stem ++ [n] := by
  have hn : pieces slash n = [n] := pieces_of_not_mem h.no_slash
  have hrel : (⟨n⟩ : Path).isAbsolute = false := by
    simp only [isAbsolute, decide_eq_false_iff_not]
    exact fun he => h.no_slash (List.mem_of_head? he)
  rcases List.eq_nil_or_concat p.bytes with hp | ⟨q, b, hp⟩
  · have hc : p.child n = ⟨n⟩ := by simp [child, join, hp]
    simp [hc, segments, stem, hp, hn, pieces]
  · by_cases hb : b = slash
    · have hc : p.child n = ⟨q ++ slash :: n⟩ := by simp [child, join, hrel, hp, hb]
      have hs : p.segments = pieces slash q ++ [[]] := by
        rw [segments, hp, hb, List.concat_eq_append, pieces_append_cons, pieces]
      have hst : p.stem = pieces slash q := by simp [stem, hs]
      rw [hc, hst, segments, pieces_append_cons, hn]
    · have hc : p.child n = ⟨p.bytes ++ slash :: n⟩ := by simp [child, join, hrel, hp, hb]
      have hst : p.stem = p.segments := by
        refine if_neg fun he => ?_
        obtain ⟨l, hl⟩ := List.getLast?_eq_some_iff.1 he
        have hj := p.joined_segments
        rw [hl, hp, List.concat_eq_append] at hj
        by_cases hl' : l = []
        · simp [hl', joined] at hj
        · rw [joined_append hl' (by simp)] at hj
          exact hb (List.append_inj_right' hj rfl |> List.singleton_inj.1 |>.symm)
      rw [hc, hst, segments, pieces_append_cons, hn]
      rfl

theorem stem_child (p : Path) {n : Bytes} (h : IsName n) : (p.child n).stem = p.stem ++ [n] := by
  rw [stem, segments_child p h, if_neg (by simp [h.ne_nil])]

theorem segments_below (p : Path) {names : List Bytes} (hne : names ≠ [])
    (h : ∀ n ∈ names, IsName n) : (p.below names).segments = p.stem ++ names := by
  induction names generalizing p with
  | nil => exact absurd rfl hne
  | cons n rest ih =>
    have hn := h n List.mem_cons_self
    by_cases hr : rest = []
    · rw [hr]
      exact segments_child p hn
    · change ((p.child n).below rest).segments = _
      rw [ih (p.child n) hr fun m hm => h m (List.mem_cons_of_mem n hm), stem_child p hn,
        List.append_assoc]
      rfl

theorem mark_stem_append (p : Path) {names : List Bytes} (hne : names ≠ [])
    (h : ∀ n ∈ names, IsName n) : mark (p.stem ++ names) = mark p.segments := by
  obtain ⟨n, rest, rfl⟩ := List.exists_cons_of_ne_nil hne
  have hn := h n List.mem_cons_self
  by_cases hp : p.segments = [[]]
  · rw [stem, if_pos (by rw [hp]; rfl), hp]
    change mark (n :: rest) = []
    rw [mark_cons hn.ne_nil, if_neg hn.ne_dot]
  · have hs := pieces_ne_nil slash p.bytes
    unfold stem
    split
    · next hl =>
      obtain ⟨l, hl⟩ := List.getLast?_eq_some_iff.1 hl
      have hl' : l ≠ [] := fun he => hp (by rw [hl, he]; rfl)
      rw [hl, List.dropLast_concat]
      by_cases he : l = [[]]
      · rw [he]
        rfl
      · rw [mark_append hl' he, mark_append hl' he]
    · exact mark_append hs hp (n :: rest)

theorem components_below (p : Path) {names : List Bytes} (h : ∀ n ∈ names, IsName n) :
    (p.below names).components = p.components ++ names.map .name := by
  by_cases hne : names = []
  · simp [hne, below]
  · rw [components_eq, components_eq, segments_below p hne h, mark_stem_append p hne h,
      stepsOf_append, stepsOf_stem, stepsOf_names h, List.append_assoc]

theorem key_below (p : Path) {names : List Bytes} (h : ∀ n ∈ names, IsName n) :
    (p.below names).key = p.key ++ names.map .name := by
  have hn : (names.map Component.name).filter (· ≠ .here) = names.map .name :=
    List.filter_eq_self.2 (by simp)
  rw [key, components_below p h, List.filter_append, hn]
  rfl

theorem isAbsolute_name_append {n : Bytes} (h : IsName n) (r : Bytes) :
    (⟨n ++ r⟩ : Path).isAbsolute = false := by
  obtain ⟨b, more, rfl⟩ := List.exists_cons_of_ne_nil h.ne_nil
  have hb : b ≠ slash := fun he => h.no_slash (he ▸ List.mem_cons_self)
  simp [isAbsolute, hb]

theorem isAbsolute_joined {names : List Bytes} (hne : names ≠ []) (h : ∀ n ∈ names, IsName n) :
    (⟨joined slash names⟩ : Path).isAbsolute = false := by
  obtain ⟨n, rest, rfl⟩ := List.exists_cons_of_ne_nil hne
  have hn := h n List.mem_cons_self
  by_cases hr : rest = []
  · have hone := isAbsolute_name_append hn []
    rw [List.append_nil] at hone
    rw [hr]
    exact hone
  · rw [joined_cons n hr]
    exact isAbsolute_name_append hn _

/-- A name is joined to a path in the same way whether or not more follows it. -/
theorem join_name_append (p : Path) {n : Bytes} (h : IsName n) (r : Bytes) :
    p.join ⟨n ++ r⟩ = ⟨(p.child n).bytes ++ r⟩ := by
  have hn : (⟨n⟩ : Path).isAbsolute = false := by
    simpa using isAbsolute_name_append h []
  simp only [child, join, isAbsolute_name_append h, hn, Bool.false_eq_true, false_or]
  by_cases hp : p.bytes = []
  · rw [if_pos hp, if_pos hp]
  · rw [if_neg hp, if_neg hp]
    split <;> simp

theorem exists_bytes_child (p : Path) {n : Bytes} (h : IsName n) :
    ∃ l, (p.child n).bytes = l ++ n := by
  have hj := (p.child n).joined_segments
  rw [segments_child p h] at hj
  by_cases hp : p.stem = []
  · rw [hp] at hj
    exact ⟨[], hj.symm⟩
  · rw [joined_append hp (List.cons_ne_nil _ _)] at hj
    refine ⟨joined slash p.stem ++ [slash], ?_⟩
    rw [← hj, List.append_assoc]
    rfl

theorem join_child (p : Path) {n : Bytes} (h : IsName n) {q : Path} (hq : q.isAbsolute = false) :
    (p.child n).join q = ⟨(p.child n).bytes ++ slash :: q.bytes⟩ := by
  obtain ⟨l, hl⟩ := p.exists_bytes_child h
  obtain ⟨m, b, hb⟩ := (List.eq_nil_or_concat n).resolve_left h.ne_nil
  have hslash : b ≠ slash := fun he => h.no_slash (by simp [hb, he])
  have hne : (p.child n).bytes ≠ [] := by
    rw [hl]
    exact List.append_ne_nil_of_right_ne_nil l h.ne_nil
  have hlast : (p.child n).bytes.getLast? ≠ some slash := by
    rw [hl, hb]
    simp [hslash]
  simp [join, hq, hne, hlast]

/-- Names with slashes between them lead from a path to where they lead one by one. -/
theorem join_joined (p : Path) {names : List Bytes} (hne : names ≠ [])
    (h : ∀ n ∈ names, IsName n) : p.join ⟨joined slash names⟩ = p.below names := by
  induction names generalizing p with
  | nil => exact absurd rfl hne
  | cons n rest ih =>
    obtain ⟨hn, hrest⟩ := List.forall_mem_cons.1 h
    by_cases hr : rest = []
    · rw [hr]
      rfl
    · have hstep := p.join_child hn (isAbsolute_joined hr hrest)
      rw [joined_cons n hr, p.join_name_append hn, ← hstep, ih (p.child n) hr hrest]
      rfl

theorem below_inj (p : Path) {l m : List Bytes} (hl : ∀ n ∈ l, IsName n) (hm : ∀ n ∈ m, IsName n)
    (h : (p.below l).components = (p.below m).components) : l = m := by
  rw [components_below p hl, components_below p hm] at h
  have hnames : l.map Component.name = m.map .name := List.append_cancel_left h
  exact (List.map_inj_right fun _ _ => Component.name.inj).1 hnames

theorem getLast?_components (p : Path) {l : List Bytes} {n : Bytes} (hp : p.segments = l ++ [n])
    (h : IsName n) : p.components.getLast? = some (.name n) := by
  have hn : stepsOf [n] = [.name n] := stepsOf_names (List.forall_mem_singleton.2 h)
  rw [components_eq, hp, stepsOf_append, hn, ← List.append_assoc, List.getLast?_concat]

theorem fileName?_of_segments (p : Path) {l : List Bytes} {n : Bytes} (hp : p.segments = l ++ [n])
    (h : IsName n) : p.fileName? = some n := by
  rw [fileName?, getLast?_components p hp h]

end SyntaxSweep.Path
