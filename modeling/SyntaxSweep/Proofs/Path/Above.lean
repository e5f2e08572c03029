import SyntaxSweep.Settings.Discovery
import SyntaxSweep.Proofs.Path.Shown
import Mathlib.Data.List.Induction

namespace SyntaxSweep.Path

theorem trimSegments_concat (l : List Bytes) (a : Bytes) :
    trimSegments (l ++ [a]) = if isFiller a then trimSegments l else l ++ [a] := by
  rw [trimSegments, List.reverse_append, List.reverse_singleton, List.singleton_append,
    List.dropWhile_cons]
  split
  · rfl
  · rw [List.reverse_cons, List.reverse_reverse]

theorem trimSegments_leads (l : List Bytes) : trimSegments l <+: l := by
  induction l using List.reverseRecOn with
  | nil => exact List.prefix_rfl
  | append_singleton l a ih =>
    rw [trimSegments_concat]
    split
    · exact ih.trans (List.prefix_append l [a])
    · exact List.prefix_rfl

theorem stepsOf_trimSegments (l : List Bytes) : stepsOf (trimSegments l) = stepsOf l := by
  induction l using List.reverseRecOn with
  | nil => rfl
  | append_singleton l a ih =>
    rw [trimSegments_concat]
    split
    · next ha =>
      rw [ih, stepsOf_append, stepsOf_cons_filler ha]
      exact (List.append_nil _).symm
    · rfl

theorem stepsOf_last {l before : List Bytes} {a : Bytes} (h : trimSegments l = before ++ [a]) :
    stepsOf l = stepsOf before ++ [stepOf a] := by
  induction l using List.reverseRecOn with
  | nil => simp [trimSegments] at h
  | append_singleton l b ih =>
    rw [trimSegments_concat] at h
    split at h
    · next hb =>
      rw [stepsOf_append, ih h, stepsOf_cons_filler hb]
      exact List.append_nil _
    · next hb =>
      obtain ⟨rfl, hlast⟩ := List.append_inj' h rfl
      cases hlast
      rw [stepsOf_append]
      simp [stepsOf, hb]

theorem joined_prefix {l m : List Bytes} (hl : l ≠ []) (h : l <+: m) :
    joined slash l <+: joined slash m := by
  obtain ⟨r, rfl⟩ := h
  by_cases hr : r = []
  · simp only [hr, List.append_nil, List.prefix_rfl]
  · rw [joined_append hl hr]
    exact List.prefix_append _ _

section Root

variable {p q d : Path}

theorem segments_of_absolute (h : p.isAbsolute) :
    ∃ rest, p.segments = [] :: rest ∧ rest ≠ [] ∧ ∀ s ∈ rest, slash ∉ s := by
  obtain ⟨bytes⟩ := p
  cases bytes with
  | nil => cases h
  | cons b rest =>
    have hb : b = slash := by simpa [isAbsolute] using h
    refine ⟨pieces slash rest, ?_, pieces_ne_nil slash rest, fun s => not_mem_of_mem_pieces⟩
    rw [segments, pieces, if_pos hb]

theorem components_of_absolute (h : p.isAbsolute) :
    ∃ rest, p.segments = [] :: rest ∧ p.components = .root :: stepsOf rest := by
  obtain ⟨rest, hrest, hne, -⟩ := segments_of_absolute h
  refine ⟨rest, hrest, ?_⟩
  rw [components_eq, hrest, mark_root hne, stepsOf_cons_filler rfl]
  rfl

section Pieces

variable {l : List Bytes}

theorem segments_ofSegments (h : ∀ s ∈ l, slash ∉ s) (hne : trimSegments l ≠ []) :
    (ofSegments [] l).segments = [] :: trimSegments l := by
  rw [ofSegments, if_neg fun hand => hne hand.2]
  refine pieces_joined (List.cons_ne_nil _ _) (List.forall_mem_cons.2 ⟨List.not_mem_nil, ?_⟩)
  exact fun s hs => h s ((trimSegments_leads l).subset hs)

theorem ofSegments_eq_root (h : trimSegments l = []) : ofSegments [] l = ⟨[slash]⟩ :=
  if_pos ⟨rfl, h⟩

theorem isAbsolute_ofSegments : (ofSegments [] l).isAbsolute := by
  by_cases hl : trimSegments l = []
  · rw [ofSegments_eq_root hl]
    rfl
  · rw [ofSegments, if_neg fun hand => hl hand.2]
    rw [joined_cons _ hl]
    rfl

theorem components_ofSegments (h : ∀ s ∈ l, slash ∉ s) :
    (ofSegments [] l).components = .root :: stepsOf l := by
  by_cases hl : trimSegments l = []
  · rw [ofSegments_eq_root hl, ← stepsOf_trimSegments, hl]
    rfl
  · rw [components_eq, segments_ofSegments h hl, mark_root hl, stepsOf_cons_filler rfl,
      stepsOf_trimSegments]
    rfl

theorem bytes_ofSegments_prefix (l : List Bytes) {more : List Bytes} (hmore : more ≠ []) :
    (ofSegments [] l).bytes <+: joined slash ([] :: (l ++ more)) := by
  by_cases hl : trimSegments l = []
  · rw [ofSegments_eq_root hl, joined_cons _ (List.append_ne_nil_of_right_ne_nil l hmore)]
    exact List.prefix_append [slash] _
  · rw [ofSegments, if_neg fun hand => hl hand.2]
    refine joined_prefix (List.cons_ne_nil _ _) (List.cons_prefix_cons.2 ⟨rfl, ?_⟩)
    exact (trimSegments_leads l).trans (List.prefix_append l more)

end Pieces

theorem parent?_eq_none {rest : List Bytes} (h : p.segments = [] :: rest)
    (htrim : trimSegments rest = []) : p.parent? = none := by
  rw [parent?, h]
  dsimp only
  rw [htrim]
  rfl

theorem parent?_eq_some {first last : Bytes} {rest before : List Bytes}
    (h : p.segments = first :: rest) (htrim : trimSegments rest = before ++ [last]) :
    p.parent? = some (ofSegments first before) := by
  rw [parent?, h]
  dsimp only
  rw [htrim, List.reverse_append, List.reverse_singleton, List.singleton_append]
  dsimp only
  rw [List.reverse_reverse]

/-- What is above a path from the root is spelled by a beginning of it and has all its steps but the
last. Only the root has nothing above it. -/
theorem parent?_of_absolute (h : p.isAbsolute) :
    (p.parent? = none ∧ p.components = [.root]) ∨
      ∃ q step, p.parent? = some q ∧ q.isAbsolute ∧ p.components = q.components ++ [step] ∧
        q.bytes <+: p.bytes := by
  obtain ⟨rest, hsegments, hcomponents⟩ := components_of_absolute h
  obtain ⟨_, hrest, -, hclean⟩ := segments_of_absolute h
  cases hsegments.symm.trans hrest
  rcases List.eq_nil_or_concat (trimSegments rest) with htrim | ⟨before, last, htrim⟩
  · left
    refine ⟨parent?_eq_none hsegments htrim, ?_⟩
    rw [hcomponents, ← stepsOf_trimSegments, htrim]
    rfl
  · right
    rw [List.concat_eq_append] at htrim
    obtain ⟨more, hmore⟩ := trimSegments_leads rest
    have hsplit : rest = before ++ (last :: more) := by
      rw [← hmore, htrim, List.append_assoc]
      rfl
    have hbefore : ∀ s ∈ before, slash ∉ s := fun s hs => hclean s (by simp [hsplit, hs])
    refine ⟨ofSegments [] before, stepOf last, parent?_eq_some hsegments htrim,
      isAbsolute_ofSegments, ?_, ?_⟩
    · rw [hcomponents, components_ofSegments hbefore, stepsOf_last htrim]
      rfl
    · rw [← p.joined_segments, hsegments, hsplit]
      exact bytes_ofSegments_prefix before (List.cons_ne_nil _ _)

end Root

/-- `d` is the path itself or a directory above it. -/
inductive Ascends : Path → Path → Prop
  | self (p : Path) : Ascends p p
  | up {p q d : Path} (hq : p.parent? = some q) (hd : Ascends q d) : Ascends p d

section Ascending

variable {p q d : Path}

theorem isAbsolute_of_parent (h : p.isAbsolute) (hq : p.parent? = some q) : q.isAbsolute := by
  obtain ⟨hnone, -⟩ | ⟨r, step, hr, habs, -⟩ := parent?_of_absolute h
  · cases hnone.symm.trans hq
  · cases hr.symm.trans hq
    exact habs

theorem components_of_parent (h : p.isAbsolute) (hq : p.parent? = some q) :
    ∃ step, p.components = q.components ++ [step] := by
  obtain ⟨hnone, -⟩ | ⟨r, step, hr, -, hstep, -⟩ := parent?_of_absolute h
  · cases hnone.symm.trans hq
  · cases hr.symm.trans hq
    exact ⟨step, hstep⟩

theorem bytes_of_parent (h : p.isAbsolute) (hq : p.parent? = some q) : q.bytes <+: p.bytes := by
  obtain ⟨hnone, -⟩ | ⟨r, step, hr, -, -, hbytes⟩ := parent?_of_absolute h
  · cases hnone.symm.trans hq
  · cases hr.symm.trans hq
    exact hbytes

theorem length_of_parent (h : p.isAbsolute) (hq : p.parent? = some q) :
    q.bytes.length < p.bytes.length := by
  have hprefix := bytes_of_parent h hq
  obtain ⟨step, hstep⟩ := components_of_parent h hq
  refine Nat.lt_of_le_of_ne hprefix.length_le fun hlength => ?_
  obtain ⟨bytes⟩ := p
  obtain rfl : q.bytes = bytes := hprefix.eq_of_length hlength
  simp at hstep

/-- What holds at the top, and below whatever it holds of, holds of every path from the root. -/
theorem induction_above {P : (p : Path) → p.isAbsolute → Prop}
    (top : ∀ p h, p.parent? = none → P p h)
    (up : ∀ p q h (hq : p.parent? = some q), P q (isAbsolute_of_parent h hq) → P p h)
    (p : Path) (h : p.isAbsolute) : P p h := by
  cases hp : p.parent? with
  | none => exact top p h hp
  | some q => exact up p q h hp (induction_above top up q (isAbsolute_of_parent h hp))
termination_by p.bytes.length
decreasing_by exact length_of_parent h hp

theorem ascends_iff_of_top (h : p.parent? = none) : Ascends p d ↔ d = p := by
  constructor
  · rintro (_ | ⟨hq, -⟩)
    · rfl
    · cases h.symm.trans hq
  · rintro rfl
    exact .self d

theorem ascends_iff_of_parent (hq : p.parent? = some q) : Ascends p d ↔ d = p ∨ Ascends q d := by
  constructor
  · rintro (_ | ⟨hr, hd⟩)
    · exact .inl rfl
    · cases hr.symm.trans hq
      exact .inr hd
  · rintro (rfl | hd)
    · exact .self d
    · exact .up hq hd

theorem Ascends.isAbsolute (hd : Ascends p d) (h : p.isAbsolute) : d.isAbsolute := by
  induction hd with
  | self => exact h
  | up hq _ ih => exact ih (isAbsolute_of_parent h hq)

theorem Ascends.length_le (hd : Ascends p d) (h : p.isAbsolute) :
    d.bytes.length ≤ p.bytes.length := by
  induction hd with
  | self => exact Nat.le_refl _
  | up hq _ ih =>
    exact Nat.le_trans (ih (isAbsolute_of_parent h hq)) (Nat.le_of_lt (length_of_parent h hq))

theorem Ascends.ne_of_parent (hd : Ascends q d) (h : p.isAbsolute) (hq : p.parent? = some q) :
    d ≠ p := by
  rintro rfl
  have hle := hd.length_le (isAbsolute_of_parent h hq)
  exact Nat.not_le_of_lt (length_of_parent h hq) hle

theorem Ascends.antisymm (hd : Ascends p d) (hback : Ascends d p) (h : p.isAbsolute) : p = d := by
  cases hd with
  | self => rfl
  | up hq hd =>
    have hle := hback.length_le (hd.isAbsolute (isAbsolute_of_parent h hq))
    have hlt := length_of_parent h hq
    have hle' := hd.length_le (isAbsolute_of_parent h hq)
    omega

theorem Ascends.prefixes (hd : Ascends p d) (h : p.isAbsolute) :
    d.components <+: p.components ∧ d.bytes <+: p.bytes := by
  induction hd with
  | self => exact ⟨List.prefix_rfl, List.prefix_rfl⟩
  | up hq _ ih =>
    obtain ⟨hcomponents, hbytes⟩ := ih (isAbsolute_of_parent h hq)
    obtain ⟨step, hstep⟩ := components_of_parent h hq
    refine ⟨hcomponents.trans ?_, hbytes.trans (bytes_of_parent h hq)⟩
    rw [hstep]
    exact List.prefix_append _ _

theorem Ascends.length_components_lt (hd : Ascends q d) (h : p.isAbsolute)
    (hq : p.parent? = some q) : d.components.length < p.components.length := by
  obtain ⟨step, hstep⟩ := components_of_parent h hq
  have hle := (hd.prefixes (isAbsolute_of_parent h hq)).1.length_le
  rw [hstep, List.length_append, List.length_singleton]
  exact Nat.lt_succ_of_le hle

/-- The path and the directories above it are told apart by their steps, and there is one for every
beginning of the steps of the path. -/
theorem existsUnique_ascends (h : p.isAbsolute) {steps : List Component} (hne : steps ≠ [])
    (hsteps : steps <+: p.components) : ∃! d, Ascends p d ∧ d.components = steps := by
  induction p, h using induction_above with
  | top p h hp =>
    obtain ⟨-, hroot⟩ | ⟨q, step, hq, -⟩ := parent?_of_absolute h
    · rw [hroot] at hsteps
      have heq : steps = [.root] := (List.prefix_concat_iff.1 hsteps).resolve_right fun hnil =>
        hne (List.prefix_nil.1 hnil)
      refine ⟨p, ⟨.self p, hroot.trans heq.symm⟩, ?_⟩
      rintro d ⟨hd, -⟩
      exact (ascends_iff_of_top hp).1 hd
    · cases hp.symm.trans hq
  | up p q h hq ih =>
    obtain ⟨step, hstep⟩ := components_of_parent h hq
    rw [hstep, List.prefix_concat_iff, ← hstep] at hsteps
    obtain heq | hsteps := hsteps
    · refine ⟨p, ⟨.self p, heq.symm⟩, ?_⟩
      rintro d ⟨hd, hsame⟩
      refine ((ascends_iff_of_parent hq).1 hd).resolve_right fun habove => ?_
      have hlt := habove.length_components_lt h hq
      rw [hsame, heq] at hlt
      exact Nat.lt_irrefl _ hlt
    · obtain ⟨d, ⟨hd, hsame⟩, hunique⟩ := ih hsteps
      refine ⟨d, ⟨.up hq hd, hsame⟩, ?_⟩
      rintro e ⟨he, hother⟩
      obtain rfl | habove := (ascends_iff_of_parent hq).1 he
      · have hlt := hd.length_components_lt h hq
        rw [hsame, hother] at hlt
        exact absurd hlt (Nat.lt_irrefl _)
      · exact hunique e ⟨habove, hother⟩

theorem upwards_succ (h : p.isAbsolute) {fuel : Nat} (hfuel : p.bytes.length ≤ fuel) :
    upwards (fuel + 1) p = upwards fuel p := by
  induction fuel generalizing p with
  | zero =>
    have hnil : p.bytes = [] := List.length_eq_zero_iff.1 (Nat.le_zero.1 hfuel)
    rw [isAbsolute, hnil] at h
    cases h
  | succ fuel ih =>
    rw [upwards, upwards]
    cases hq : p.parent? with
    | none => rfl
    | some q =>
      have hlength := length_of_parent h hq
      dsimp only
      rw [ih (isAbsolute_of_parent h hq) (by omega)]

theorem upwards_of_le (h : p.isAbsolute) {fuel : Nat} (hfuel : p.bytes.length ≤ fuel) :
    upwards fuel p = p.selfAndAbove := by
  induction hfuel with
  | refl => rfl
  | step hfuel ih => rw [upwards_succ h hfuel, ih]

theorem selfAndAbove_of_top (h : p.parent? = none) : p.selfAndAbove = [p] := by
  rw [selfAndAbove]
  cases p.bytes.length with
  | zero => rfl
  | succ => rw [upwards, h]

theorem selfAndAbove_of_parent (h : p.isAbsolute) (hq : p.parent? = some q) :
    p.selfAndAbove = p :: q.selfAndAbove := by
  have hlength := length_of_parent h hq
  obtain ⟨fuel, hfuel⟩ := Nat.exists_eq_add_of_lt hlength
  rw [← upwards_of_le (isAbsolute_of_parent h hq) (Nat.le_add_right _ fuel), selfAndAbove, hfuel,
    upwards, hq]

end Ascending

end SyntaxSweep.Path
