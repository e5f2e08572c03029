import SyntaxSweep.Proofs.Staged.Scoping

namespace SyntaxSweep

section Keeping

variable {f : Filter} {isFile : Path → Bool} {top : Path} {names : List String} {p : Path}

/-- The place of the name is already among the paths kept from the names. -/
def IsKept (f : Filter) (isFile : Path → Bool) (top : Path) (names : List String) (p : Path) :
    Prop :=
  p.components ∈ (scopeStaged f isFile top names).map Path.components

theorem scopeStaged_concat_of_new {name : String} (hs : f.stages isFile top name)
    (hnew : ¬IsKept f isFile top names (top.join (.ofText name))) :
    scopeStaged f isFile top (names ++ [name]) =
      scopeStaged f isFile top names ++ [top.join (.ofText name)] := by
  rw [scopeStaged_concat, if_pos ⟨hs, hnew⟩]

theorem scopeStaged_concat_of_not {name : String}
    (h : f.stages isFile top name → IsKept f isFile top names (top.join (.ofText name))) :
    scopeStaged f isFile top (names ++ [name]) = scopeStaged f isFile top names := by
  rw [scopeStaged_concat, if_neg fun hand => hand.2 (h hand.1)]

theorem mem_scopeStaged_concat {name : String} : p ∈ scopeStaged f isFile top (names ++ [name]) ↔
    p ∈ scopeStaged f isFile top names ∨ p = top.join (.ofText name) ∧
      f.stages isFile top name ∧ ¬IsKept f isFile top names p := by
  by_cases h : f.stages isFile top name ∧ ¬IsKept f isFile top names (top.join (.ofText name))
  · rw [scopeStaged_concat_of_new h.1 h.2, List.mem_append, List.mem_singleton]
    refine or_congr_right ⟨?_, And.left⟩
    rintro rfl
    exact ⟨rfl, h⟩
  · have hnot := not_and_not_right.1 h
    rw [scopeStaged_concat_of_not hnot]
    refine ⟨.inl, fun hp => hp.resolve_right ?_⟩
    rintro ⟨rfl, hand⟩
    exact h hand

theorem isKept_concat {name : String} : IsKept f isFile top (names ++ [name]) p ↔
    IsKept f isFile top names p ∨
      f.stages isFile top name ∧ p.components = (top.join (.ofText name)).components := by
  by_cases h : f.stages isFile top name ∧ ¬IsKept f isFile top names (top.join (.ofText name))
  · rw [IsKept, scopeStaged_concat_of_new h.1 h.2, List.map_append, List.mem_append,
      List.map_singleton, List.mem_singleton]
    exact or_congr_right ⟨fun he => ⟨h.1, he⟩, And.right⟩
  · have hnot := not_and_not_right.1 h
    rw [IsKept, scopeStaged_concat_of_not hnot]
    refine ⟨.inl, ?_⟩
    rintro (hp | ⟨hs, he⟩)
    · exact hp
    · rw [he]
      exact hnot hs

theorem isKept_iff : IsKept f isFile top names p ↔ ∃ name ∈ names, f.stages isFile top name ∧
    p.components = (top.join (.ofText name)).components := by
  induction names using List.reverseRecOn with
  | nil => simp [IsKept, scopeStaged]
  | append_singleton l name ih =>
    simp only [isKept_concat, ih, List.mem_append, List.mem_singleton, or_and_right, exists_or,
      exists_eq_left]

theorem scopeStaged_sublist (names : List String) :
    (scopeStaged f isFile top names).Sublist (names.map fun name => top.join (.ofText name)) := by
  induction names using List.reverseRecOn with
  | nil => exact .slnil
  | append_singleton l name ih =>
    rw [scopeStaged_concat, List.map_append]
    split
    · exact ih.append (List.Sublist.refl _)
    · exact ih.trans (List.sublist_append_left _ _)

theorem scopeStaged_pairwise (names : List String) :
    (scopeStaged f isFile top names).Pairwise fun p q => p.components ≠ q.components := by
  induction names using List.reverseRecOn with
  | nil => exact .nil
  | append_singleton l name ih =>
    rw [scopeStaged_concat]
    split
    · next h =>
      refine List.pairwise_append.2 ⟨ih, List.pairwise_singleton _ _, ?_⟩
      intro p hp q hq he
      rw [List.mem_singleton] at hq
      subst hq
      exact h.2 (List.mem_map.2 ⟨p, hp, he⟩)
    · exact ih

theorem isKept_append {l r : List String} :
    IsKept f isFile top (l ++ r) p ↔ IsKept f isFile top l p ∨ IsKept f isFile top r p := by
  simp only [isKept_iff, List.mem_append, or_and_right, exists_or]

/-- Further names add the paths that they give on their own, less those to places kept before. -/
theorem scopeStaged_append (l r : List String) :
    scopeStaged f isFile top (l ++ r) = scopeStaged f isFile top l ++
      (scopeStaged f isFile top r).filter fun p =>
        p.components ∉ (scopeStaged f isFile top l).map Path.components := by
  induction r using List.reverseRecOn with
  | nil => simp [scopeStaged]
  | append_singleton r name ih =>
    rw [← List.append_assoc]
    by_cases hr : f.stages isFile top name → IsKept f isFile top r (top.join (.ofText name))
    · rw [scopeStaged_concat_of_not fun hs => isKept_append.2 (.inr (hr hs)),
        scopeStaged_concat_of_not hr, ih]
    · obtain ⟨hs, hr⟩ := Classical.not_imp.1 hr
      rw [scopeStaged_concat_of_new hs hr, List.filter_append, ← List.append_assoc, ← ih]
      by_cases hl : IsKept f isFile top l (top.join (.ofText name))
      · have hkept : IsKept f isFile top (l ++ r) (top.join (.ofText name)) :=
          isKept_append.2 (.inl hl)
        rw [scopeStaged_concat_of_not fun _ => hkept, List.filter_cons_of_neg, List.filter_nil,
          List.append_nil]
        exact fun hnew => of_decide_eq_true hnew hl
      · have hnew : ¬IsKept f isFile top (l ++ r) (top.join (.ofText name)) := by
          rw [isKept_append, not_or]
          exact ⟨hl, hr⟩
        rw [scopeStaged_concat_of_new hs hnew, List.filter_cons_of_pos, List.filter_nil]
        exact decide_eq_true hl

/-- A path is kept just if a name that counts gives it and none before leads to its place. -/
theorem mem_scopeStaged : p ∈ scopeStaged f isFile top names ↔
    ∃ before name after, names = before ++ name :: after ∧ p = top.join (.ofText name) ∧
      f.stages isFile top name ∧ ¬IsKept f isFile top before p := by
  induction names using List.reverseRecOn with
  | nil => simp [scopeStaged]
  | append_singleton l last ih =>
    rw [mem_scopeStaged_concat, ih]
    constructor
    · rintro (⟨before, name, after, rfl, hp⟩ | hp)
      · exact ⟨before, name, after ++ [last], by simp, hp⟩
      · exact ⟨l, last, [], rfl, hp⟩
    · rintro ⟨before, name, after, he, hp⟩
      rcases List.eq_nil_or_concat after with rfl | ⟨after, m, rfl⟩
      · obtain ⟨rfl, hlast⟩ := List.append_inj' he rfl
        cases hlast
        exact .inr hp
      · rw [List.concat_eq_append, ← List.cons_append, ← List.append_assoc] at he
        exact .inl ⟨before, name, after, (List.append_inj' he rfl).1, hp⟩

/-- The paths kept come in the order of their names, no two of them lead to one place, and each is
that of the first name that counts among those that lead to its place; further names only add to
them. -/
theorem scopeStaged_firsts (f : Filter) (isFile : Path → Bool) (top : Path) (names : List String) :
    (scopeStaged f isFile top names).Sublist (names.map fun name => top.join (.ofText name)) ∧
      ((scopeStaged f isFile top names).Pairwise fun p q => p.components ≠ q.components) ∧
      (∀ p, p ∈ scopeStaged f isFile top names ↔
        ∃ before name after, names = before ++ name :: after ∧ p = top.join (.ofText name) ∧
          f.admits (besideHere name) ∧ isFile p ∧
          ∀ m ∈ before, f.admits (besideHere m) → isFile (top.join (.ofText m)) →
            p.components ≠ (top.join (.ofText m)).components) ∧
      (∀ name ∈ names, f.admits (besideHere name) → isFile (top.join (.ofText name)) →
        ∃ p ∈ scopeStaged f isFile top names,
          p.components = (top.join (.ofText name)).components) ∧
      ∀ more, scopeStaged f isFile top (names ++ more) = scopeStaged f isFile top names ++
        (scopeStaged f isFile top more).filter fun p =>
          p.components ∉ (scopeStaged f isFile top names).map Path.components := by
  have hstages (name : String) : f.stages isFile top name ↔
      f.admits (besideHere name) ∧ isFile (top.join (.ofText name)) := Bool.and_eq_true_iff
  refine ⟨scopeStaged_sublist names, scopeStaged_pairwise names, fun p => ?_, ?_,
    scopeStaged_append names⟩
  · rw [mem_scopeStaged]
    refine exists₃_congr fun before name after => and_congr_right fun _ => ?_
    refine and_congr_right fun hp => ?_
    rw [hstages, ← hp, and_assoc, isKept_iff]
    simp only [hstages, not_exists, not_and, and_imp, ne_eq]
  · intro name hname hadmits hfile
    have hkept : IsKept f isFile top names (top.join (.ofText name)) :=
      isKept_iff.2 ⟨name, hname, (hstages name).2 ⟨hadmits, hfile⟩, rfl⟩
    exact List.mem_map.1 hkept

end Keeping

/-- A dot and a path from the root spell places that are kept already. A step upwards makes another
place. -/
theorem staged_spellings :
    let isFile (p : Path) : Bool := p.bytes.getLast? ≠ some Path.slash
    let kept := scopeStaged ⟨["php"], ["/v/"]⟩ isFile (.ofText "/r")
      (["a.php", "b.php/", "v/c.php"] ++ ["./a.php", "/r//a.php", "b.php", "../r/a.php"])
    kept = [.ofText "/r/a.php", .ofText "/r/b.php", .ofText "/r/../r/a.php"] ∧
      (∃ p ∈ kept, p.components = (Path.ofText "/r//a.php").components) ∧
      Path.ofText "/r//a.php" ∉ kept := by
  intro isFile kept
  obtain ⟨-, -, -, -, happend⟩ := scopeStaged_firsts ⟨["php"], ["/v/"]⟩ isFile (.ofText "/r")
    ["a.php", "b.php/", "v/c.php"]
  obtain ⟨-, -, -, hsome, -⟩ := scopeStaged_firsts ⟨["php"], ["/v/"]⟩ isFile (.ofText "/r")
    (["a.php", "b.php/", "v/c.php"] ++ ["./a.php", "/r//a.php", "b.php", "../r/a.php"])
  have hkept : kept = [.ofText "/r/a.php", .ofText "/r/b.php", .ofText "/r/../r/a.php"] :=
    (happend ["./a.php", "/r//a.php", "b.php", "../r/a.php"]).trans (by decide)
  refine ⟨hkept, hsome "/r//a.php" (by decide) (by decide) (by decide), ?_⟩
  rw [hkept]
  decide

end SyntaxSweep
