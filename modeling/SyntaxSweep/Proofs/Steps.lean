namespace SyntaxSweep

/-- Steps that are good or bad whatever was gathered before: all of them are made just if all are good,
and else the first bad one tells why not. -/
theorem foldlM_outcome {α β ε : Type} {step : α → β → Except ε α} {Good : β → Prop}
    {Bad : β → ε → Prop} {l : List β} (hgood : ∀ b ∈ l, ∀ a, (∃ a', step a b = .ok a') ↔ Good b)
    (hbad : ∀ b ∈ l, ∀ a e, step a b = .error e ↔ Bad b e) (a : α) :
    ((∃ a', l.foldlM step a = .ok a') ↔ ∀ b ∈ l, Good b) ∧
      ∀ e, l.foldlM step a = .error e ↔
        ∃ before b after, l = before ++ b :: after ∧ (∀ c ∈ before, Good c) ∧ Bad b e := by
  induction l generalizing a with
  | nil =>
    refine ⟨⟨fun _ => nofun, fun _ => ⟨a, rfl⟩⟩, fun e => ⟨nofun, ?_⟩⟩
    rintro ⟨before, b, after, hl, -⟩
    simp at hl
  | cons b rest ih =>
    obtain ⟨hgood, hgoods⟩ := List.forall_mem_cons.1 hgood
    obtain ⟨hbad, hbads⟩ := List.forall_mem_cons.1 hbad
    -- Whether an element is good or bad does not depend on the state, so it is never both.
    have hnot (a : α) (e : ε) : Bad b e → ¬Good b := by
      intro he hok
      obtain ⟨a', ha⟩ := (hgood a).2 hok
      rw [(hbad a e).2 he] at ha
      cases ha
    cases hb : step a b with
    | error e' =>
      have hfold : (b :: rest).foldlM step a = .error e' := by
        rw [List.foldlM_cons, hb]
        rfl
      have hfirst := (hbad a e').1 hb
      rw [hfold]
      refine ⟨⟨nofun, fun hall => absurd (hall b List.mem_cons_self) (hnot a e' hfirst)⟩,
        fun e => ⟨?_, ?_⟩⟩
      · rintro ⟨⟩
        exact ⟨[], b, rest, rfl, nofun, hfirst⟩
      · rintro ⟨before, c, after, hl, hbefore, he⟩
        cases before with
        | nil =>
          cases hl
          rw [← hb, (hbad a e).2 he]
        | cons d before =>
          cases hl
          exact absurd (hbefore b List.mem_cons_self) (hnot a e' hfirst)
    | ok a' =>
      have hfold : (b :: rest).foldlM step a = rest.foldlM step a' := by
        rw [List.foldlM_cons, hb]
        rfl
      have hfirst := (hgood a).1 ⟨a', hb⟩
      obtain ⟨hall, hsome⟩ := ih hgoods hbads a'
      rw [hfold, hall, List.forall_mem_cons]
      refine ⟨⟨fun h => ⟨hfirst, h⟩, And.right⟩, fun e => (hsome e).trans ⟨?_, ?_⟩⟩
      · rintro ⟨before, c, after, rfl, hbefore, he⟩
        exact ⟨b :: before, c, after, rfl, List.forall_mem_cons.2 ⟨hfirst, hbefore⟩, he⟩
      · rintro ⟨before, c, after, hl, hbefore, he⟩
        cases before with
        | nil =>
          cases hl
          exact absurd hfirst (hnot a e he)
        | cons d before =>
          cases hl
          exact ⟨before, c, after, rfl, fun c hc => hbefore c (List.mem_cons_of_mem _ hc), he⟩

theorem mapM_ok_iff {α β ε : Type} {f : α → Except ε β} {l : List α} {answers : List β} :
    l.mapM f = .ok answers ↔ l.map f = answers.map .ok := by
  induction l generalizing answers with
  | nil => cases answers <;> simp [pure, Except.pure]
  | cons a rest ih =>
    rw [List.mapM_cons]
    cases answers with
    | nil =>
      cases f a with
      | error => simp [bind, Except.bind]
      | ok b => cases rest.mapM f <;> simp [bind, Except.bind, pure, Except.pure]
    | cons b answers =>
      rw [List.map_cons, List.map_cons, List.cons.injEq, ← ih]
      cases f a with
      | error => simp [bind, Except.bind]
      | ok c => cases rest.mapM f <;> simp [bind, Except.bind, pure, Except.pure]

/-- Of answers to the members of a list, the first that is a failure is the answer to the list. -/
theorem mapM_error_iff {α β ε : Type} {f : α → Except ε β} {l : List α} {e : ε} :
    l.mapM f = .error e ↔ ∃ before a after, l = before ++ a :: after ∧
      (∀ b ∈ before, ∃ c, f b = .ok c) ∧ f a = .error e := by
  induction l with
  | nil =>
    refine ⟨nofun, ?_⟩
    rintro ⟨before, a, after, hl, -⟩
    simp at hl
  | cons a rest ih =>
    rw [List.mapM_cons]
    cases ha : f a with
    | error e' =>
      change (Except.error e' : Except ε (List β)) = .error e ↔ _
      rw [Except.error.injEq]
      refine ⟨fun h => ⟨[], a, rest, rfl, nofun, h ▸ ha⟩, ?_⟩
      rintro ⟨before, b, after, hl, hbefore, hb⟩
      cases before with
      | nil =>
        cases hl
        exact Except.error.inj (ha.symm.trans hb)
      | cons c before =>
        cases hl
        obtain ⟨d, hd⟩ := hbefore a List.mem_cons_self
        cases ha.symm.trans hd
    | ok c =>
      have hrest : (do let d ← rest.mapM f; pure (c :: d)) = .error e ↔ rest.mapM f = .error e := by
        cases rest.mapM f <;> simp [bind, Except.bind, pure, Except.pure]
      refine hrest.trans (ih.trans ⟨?_, ?_⟩)
      · rintro ⟨before, b, after, rfl, hbefore, hb⟩
        exact ⟨a :: before, b, after, rfl, List.forall_mem_cons.2 ⟨⟨c, ha⟩, hbefore⟩, hb⟩
      · rintro ⟨before, b, after, hl, hbefore, hb⟩
        cases before with
        | nil =>
          cases hl
          cases ha.symm.trans hb
        | cons d before =>
          cases hl
          exact ⟨before, b, after, rfl, fun d hd => hbefore d (List.mem_cons_of_mem a hd), hb⟩

theorem bind_ok_iff {α β ε : Type} {x : Except ε α} {f : α → Except ε β} {b : β} :
    (x >>= f) = .ok b ↔ ∃ a, x = .ok a ∧ f a = .ok b := by
  cases x <;> simp [bind, Except.bind]

theorem bind_error {α β ε : Type} {x : Except ε α} {f : α → Except ε β} {e : ε}
    (h : (x >>= f) = .error e) : x = .error e ∨ ∃ a, x = .ok a ∧ f a = .error e := by
  cases x with
  | error e' =>
    cases h
    exact .inl rfl
  | ok a => exact .inr ⟨a, rfl, h⟩

theorem foldlM_error {α β ε : Type} {step : α → β → Except ε α} {l : List β} {a : α} {e : ε}
    (h : l.foldlM step a = .error e) : ∃ a', ∃ b ∈ l, step a' b = .error e := by
  induction l generalizing a with
  | nil => cases h
  | cons b rest ih =>
    rw [List.foldlM_cons] at h
    obtain hb | ⟨a', -, hrest⟩ := bind_error h
    · exact ⟨a, b, List.mem_cons_self, hb⟩
    · obtain ⟨a'', c, hc, he⟩ := ih hrest
      exact ⟨a'', c, List.mem_cons_of_mem b hc, he⟩

theorem map_ok_iff {α β ε : Type} (x : Except ε α) (g : α → β) :
    (∃ b, x.map g = .ok b) ↔ ∃ a, x = .ok a := by
  cases x <;> simp [Except.map]

theorem map_error_iff {α β ε : Type} (x : Except ε α) (g : α → β) (e : ε) :
    x.map g = .error e ↔ x = .error e := by
  cases x <;> simp [Except.map]

theorem mapM_isSome {α β : Type} {f : α → Option β} {l : List α} :
    (l.mapM f).isSome ↔ ∀ a ∈ l, (f a).isSome := by
  induction l with
  | nil => simp
  | cons a l ih =>
    rw [List.mapM_cons, List.forall_mem_cons, ← ih]
    cases f a with
    | none => simp
    | some b => cases l.mapM f <;> simp

theorem mapM_inj {α β : Type} {f : α → Option β} {l m : List α} {answers : List β}
    (hf : ∀ {a b c}, f a = some c → f b = some c → a = b) (hl : l.mapM f = some answers)
    (hm : m.mapM f = some answers) : l = m := by
  induction l generalizing m answers with
  | nil =>
    cases hl
    cases m with
    | nil => rfl
    | cons b m => simp [List.mapM_cons, Option.bind_eq_some_iff] at hm
  | cons a l ih =>
    simp only [List.mapM_cons, Option.bind_eq_bind, Option.bind_eq_some_iff] at hl
    obtain ⟨c, ha, rest, hl, ⟨⟩⟩ := hl
    cases m with
    | nil => cases hm
    | cons b m =>
      simp only [List.mapM_cons, Option.bind_eq_bind, Option.bind_eq_some_iff] at hm
      obtain ⟨d, hb, _, hm, ⟨⟩⟩ := hm
      rw [hf ha hb, ih hl hm]

end SyntaxSweep
