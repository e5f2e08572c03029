import SyntaxSweep.Proofs.Cancellation.Lineage

namespace SyntaxSweep.Cancellation

section Growing

variable {history : List Action} {name : String} {lineage : Lineage} {flags flags' : Flags}
  {now now' family : Nat} {t : Token}

theorem isRaised_iff : isRaised flags now t = true ↔
    t.family ∈ flags ∨ ∃ deadline, t.deadline = some deadline ∧ deadline ≤ now := by
  rw [isRaised, Bool.or_eq_true, List.contains_iff_mem]
  cases t.deadline <;> simp

theorem isRaised_mono (hflags : flags ⊆ flags') (hnow : now ≤ now')
    (h : isRaised flags now t = true) : isRaised flags' now' t = true := by
  rw [isRaised_iff] at h ⊢
  obtain h | ⟨deadline, hdeadline, hle⟩ := h
  · exact .inl (hflags h)
  · exact .inr ⟨deadline, hdeadline, Nat.le_trans hle hnow⟩

namespace Token

/-- The token tells to stop at a time: its limit has run out, or there has been an interruption. -/
def Tells (t : Token) (interrupt : Option Nat) (now : Nat) : Prop :=
  (∃ d, t.deadline = some d ∧ d ≤ now) ∨ ∃ i, interrupt = some i ∧ i ≤ now

theorem isRaised_flagsAt {interrupt : Option Nat} (h : t.family ∉ flags) :
    isRaised (t.flagsAt flags interrupt now) now t = true ↔ t.Tells interrupt now := by
  rw [isRaised_iff, Tells, or_comm, flagsAt]
  cases interrupt with
  | none => simp [h]
  | some i => by_cases hi : i ≤ now <;> simp [hi, h]

theorem le_stopTime_iff {interrupt : Option Nat} :
    (∃ d, t.stopTime interrupt = some d ∧ d ≤ now) ↔ t.Tells interrupt now := by
  have hmin (d i : Nat) : min d i ≤ now ↔ d ≤ now ∨ i ≤ now := by omega
  obtain ⟨family, deadline⟩ := t
  cases deadline <;> cases interrupt <;> simp [stopTime, Tells, Option.merge, hmin]

theorem stopTime_eq_none {interrupt : Option Nat} :
    t.stopTime interrupt = none ↔ t.deadline = none ∧ interrupt = none := by
  obtain ⟨family, deadline⟩ := t
  cases deadline <;> cases interrupt <;> simp [stopTime, Option.merge]

end Token

theorem flags_after_append (history more : List Action) :
    (after history).flags ⊆ (after (history ++ more)).flags := by
  induction more using List.reverseRecOn with
  | nil => rw [List.append_nil]; exact List.Subset.refl _
  | append_singleton more a ih =>
    intro family h
    rw [← List.append_assoc, after_concat, State.mem_flags_act]
    exact .inl (ih h)

theorem now_after_append (history more : List Action) :
    (after history).now ≤ (after (history ++ more)).now := by
  rw [now_after, now_after, clock_append]
  exact Nat.le_add_right _ _

theorem ask_of_lineage (h : lineage? history name = some lineage) :
    ∃ raised, ((after history).act (.ask name)).2 = some raised ∧
      (raised = true ↔ Cancelled history lineage.origin ∨
        ∃ deadline, lineage.deadline? = some deadline ∧ deadline ≤ clock history) := by
  refine ⟨isRaised (after history).flags (after history).now (tokenOf history lineage), ?_, ?_⟩
  · rw [State.act, find?_after, h]
    rfl
  · rw [isRaised_iff, family_mem_flags_iff h, now_after]
    rfl

theorem ask_of_unknown (h : lineage? history name = none) :
    ((after history).act (.ask name)).2 = none := by
  rw [State.act, find?_after, h]
  rfl

theorem ask_after_cancel {on : String} {source : Lineage}
    (hsource : lineage? history on = some source) (h : lineage? history name = some lineage)
    (hne : source.origin ≠ lineage.origin) :
    ((after (history ++ [.cancel on])).act (.ask name)).2 = ((after history).act (.ask name)).2 := by
  obtain ⟨raised, hask, hraised⟩ := ask_of_lineage h
  obtain ⟨raised', hask', hraised'⟩ := ask_of_lineage (lineage?_cancel.trans h)
  have hcancelled : Cancelled (history ++ [.cancel on]) lineage.origin ↔
      Cancelled history lineage.origin := by
    rw [cancelled_concat, or_iff_left]
    rintro ⟨on', other, heq, hother, horigin⟩
    cases heq
    cases hsource.symm.trans hother
    exact hne horigin
  have hclock : clock (history ++ [.cancel on]) = clock history := clock_append history [.cancel on]
  rw [hcancelled, hclock] at hraised'
  rw [hask, hask', Bool.eq_iff_iff.2 (hraised'.trans hraised.symm)]

end Growing

/-- A token tells to stop just if one of its family has been cancelled or if the limit set last on its
own line of copies has run out. It tells so ever after, a cancelled token does nothing to another family,
and a limit is only that of the token that it was set on. -/
theorem raised_iff (history : List Action) :
    (∀ name lineage, lineage? history name = some lineage →
      ∃ raised, ((after history).act (.ask name)).2 = some raised ∧
        (raised = true ↔ Cancelled history lineage.origin ∨
          ∃ deadline, lineage.deadline? = some deadline ∧ deadline ≤ clock history)) ∧
    (∀ name, lineage? history name = none → ((after history).act (.ask name)).2 = none) ∧
    (∀ more t, isRaised (after history).flags (after history).now t = true →
      isRaised (after (history ++ more)).flags (after (history ++ more)).now t = true) ∧
    (∀ on name source lineage, lineage? history on = some source →
      lineage? history name = some lineage → source.origin ≠ lineage.origin →
        ((after (history ++ [.cancel on])).act (.ask name)).2 =
          ((after history).act (.ask name)).2) ∧
    ∀ on as ms name, name ≠ as →
      (after (history ++ [.limit on as ms])).find? name = (after history).find? name := by
  refine ⟨?_, ?_, ?_, ?_, ?_⟩
  · intro name lineage h
    exact ask_of_lineage h
  · intro name h
    exact ask_of_unknown h
  · intro more t h
    exact isRaised_mono (flags_after_append history more) (now_after_append history more) h
  · intro on name source lineage hsource h hne
    exact ask_after_cancel hsource h hne
  · intro on as ms name hne
    rw [after_concat, State.find?_limit, if_neg hne]

/-- Two families, and a copy of the first token with a limit that has run out. -/
def twoFamilies : List Action :=
  [.create "a", .copy "a" "b", .limit "b" "c" 5, .create "d", .wait 5]

theorem raised_twoFamilies :
    ((after twoFamilies).act (.ask "c")).2 = some true ∧
      ((after twoFamilies).act (.ask "b")).2 = some false ∧
      ((after twoFamilies).act (.ask "e")).2 = none ∧
      isRaised (after (twoFamilies ++ [.wait 1])).flags (after (twoFamilies ++ [.wait 1])).now
        ⟨0, some 5⟩ = true ∧
      ((after (twoFamilies ++ [.cancel "c"])).act (.ask "a")).2 = some true ∧
      ((after (twoFamilies ++ [.cancel "c"])).act (.ask "d")).2 =
        ((after twoFamilies).act (.ask "d")).2 ∧
      (after (twoFamilies ++ [.limit "a" "f" 0])).find? "a" = (after twoFamilies).find? "a" := by
  have hb : lineage? twoFamilies "b" = some (.copied (.made 0)) := rfl
  have hc : lineage? twoFamilies "c" = some (.limited (.copied (.made 0)) 5) := rfl
  have hd : lineage? twoFamilies "d" = some (.made 3) := rfl
  have ha : lineage? (twoFamilies ++ [.cancel "c"]) "a" = some (.made 0) := rfl
  have hraised : isRaised (after twoFamilies).flags (after twoFamilies).now ⟨0, some 5⟩ = true := rfl
  have hnone : ¬ Cancelled twoFamilies 0 := by
    rintro ⟨before, on, after, lineage, heq, -⟩
    have hmem : Action.cancel on ∈ twoFamilies := by simp [heq]
    simp [twoFamilies] at hmem
  obtain ⟨told, unknown, forever, others, limits⟩ := raised_iff twoFamilies
  obtain ⟨raisedC, haskC, hC⟩ := told "c" _ hc
  obtain ⟨raisedB, haskB, hB⟩ := told "b" _ hb
  obtain ⟨raisedA, haskA, hA⟩ := (raised_iff (twoFamilies ++ [.cancel "c"])).1 "a" _ ha
  have hrunOut : raisedC = true := hC.2 (.inr ⟨5, rfl, Nat.le_refl 5⟩)
  have hunlimited : raisedB = false := by
    rw [Bool.eq_false_iff, ne_eq, hB]
    rintro (h | ⟨deadline, h, -⟩)
    · exact hnone h
    · cases h
  have hshared : raisedA = true := hA.2 (.inl ⟨twoFamilies, "c", [], _, rfl, hc, rfl⟩)
  refine ⟨haskC.trans (congrArg some hrunOut), haskB.trans (congrArg some hunlimited),
    unknown "e" rfl, forever [.wait 1] ⟨0, some 5⟩ hraised, haskA.trans (congrArg some hshared),
    others "c" "d" _ _ hc hd (by decide), limits "a" "f" 0 "a" (by decide)⟩

end SyntaxSweep.Cancellation
