namespace SyntaxSweep

variable {α : Type} [DecidableEq α]

def occursIn (needle : List α) : List α → Bool
  | [] => needle.isEmpty
  | a :: rest => needle.isPrefixOf (a :: rest) || occursIn needle rest

theorem occursIn_iff {needle l : List α} : occursIn needle l = true ↔ needle <:+: l := by
  induction l with
  | nil => simp [occursIn]
  | cons a rest ih => simp [occursIn, ih, List.infix_cons_iff]

theorem occursIn_append_right {needle l : List α} (r : List α) (h : occursIn needle l = true) :
    occursIn needle (l ++ r) = true :=
  occursIn_iff.2 ((occursIn_iff.1 h).trans (List.prefix_append l r).isInfix)

def after? (lead : List α) (l : List α) : Option (List α) :=
  if lead.isPrefixOf l then some (l.drop lead.length) else none

theorem after?_eq_some {lead l rest : List α} : after? lead l = some rest ↔ l = lead ++ rest := by
  unfold after?
  constructor
  · intro h
    split at h
    · next hlead =>
      obtain ⟨more, rfl⟩ := List.isPrefixOf_iff_prefix.1 hlead
      rw [← Option.some.inj h, List.drop_left]
    · cases h
  · rintro rfl
    rw [if_pos (List.isPrefixOf_iff_prefix.2 (List.prefix_append lead rest)), List.drop_left]

/-- Every place of `old` written as `new`, from the left and without overlap. -/
def substituted (old new : List α) (l : List α) : List α :=
  go l 0
where
  -- The first `skip` elements belong to a place already written.
  go : List α → Nat → List α
    | [], _ => []
    | _ :: rest, skip + 1 => go rest skip
    | a :: rest, 0 =>
      if old ≠ [] ∧ old.isPrefixOf (a :: rest) then new ++ go rest (old.length - 1)
      else a :: go rest 0

end SyntaxSweep
