import SyntaxSweep.Check.Batch

namespace SyntaxSweep

variable {σ α β ε : Type}

/-- The checks made from a state, each with what it came to, and the state after them. -/
inductive Trace (check : σ → α → Except ε β × σ) : σ → List (α × Except ε β) → σ → Prop
  | nil (state : σ) : Trace check state [] state
  | cons (state : σ) (a : α) {calls : List (α × Except ε β)} {last : σ}
      (rest : Trace check (check state a).2 calls last) :
      Trace check state ((a, (check state a).1) :: calls) last

namespace Trace

variable {check : σ → α → Except ε β × σ} {state last : σ} {calls : List (α × Except ε β)}

theorem cons_inv {a : α} {answer : Except ε β} (h : Trace check state ((a, answer) :: calls) last) :
    answer = (check state a).1 ∧ Trace check (check state a).2 calls last := by
  cases h with
  | cons _ _ rest => exact ⟨rfl, rest⟩

theorem concat (h : Trace check state calls last) (a : α) :
    Trace check state (calls ++ [(a, (check last a).1)]) (check last a).2 := by
  induction h with
  | nil last => exact .cons last a (.nil _)
  | cons before b _ ih => exact .cons before b ih

/-- A check in the middle of a run starts from the state that those before it have left. -/
theorem split {before after : List (α × Except ε β)} {c : α × Except ε β}
    (h : Trace check state (before ++ c :: after) last) :
    ∃ middle, Trace check state before middle ∧ c.2 = (check middle c.1).1 ∧
      Trace check (check middle c.1).2 after last := by
  induction before generalizing state with
  | nil =>
    obtain ⟨a, answer⟩ := c
    obtain ⟨rfl, hrest⟩ := h.cons_inv
    exact ⟨state, .nil state, rfl, hrest⟩
  | cons first before ih =>
    obtain ⟨a, answer⟩ := first
    obtain ⟨rfl, hrest⟩ := h.cons_inv
    obtain ⟨middle, hbefore, hc, hafter⟩ := ih hrest
    exact ⟨middle, .cons state a hbefore, hc, hafter⟩

theorem answered (h : Trace check state calls last) {c : α × Except ε β} (hc : c ∈ calls) :
    ∃ before, c.2 = (check before c.1).1 := by
  induction h with
  | nil => cases hc
  | cons before a rest ih =>
    rcases List.mem_cons.1 hc with rfl | hc
    · exact ⟨before, rfl⟩
    · exact ih hc

theorem answer_eq (h : Trace check state calls last) {g : α → Except ε β}
    (hg : ∀ state a, (check state a).1 = g a) {c : α × Except ε β} (hc : c ∈ calls) :
    c.2 = g c.1 := by
  obtain ⟨before, he⟩ := h.answered hc
  rw [he, hg]

end Trace

def succeeded (made : List (α × β)) : List (α × Except ε β) :=
  made.map fun d => (d.1, .ok d.2)

theorem mem_succeeded {made : List (α × β)} {c : α × Except ε β} (hc : c ∈ succeeded made) :
    ∃ d ∈ made, c = (d.1, .ok d.2) := by
  obtain ⟨d, hd, rfl⟩ := List.mem_map.1 hc
  exact ⟨d, hd, rfl⟩

theorem exists_succeeded {calls : List (α × Except ε β)} (h : ∀ c ∈ calls, ∃ b, c.2 = .ok b) :
    ∃ made, calls = succeeded made := by
  induction calls with
  | nil => exact ⟨[], rfl⟩
  | cons c rest ih =>
    obtain ⟨made, rfl⟩ := ih fun d hd => h d (List.mem_cons_of_mem c hd)
    obtain ⟨a, answer⟩ := c
    obtain ⟨b, rfl : answer = .ok b⟩ := h (a, answer) List.mem_cons_self
    exact ⟨(a, b) :: made, rfl⟩

def troubles (calls : List (α × Except ε β)) : List ε :=
  calls.filterMap fun (_, answer) =>
    match answer with
    | .error e => some e
    | .ok _ => none

theorem mem_troubles {calls : List (α × Except ε β)} {e : ε} :
    e ∈ troubles calls ↔ ∃ a, (a, .error e) ∈ calls := by
  simp only [troubles, List.mem_filterMap]
  constructor
  · rintro ⟨⟨a, answer⟩, hmem, he⟩
    cases answer with
    | error e' =>
      cases he
      exact ⟨a, hmem⟩
    | ok b => cases he
  · rintro ⟨a, hmem⟩
    exact ⟨(a, .error e), hmem, rfl⟩

theorem troubles_eq_nil {calls : List (α × Except ε β)} :
    troubles calls = [] ↔ ∀ c ∈ calls, ∃ b, c.2 = .ok b := by
  rw [List.eq_nil_iff_forall_not_mem]
  constructor
  · rintro hnone ⟨a, answer⟩ hc
    cases answer with
    | error e => exact absurd (mem_troubles.2 ⟨a, hc⟩) (hnone e)
    | ok b => exact ⟨b, rfl⟩
  · intro hall e he
    obtain ⟨a, ha⟩ := mem_troubles.1 he
    obtain ⟨b, hb⟩ := hall _ ha
    cases hb

theorem troubles_succeeded (made : List (α × β)) : troubles (succeeded (ε := ε) made) = [] := by
  rw [troubles_eq_nil]
  intro c hc
  obtain ⟨d, -, rfl⟩ := mem_succeeded hc
  exact ⟨d.2, rfl⟩

theorem troubles_append (calls more : List (α × Except ε β)) :
    troubles (calls ++ more) = troubles calls ++ troubles more :=
  List.filterMap_append

/-- Files in order: all of them came to an outcome, or those before the first one that did not. -/
theorem checkEach_trace (check : σ → Path → Except Failure Outcome × σ) (files : List Path)
    (state : σ) :
    ∃ made : List (Path × Outcome),
      (checkEach check files state).1.1 = made.map (·.2) ∧
        (((checkEach check files state).1.2 = none ∧ files = made.map (·.1) ∧
            Trace check state (succeeded made) (checkEach check files state).2) ∨
          ∃ e p after, (checkEach check files state).1.2 = some e ∧
            files = made.map (·.1) ++ p :: after ∧
            Trace check state (succeeded made ++ [(p, .error e)])
              (checkEach check files state).2) := by
  induction files generalizing state with
  | nil => exact ⟨[], rfl, .inl ⟨rfl, rfl, .nil state⟩⟩
  | cons p rest ih =>
    have hone (calls : List (Path × Except Failure Outcome)) (last : σ) :
        Trace check (check state p).2 calls last →
          Trace check state ((p, (check state p).1) :: calls) last := .cons state p
    cases hc : check state p with
    | mk answer next =>
      simp only [hc] at hone
      cases answer with
      | error e =>
        refine ⟨[], by simp [checkEach, hc], .inr ⟨e, p, rest, by simp [checkEach, hc], rfl, ?_⟩⟩
        simp only [checkEach, hc]
        exact hone [] next (.nil next)
      | ok outcome =>
        obtain ⟨made, houts, hend⟩ := ih next
        refine ⟨(p, outcome) :: made, by simp [checkEach, hc, houts], ?_⟩
        simp only [checkEach, hc]
        rcases hend with ⟨hs, hfiles, ht⟩ | ⟨e, q, after, hs, hfiles, ht⟩
        · exact .inl ⟨hs, by rw [hfiles]; rfl, hone _ _ ht⟩
        · exact .inr ⟨e, q, after, hs, by rw [hfiles]; rfl, hone _ _ ht⟩

theorem path_ofAnswer (p : Path) (a : Answer) : (Outcome.ofAnswer p a).path = p := by
  unfold Outcome.ofAnswer
  split <;> rfl

theorem checkFile_ok {s : Settings} {checker : Checker σ} {state : σ} {p : Path} {o : Outcome}
    (h : (checkFile s checker state p).1 = .ok o) : ∃ a, o = Outcome.ofAnswer p a := by
  unfold checkFile at h
  cases ha : (checker state (s.callFor p)).1 with
  | error e => simp [ha, Except.map] at h
  | ok a =>
    simp only [ha, Except.map, Except.ok.injEq] at h
    exact ⟨a, h.symm⟩

/-- The result of several workers, and of the time that they took. -/
def settled (files : Nat) (ms : Nat) : Except Failure (List Outcome) → Except Failure Result
  | .ok outcomes => conclude files outcomes ms none
  | .error e => conclude files [] ms (some e)

theorem conclude_stopped (files : Nat) (outcomes : List Outcome) (ms : Nat) (e : Failure) :
    (e = .interrupted ∧ conclude files outcomes ms (some e) =
        .ok ⟨.aborted, reportOf outcomes, files, outcomes, ms⟩) ∨
      e ≠ .interrupted ∧ conclude files outcomes ms (some e) = .error e := by
  by_cases he : e = .interrupted
  · subst he
    exact .inl ⟨rfl, rfl⟩
  · refine .inr ⟨he, ?_⟩
    cases e with
    | interrupted => exact absurd rfl he
    | _ => rfl

section Runs

variable {s : Settings} {files : List Path}

theorem check_together (hjobs : 1 < s.jobs) (hfiles : files ≠ []) (t : Schedule)
    (checker : Checker σ) (state : σ) (clock : σ → σ → Nat) :
    s.check t checker files state clock =
      (settled files.length (clock state (t.checkAll (checkFile s checker) files state).2)
          (t.checkAll (checkFile s checker) files state).1,
        (t.checkAll (checkFile s checker) files state).2) := by
  simp only [Settings.check, if_neg hfiles, if_pos hjobs, checkTogether]
  cases t.checkAll (checkFile s checker) files state with
  | mk result last => cases result <;> rfl

theorem check_each (hjobs : ¬1 < s.jobs) (hfiles : files ≠ []) (t : Schedule)
    (checker : Checker σ) (state : σ) (clock : σ → σ → Nat) :
    s.check t checker files state clock =
      (conclude files.length (checkEach (checkFile s checker) files state).1.1
        (clock state (checkEach (checkFile s checker) files state).2)
        (checkEach (checkFile s checker) files state).1.2,
        (checkEach (checkFile s checker) files state).2) := by
  simp only [Settings.check, if_neg hfiles, if_neg hjobs]

theorem check_last (t : Schedule) (checker : Checker σ) (state : σ) (clock : σ → σ → Nat) :
    (s.check t checker files state clock).2 = (s.check t checker files state).2 := by
  by_cases hfiles : files = []
  · rw [Settings.check, Settings.check, if_pos hfiles, if_pos hfiles]
  by_cases hjobs : 1 < s.jobs
  · rw [check_together hjobs hfiles, check_together hjobs hfiles]
  · rw [check_each hjobs hfiles, check_each hjobs hfiles]

end Runs

end SyntaxSweep
