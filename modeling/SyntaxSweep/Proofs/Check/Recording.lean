import SyntaxSweep.Proofs.Check.Workers

namespace SyntaxSweep

variable {σ τ α β ε : Type}

def Extends (f : τ → σ) (check : σ → α → Except ε β × σ) (check' : τ → α → Except ε β × τ) : Prop :=
  ∀ state a, (check' state a).1 = (check (f state) a).1 ∧ f (check' state a).2 = (check (f state) a).2

section

variable {f : τ → σ} {check : σ → α → Except ε β × σ} {check' : τ → α → Except ε β × τ}

theorem Extends.gather (h : Extends f check check') (t : Schedule) (fuel : Nat)
    (left : List (Nat × α)) (picks : List Nat) (budget : Option Nat) (state : τ) :
    (t.gather check' fuel left picks budget state).1 =
        (t.gather check fuel left picks budget (f state)).1 ∧
      f (t.gather check' fuel left picks budget state).2 =
        (t.gather check fuel left picks budget (f state)).2 := by
  induction fuel generalizing left picks budget state with
  | zero => exact ⟨rfl, rfl⟩
  | succ fuel ih =>
    by_cases hleft : left = []
    · subst hleft
      rw [Schedule.gather_nil, Schedule.gather_nil]
      exact ⟨rfl, rfl⟩
    by_cases hb : budget = some 0
    · subst hb
      rw [Schedule.gather_spent, Schedule.gather_spent]
      exact ⟨rfl, rfl⟩
    obtain ⟨x, hx⟩ : ∃ x, left[picks.headD 0 % left.length]? = some x :=
      ⟨_, List.getElem?_eq_getElem (Nat.mod_lt _ (List.length_pos_iff.2 hleft))⟩
    obtain ⟨hanswer, hstate⟩ := h state x.2
    obtain ⟨hrest, hlast⟩ := ih (left.eraseIdx (picks.headD 0 % left.length)) picks.tail
      (t.nextBudget budget (check' state x.2).1) (check' state x.2).2
    rw [Schedule.gather_pick t check' hx hb, Schedule.gather_pick t check hx hb, ← hanswer, ← hstate]
    exact ⟨congrArg _ hrest, hlast⟩

theorem Extends.checkAll (h : Extends f check check') (t : Schedule) (files : List α) (state : τ) :
    (t.checkAll check' files state).1 = (t.checkAll check files (f state)).1 ∧
      f (t.checkAll check' files state).2 = (t.checkAll check files (f state)).2 := by
  obtain ⟨hanswers, hlast⟩ :=
    h.gather t files.length (Schedule.numberedFiles files) t.picks none state
  exact ⟨congrArg t.collect hanswers, hlast⟩

end

theorem Extends.checkEach {f : τ → σ} {check : σ → Path → Except Failure Outcome × σ}
    {check' : τ → Path → Except Failure Outcome × τ} (h : Extends f check check')
    (files : List Path) (state : τ) :
    (SyntaxSweep.checkEach check' files state).1 =
        (SyntaxSweep.checkEach check files (f state)).1 ∧
      f (SyntaxSweep.checkEach check' files state).2 =
        (SyntaxSweep.checkEach check files (f state)).2 := by
  induction files generalizing state with
  | nil => exact ⟨rfl, rfl⟩
  | cons p rest ih =>
    obtain ⟨hanswer, hstate⟩ := h state p
    obtain ⟨hrest, hlast⟩ := ih (check' state p).2
    simp only [SyntaxSweep.checkEach]
    cases hc : check (f state) p with
    | mk answer next =>
      cases hc' : check' state p with
      | mk answer' next' =>
        simp only [hc, hc'] at hanswer hstate hrest hlast
        subst hanswer hstate
        cases answer' with
        | error e => exact ⟨rfl, rfl⟩
        | ok outcome => exact ⟨by simp only [hrest], hlast⟩

/-- A checker with more state gives the same result of a run, if the clock takes no notice of what is
more. -/
theorem Extends.check {f : τ → σ} {s : Settings} {checker : Checker σ} {checker' : Checker τ}
    (h : Extends f (checkFile s checker) (checkFile s checker')) (t : Schedule) (files : List Path)
    (state : τ) (clock : σ → σ → Nat) :
    (s.check t checker' files state fun a b => clock (f a) (f b)).1 =
        (s.check t checker files (f state) clock).1 ∧
      f (s.check t checker' files state fun a b => clock (f a) (f b)).2 =
        (s.check t checker files (f state) clock).2 := by
  by_cases hfiles : files = []
  · subst hfiles
    exact ⟨rfl, rfl⟩
  by_cases hjobs : 1 < s.jobs
  · obtain ⟨hresult, hlast⟩ := h.checkAll t files state
    rw [check_together hjobs hfiles, check_together hjobs hfiles, hresult, hlast]
    exact ⟨rfl, rfl⟩
  · obtain ⟨hresult, hlast⟩ := h.checkEach files state
    rw [check_each hjobs hfiles, check_each hjobs hfiles, hresult, hlast]
    exact ⟨rfl, rfl⟩

def Checker.recorded (checker : Checker σ) : Checker (σ × List Call) := fun state call =>
  ((checker state.1 call).1, ((checker state.1 call).2, state.2 ++ [call]))

namespace Settings

variable (s : Settings) (t : Schedule) (checker : Checker σ) (files : List Path)

theorem checkFile_recorded :
    Extends Prod.fst (checkFile s checker) (checkFile s checker.recorded) :=
  fun _ _ => ⟨rfl, rfl⟩

/-- The calls of a run, in the order that they were made. -/
def callsMade (state : σ) : List Call :=
  (s.check t checker.recorded files (state, [])).2.2

theorem check_recorded (state : σ × List Call) (clock : σ → σ → Nat) :
    (s.check t checker.recorded files state fun a b => clock a.1 b.1).1 =
        (s.check t checker files state.1 clock).1 ∧
      (s.check t checker.recorded files state fun a b => clock a.1 b.1).2.1 =
        (s.check t checker files state.1 clock).2 :=
  (s.checkFile_recorded checker).check t files state clock

end Settings

theorem Trace.record {s : Settings} {checker : Checker σ} {state last : σ}
    {calls : List (Path × Except Failure Outcome)} (h : Trace (checkFile s checker) state calls last)
    (log : List Call) :
    Trace (checkFile s checker.recorded) (state, log) calls
      (last, log ++ calls.map fun c => s.callFor c.1) := by
  induction h generalizing log with
  | nil state =>
    rw [List.map_nil, List.append_nil]
    exact .nil _
  | cons state p rest ih =>
    rw [List.map_cons, List.append_cons]
    exact .cons (state, log) p (ih (log ++ [s.callFor p]))

theorem Trace.recorded {s : Settings} {checker : Checker σ} {state last : σ × List Call}
    {calls : List (Path × Except Failure Outcome)}
    (h : Trace (checkFile s checker.recorded) state calls last) :
    last.2 = state.2 ++ calls.map fun c => s.callFor c.1 := by
  induction h with
  | nil => simp
  | cons state p rest ih =>
    rw [ih]
    simp [checkFile, Checker.recorded]

theorem Gathering.record {s : Settings} {checker : Checker σ} {files : List Path} {state last : σ}
    {calls : List ((Nat × Path) × Except Failure Outcome)} {result : Except Failure (List Outcome)}
    (h : Gathering (checkFile s checker) files state calls result last) (log : List Call) :
    Gathering (checkFile s checker.recorded) files (state, log) calls result
      (last, log ++ calls.map fun c => s.callFor c.1.2) := by
  have htrace := h.trace.record log
  rw [List.map_map] at htrace
  exact ⟨htrace, h.left_out, h.result_eq⟩

end SyntaxSweep
