import SyntaxSweep.Proofs.Check.Recording

namespace SyntaxSweep

variable {σ α β ε : Type}

abbrev Exchange := Call × Except Failure Answer

/-- The failure that decides over checks: among several the one that is kept. -/
def Schedule.decisive (t : Schedule) (calls : List (α × Except ε β)) : Option ε :=
  (troubles calls)[t.kept % (troubles calls).length]?

namespace Schedule

variable {t : Schedule} {calls : List (α × Except ε β)} {e : ε}

theorem decisive_eq_none : t.decisive calls = none ↔ ∀ c ∈ calls, ∃ b, c.2 = .ok b := by
  rw [← troubles_eq_nil, decisive, List.getElem?_eq_none_iff, ← List.length_eq_zero_iff]
  constructor
  · intro hle
    by_contra hne
    exact absurd (Nat.mod_lt t.kept (Nat.pos_of_ne_zero hne)) (Nat.not_lt.2 hle)
  · intro h
    rw [h]
    exact Nat.zero_le _

theorem mem_of_decisive (h : t.decisive calls = some e) : ∃ a, (a, .error e) ∈ calls :=
  mem_troubles.1 (List.mem_of_getElem? h)

theorem decisive_congr {γ δ : Type} {other : List (γ × Except ε δ)}
    (h : troubles calls = troubles other) : t.decisive calls = t.decisive other := by
  rw [decisive, decisive, h]

theorem decisive_concat (made : List (α × β)) (a : α) (e : ε) :
    t.decisive (succeeded made ++ [(a, .error e)]) = some e := by
  have htroubles : troubles (succeeded made ++ [(a, .error e)]) = [e] := by
    rw [troubles_append, troubles_succeeded]
    rfl
  rw [decisive, htroubles, List.length_singleton, Nat.mod_one]
  rfl

theorem collect_of_decisive {calls : List ((Nat × α) × Except ε β)}
    (h : t.decisive calls = some e) : t.collect (calls.map numbered) = .error e := by
  rw [decisive, ← errorsIn_numbered] at h
  rw [collect, h]

end Schedule

def Checker.noted (checker : Checker σ) : Checker (σ × List Exchange) := fun state call =>
  ((checker state.1 call).1,
    ((checker state.1 call).2, state.2 ++ [(call, (checker state.1 call).1)]))

namespace Settings

variable (s : Settings) (t : Schedule) (checker : Checker σ) (files : List Path) (state : σ)

theorem checkFile_noted : Extends Prod.fst (checkFile s checker) (checkFile s checker.noted) :=
  fun _ _ => ⟨rfl, rfl⟩

/-- The exchanges of a run, in the order of the calls. -/
def exchanges : List Exchange :=
  (s.check t checker.noted files (state, [])).2.2

def exchange (d : Path × Except Failure Answer) : Exchange :=
  (s.callFor d.1, d.2)

theorem troubles_exchange (answers : List (Path × Except Failure Answer)) :
    troubles (answers.map s.exchange) = troubles answers := by
  rw [troubles, List.filterMap_map]
  rfl

end Settings

section Judging

def judgedBy (d : Path × Except Failure Answer) : Path × Except Failure Outcome :=
  (d.1, d.2.map (Outcome.ofAnswer d.1))

variable {answers : List (Path × Except Failure Answer)}

theorem troubles_judgedBy (answers : List (Path × Except Failure Answer)) :
    troubles (answers.map judgedBy) = troubles answers := by
  rw [troubles, List.filterMap_map]
  apply List.filterMap_congr
  rintro ⟨p, answer⟩ -
  cases answer <;> rfl

/-- Outcomes in an order of their own come from answers that were given in another. -/
theorem exists_given {made : List (Path × Outcome)}
    (h : (answers.map judgedBy).Perm (succeeded made)) :
    ∃ given : List (Path × Answer), answers.Perm (succeeded given) ∧
      made = given.map fun d => (d.1, .ofAnswer d.1 d.2) := by
  obtain ⟨sorted, hsorted, hmade⟩ := Schedule.exists_perm_of_map_perm h
  have hok : ∀ d ∈ sorted, ∃ a, d.2 = .ok a := by
    rw [← troubles_eq_nil, ← troubles_judgedBy, hmade, troubles_succeeded]
  obtain ⟨given, rfl⟩ := exists_succeeded hok
  refine ⟨given, hsorted, ?_⟩
  have hinj : Function.Injective fun d : Path × Outcome =>
      (d.1, (.ok d.2 : Except Failure Outcome)) := by
    rintro ⟨p, o⟩ ⟨q, o'⟩ heq
    cases heq
    rfl
  apply List.map_injective_iff.2 hinj
  rw [succeeded, List.map_map] at hmade
  rw [List.map_map]
  exact hmade.symm

end Judging

theorem Settings.mem_log_iff {s : Settings} {log : List Exchange} {given : List (Path × Answer)}
    (h : log.Perm ((succeeded given).map s.exchange)) {c : Exchange} :
    c ∈ log ↔ ∃ d ∈ given, c = (s.callFor d.1, .ok d.2) := by
  rw [h.mem_iff, succeeded, List.map_map, List.mem_map]
  constructor
  · rintro ⟨d, hd, rfl⟩
    exact ⟨d, hd, rfl⟩
  · rintro ⟨d, hd, rfl⟩
    exact ⟨d, hd, rfl⟩

theorem Trace.noted {s : Settings} {checker : Checker σ} {state last : σ × List Exchange}
    {calls : List (Path × Except Failure Outcome)}
    (h : Trace (checkFile s checker.noted) state calls last) :
    ∃ answers : List (Path × Except Failure Answer),
      calls = answers.map judgedBy ∧ last.2 = state.2 ++ answers.map s.exchange := by
  induction h with
  | nil state => exact ⟨[], rfl, (List.append_nil _).symm⟩
  | cons state p rest ih =>
    obtain ⟨answers, rfl, hlast⟩ := ih
    refine ⟨(p, (checker state.1 (s.callFor p)).1) :: answers, rfl, ?_⟩
    rw [hlast, List.map_cons, List.append_cons]
    rfl

/-- The exchanges that are written down are a trace of the checker itself. -/
theorem Trace.of_noted {s : Settings} {checker : Checker σ} {state last : σ × List Exchange}
    {calls : List (Path × Except Failure Outcome)}
    (h : Trace (checkFile s checker.noted) state calls last) :
    ∃ log, last.2 = state.2 ++ log ∧ Trace checker state.1 log last.1 := by
  induction h with
  | nil state => exact ⟨[], (List.append_nil _).symm, .nil _⟩
  | cons state p rest ih =>
    obtain ⟨log, hlast, hlog⟩ := ih
    refine ⟨_, ?_, .cons state.1 (s.callFor p) hlog⟩
    rw [hlast, List.append_cons]
    rfl

theorem Settings.exists_trace (s : Settings) (t : Schedule) (checker : Checker σ)
    (files : List Path) (state : σ) :
    ∃ calls, Trace (checkFile s checker) state calls (s.check t checker files state).2 := by
  by_cases hfiles : files = []
  · rw [Settings.check, if_pos hfiles]
    exact ⟨[], .nil state⟩
  by_cases hjobs : 1 < s.jobs
  · rw [check_together hjobs hfiles]
    obtain ⟨calls, hgather⟩ := t.gathering (checkFile s checker) files state
    exact ⟨_, hgather.trace⟩
  · rw [check_each hjobs hfiles]
    obtain ⟨made, -, ⟨-, -, htrace⟩ | ⟨e, p, after, -, -, htrace⟩⟩ :=
      checkEach_trace (checkFile s checker) files state
    · exact ⟨_, htrace⟩
    · exact ⟨_, htrace⟩

/-- The exchanges of a run lead the checker from its first state to its last. -/
theorem Settings.trace_exchanges (s : Settings) (t : Schedule) (checker : Checker σ)
    (files : List Path) (state : σ) (clock : σ → σ → Nat) :
    Trace checker state (s.exchanges t checker files state)
      (s.check t checker files state clock).2 := by
  obtain ⟨calls, htrace⟩ := s.exists_trace t checker.noted files (state, [])
  obtain ⟨log, hlog, hchecker⟩ := htrace.of_noted
  have hexchanges : s.exchanges t checker files state = log := hlog
  obtain ⟨-, hlast⟩ := (s.checkFile_noted checker).check t files (state, []) fun _ _ => 0
  rw [hexchanges, check_last, ← hlast]
  exact hchecker

inductive Conduct (s : Settings) (t : Schedule) (files : List Path) (log : List Exchange) :
    Except Failure Result → Prop
  | skipped {ms : Nat} (hfiles : files = []) (hlog : log = []) :
      Conduct s t files log (.ok (.ofOutcomes .skipped 0 [] ms))
  | ended {given : List (Path × Answer)} {ms : Nat} (hne : files ≠ []) (hfiles : given.map (·.1) = files)
      (hlog : log.Perm ((succeeded given).map s.exchange)) :
      Conduct s t files log (.ok (.ofOutcomes
        (finalStatus (given.map fun d => .ofAnswer d.1 d.2)) files.length
        (given.map fun d => .ofAnswer d.1 d.2) ms))
  | stopped {e : Failure} {outcomes : List Outcome} {ms : Nat} (hne : files ≠ [])
      (hlog : t.decisive log = some e)
      (houts : ∀ o ∈ outcomes, ∃ a, o = .ofAnswer o.path a ∧ (s.callFor o.path, .ok a) ∈ log) :
      Conduct s t files log (conclude files.length outcomes ms (some e))

section Conducts

variable {s : Settings} {t : Schedule} {files : List Path} {log : List Exchange}
  {answers : List (Path × Except Failure Answer)} {made : List (Path × Outcome)} {ms : Nat}

theorem Conduct.of_made (hne : files ≠ []) (hfiles : made.map (·.1) = files)
    (hmade : (answers.map judgedBy).Perm (succeeded made)) :
    Conduct s t files (answers.map s.exchange)
      (.ok (.ofOutcomes (finalStatus (made.map (·.2))) files.length (made.map (·.2)) ms)) := by
  obtain ⟨given, hgiven, rfl⟩ := exists_given hmade
  rw [List.map_map] at hfiles ⊢
  exact .ended hne hfiles (hgiven.map s.exchange)

theorem Conduct.of_stop {p : Path} {e : Failure} (hne : files ≠ [])
    (hcalls : answers.map judgedBy = succeeded made ++ [(p, .error e)]) :
    Conduct s t files (answers.map s.exchange)
      (conclude files.length (made.map (·.2)) ms (some e)) := by
  have hdecisive : t.decisive (answers.map s.exchange) = some e := by
    rw [← Schedule.decisive_concat made p e, ← hcalls]
    exact Schedule.decisive_congr ((s.troubles_exchange answers).trans (troubles_judgedBy answers).symm)
  refine .stopped hne hdecisive fun o ho => ?_
  obtain ⟨before, after, rfl, hbefore, -⟩ := List.map_eq_append_iff.1 hcalls
  obtain ⟨given, hgiven, rfl⟩ := exists_given (.of_eq hbefore)
  rw [List.map_map] at ho
  obtain ⟨d, hd, rfl⟩ := List.mem_map.1 ho
  have hanswer : (d.1, .ok d.2) ∈ before := hgiven.mem_iff.2 (List.mem_map_of_mem hd)
  refine ⟨d.2, ?_, ?_⟩
  · rw [Function.comp_apply, path_ofAnswer]
  · rw [Function.comp_apply, path_ofAnswer]
    exact List.mem_map.2 ⟨_, List.mem_append_left after hanswer, rfl⟩

end Conducts

section Runs

variable {s : Settings} {t : Schedule} {checker : Checker σ} {files : List Path}
  {state : σ × List Exchange} {ms : Nat}

theorem conduct_together (hfiles : files ≠ []) (hstate : state.2 = []) :
    Conduct s t files (t.checkAll (checkFile s checker.noted) files state).2.2
      (settled files.length ms (t.checkAll (checkFile s checker.noted) files state).1) := by
  obtain ⟨calls, hgather, hcollect⟩ := t.gathering_collect (checkFile s checker.noted) files state
  obtain ⟨answers, hcalls, hlog⟩ := hgather.trace.noted
  rw [hlog, hstate, List.nil_append]
  have hdecisive : t.decisive calls = t.decisive (answers.map s.exchange) := by
    apply Schedule.decisive_congr
    rw [s.troubles_exchange, ← troubles_judgedBy, ← hcalls, troubles, troubles, List.filterMap_map]
    rfl
  cases hd : t.decisive calls with
  | some e =>
    -- Of several workers the outcomes are lost when one fails.
    rw [hcollect, Schedule.collect_of_decisive hd]
    exact .stopped hfiles (hdecisive ▸ hd) fun o ho => absurd ho List.not_mem_nil
  | none =>
    obtain ⟨x, e, hx, -⟩ | ⟨made, hnumbered, hcm, hresult⟩ := hgather.result_eq
    · obtain ⟨o, ho⟩ := Schedule.decisive_eq_none.1 hd _ hx
      cases ho
    · have hmade := Schedule.unnumbered_perm hcm
      rw [hcalls] at hmade
      rw [hresult, ← Schedule.map_snd_dropNumbers made]
      exact .of_made hfiles (Schedule.map_fst_dropNumbers hnumbered) hmade

theorem conduct_each (hfiles : files ≠ []) (hstate : state.2 = []) :
    Conduct s t files (checkEach (checkFile s checker.noted) files state).2.2
      (conclude files.length (checkEach (checkFile s checker.noted) files state).1.1 ms
        (checkEach (checkFile s checker.noted) files state).1.2) := by
  obtain ⟨made, houts, hend⟩ := checkEach_trace (checkFile s checker.noted) files state
  rw [houts]
  obtain ⟨hs, hall, htrace⟩ | ⟨e, p, after, hs, -, htrace⟩ := hend
  · obtain ⟨answers, hcalls, hlog⟩ := htrace.noted
    rw [hs, hlog, hstate, List.nil_append]
    exact .of_made hfiles hall.symm (.of_eq hcalls.symm)
  · obtain ⟨answers, hcalls, hlog⟩ := htrace.noted
    rw [hs, hlog, hstate, List.nil_append]
    exact .of_stop hfiles hcalls.symm

theorem conduct_of_check (s : Settings) (t : Schedule) (checker : Checker σ) (files : List Path)
    (state : σ) (clock : σ → σ → Nat) :
    Conduct s t files (s.exchanges t checker files state)
      (s.check t checker files state clock).1 := by
  have hsame := ((s.checkFile_noted checker).check t files (state, []) clock).1
  rw [← hsame, Settings.exchanges]
  by_cases hfiles : files = []
  · rw [Settings.check, Settings.check, if_pos hfiles, if_pos hfiles]
    exact .skipped hfiles rfl
  by_cases hjobs : 1 < s.jobs
  · rw [check_together hjobs hfiles, check_together hjobs hfiles]
    exact conduct_together hfiles rfl
  · rw [check_each hjobs hfiles, check_each hjobs hfiles]
    exact conduct_each hfiles rfl

end Runs

end SyntaxSweep
