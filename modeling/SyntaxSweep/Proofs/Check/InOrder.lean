import SyntaxSweep.Proofs.Check.Consistency

namespace SyntaxSweep

variable {σ : Type}

namespace Checker

/-- What calls come to that are made one after the other, whatever they come to. -/
def answers (checker : Checker σ) : List Call → σ → List (Except Failure Answer)
  | [], _ => []
  | call :: rest, state =>
    (checker state call).1 :: checker.answers rest (checker state call).2

def stateAfter (checker : Checker σ) : List Call → σ → σ
  | [], state => state
  | call :: rest, state => checker.stateAfter rest (checker state call).2

theorem length_answers (checker : Checker σ) (calls : List Call) (state : σ) :
    (checker.answers calls state).length = calls.length := by
  induction calls generalizing state with
  | nil => rfl
  | cons call rest ih => exact congrArg (· + 1) (ih (checker state call).2)

theorem answers_recorded (checker : Checker σ) (calls : List Call) (state : σ × List Call) :
    checker.recorded.answers calls state = checker.answers calls state.1 := by
  induction calls generalizing state with
  | nil => rfl
  | cons call rest ih => exact congrArg ((checker state.1 call).1 :: ·) (ih _)

theorem stateAfter_recorded (checker : Checker σ) (calls : List Call) (state : σ × List Call) :
    checker.recorded.stateAfter calls state =
      (checker.stateAfter calls state.1, state.2 ++ calls) := by
  induction calls generalizing state with
  | nil => rw [List.append_nil]; rfl
  | cons call rest ih =>
    rw [List.append_cons]
    exact ih (checker.recorded state call).2

end Checker

/-- The place of the first call without an answer, or the number of calls if all have one. -/
def firstUnanswered (answers : List (Except Failure Answer)) : Nat :=
  answers.findIdx (!·.isOk)

theorem firstUnanswered_ok (given : List Answer) :
    firstUnanswered (given.map .ok) = given.length := by
  rw [firstUnanswered, List.findIdx_eq_length_of_false, List.length_map]
  intro answer hanswer
  obtain ⟨a, -, rfl⟩ := List.mem_map.1 hanswer
  rfl

theorem firstUnanswered_error (given : List Answer) (e : Failure)
    (more : List (Except Failure Answer)) :
    firstUnanswered (given.map .ok ++ .error e :: more) = given.length := by
  have hgiven := firstUnanswered_ok given
  rw [firstUnanswered] at hgiven
  rw [firstUnanswered, List.findIdx_append, hgiven, List.length_map, if_neg (Nat.lt_irrefl _),
    List.findIdx_cons]
  exact Nat.zero_add _

def outcomesOf (files : List Path) (given : List Answer) : List Outcome :=
  List.zipWith Outcome.ofAnswer files given

theorem path_outcomesOf (files : List Path) (given : List Answer) :
    (outcomesOf files given).map (·.path) = files.take given.length := by
  induction files generalizing given with
  | nil => rw [List.take_nil]; rfl
  | cons p rest ih =>
    cases given with
    | nil => rfl
    | cons a given => exact congrArg₂ List.cons (path_ofAnswer p a) (ih given)

/-- Files checked in order: every call has an answer, or the last call that is made has none. -/
theorem checkEach_answers (s : Settings) (checker : Checker σ) (files : List Path) (state : σ) :
    ∃ given : List Answer,
      (checkEach (checkFile s checker) files state).1.1 = outcomesOf files given ∧
        (checkEach (checkFile s checker) files state).2 =
          checker.stateAfter ((files.take (given.length + 1)).map s.callFor) state ∧
        ((checker.answers (files.map s.callFor) state = given.map .ok ∧
            (checkEach (checkFile s checker) files state).1.2 = none) ∨
          ∃ e more, checker.answers (files.map s.callFor) state = given.map .ok ++ .error e :: more ∧
            (checkEach (checkFile s checker) files state).1.2 = some e) := by
  induction files generalizing state with
  | nil => exact ⟨[], rfl, rfl, .inl ⟨rfl, rfl⟩⟩
  | cons p rest ih =>
    simp only [List.map_cons, Checker.answers, List.take_succ_cons, Checker.stateAfter, checkEach,
      checkFile]
    cases hcall : checker state (s.callFor p) with
    | mk answer next =>
      cases answer with
      | error e => exact ⟨[], rfl, rfl, .inr ⟨e, _, rfl, rfl⟩⟩
      | ok a =>
        obtain ⟨given, houts, hlast, hend⟩ := ih next
        refine ⟨a :: given, congrArg (Outcome.ofAnswer p a :: ·) houts, hlast, ?_⟩
        obtain ⟨hanswers, hnone⟩ | ⟨e, more, hanswers, hsome⟩ := hend
        · exact .inl ⟨congrArg (.ok a :: ·) hanswers, hnone⟩
        · exact .inr ⟨e, more, congrArg (.ok a :: ·) hanswers, hsome⟩

section OneWorker

variable {s : Settings} {files : List Path}

theorem exists_given_of_one_worker (hjobs : s.jobs = 1) (hfiles : files ≠ []) (t : Schedule)
    (checker : Checker σ) (state : σ) (clock : σ → σ → Nat) :
    ∃ (given : List Answer) (stopped : Option Failure),
      (s.check t checker files state clock).1 = conclude files.length (outcomesOf files given)
          (clock state (s.check t checker files state clock).2) stopped ∧
        s.callsMade t checker files state = (files.take (given.length + 1)).map s.callFor ∧
        ((checker.answers (files.map s.callFor) state = given.map .ok ∧ stopped = none) ∨
          ∃ e more, checker.answers (files.map s.callFor) state = given.map .ok ++ .error e :: more ∧
            stopped = some e) := by
  have hone : ¬1 < s.jobs := by omega
  -- The run that keeps a record comes to the same, and its last state holds the calls.
  obtain ⟨given, houts, hlast, hend⟩ := checkEach_answers s checker.recorded files (state, [])
  rw [checker.answers_recorded] at hend
  refine ⟨given, _, ?_, ?_, hend⟩
  · obtain ⟨hsame, hstate⟩ := s.check_recorded t checker files (state, []) clock
    rw [← hsame, ← hstate, check_each hone hfiles, houts]
  · rw [Settings.callsMade, check_each hone hfiles, hlast, checker.stateAfter_recorded,
      List.nil_append]

/-- One worker calls the checker for the files in their order, up to the first call without an answer.
If there is none, all files have outcomes; an interruption leaves the outcomes that there are, with the
diagnostics among them; and any other failure is all that the run comes to. -/
theorem check_one_worker (hjobs : s.jobs = 1) (hfiles : files ≠ []) (t : Schedule)
    (checker : Checker σ) (state : σ) (clock : σ → σ → Nat) :
    let answers := checker.answers (files.map s.callFor) state
    let k := firstUnanswered answers
    let run := s.check t checker files state clock
    ∃ given : List Answer,
      answers.take k = given.map .ok ∧
      s.callsMade t checker files state =
        (files.take (k + 1)).map (fun p => ⟨s.checker, s.checkerArgs ++ [p.text]⟩) ∧
      (outcomesOf files given).map (·.path) = files.take k ∧
      ((k = files.length ∧
          run.1 = .ok ⟨finalStatus (outcomesOf files given), reportOf (outcomesOf files given),
            files.length, outcomesOf files given, clock state run.2⟩) ∨
        (answers[k]? = some (.error .interrupted) ∧
          run.1 = .ok ⟨.aborted, reportOf (outcomesOf files given), files.length,
            outcomesOf files given, clock state run.2⟩ ∧
          ∀ o ∈ outcomesOf files given, o.succeeded = false →
            o.diagnostic.toList <:+: (reportOf (outcomesOf files given)).toList) ∨
        ∃ e, e ≠ .interrupted ∧ answers[k]? = some (.error e) ∧ run.1 = .error e) := by
  have hlength := checker.length_answers (files.map s.callFor) state
  -- Either all calls have answers, or `more` is what the calls after the first one without would come to.
  obtain ⟨given, stopped, hresult, hcalls, ⟨hanswers, rfl⟩ | ⟨e, more, hanswers, rfl⟩⟩ :=
    exists_given_of_one_worker hjobs hfiles t checker state clock
  · rw [hanswers, List.length_map, List.length_map] at hlength
    dsimp only
    rw [hanswers, firstUnanswered_ok]
    refine ⟨given, ?_, hcalls, path_outcomesOf files given, .inl ⟨hlength, hresult⟩⟩
    exact List.take_of_length_le (Nat.le_of_eq (List.length_map _))
  · have hat : (given.map .ok ++ .error e :: more)[given.length]? = some (.error e) := by
      rw [List.getElem?_append_right (Nat.le_of_eq (List.length_map _)), List.length_map,
        Nat.sub_self]
      rfl
    dsimp only
    rw [hanswers, firstUnanswered_error]
    refine ⟨given, List.take_left' (List.length_map _), hcalls, path_outcomesOf files given, .inr ?_⟩
    obtain ⟨rfl, haborted⟩ | ⟨he, herror⟩ :=
      conclude_stopped files.length (outcomesOf files given)
        (clock state (s.check t checker files state clock).2) e
    · exact .inl ⟨hat, hresult.trans haborted, fun o ho hfail => report_holds_failures ho hfail⟩
    · exact .inr ⟨e, he, hat, hresult.trans herror⟩

theorem check_one_worker_stopped :
    oneWorker.callsMade {} refusesThenStops.checker
        [.ofText "b", .ofText "a", .ofText "c", .ofText "d"] [] =
      [⟨"c", ["-l", "b"]⟩, ⟨"c", ["-l", "a"]⟩, ⟨"c", ["-l", "c"]⟩] ∧
    (oneWorker.check {} refusesThenStops.checker
        [.ofText "b", .ofText "a", .ofText "c", .ofText "d"] [] fun _ calls => 7 * calls.length).1 =
      .ok ⟨.aborted, "b:\non line 3", 4, [⟨.ofText "b", false, "b:\non line 3", some 3⟩,
        ⟨.ofText "a", true, "", none⟩], 21⟩ := by
  have hfiles : [Path.ofText "b", .ofText "a", .ofText "c", .ofText "d"] ≠ [] := by decide
  obtain ⟨given, hgiven, hcalls, -, hend⟩ :=
    check_one_worker (rfl : oneWorker.jobs = 1) hfiles {} refusesThenStops.checker []
      fun _ calls => 7 * calls.length
  have hanswers : [Answer.mk 1 "on line 3", ⟨0, ""⟩] = given :=
    List.map_injective_iff.2 (fun _ _ => Except.ok.inj) hgiven
  subst hanswers
  refine ⟨hcalls, ?_⟩
  obtain ⟨hk, -⟩ | ⟨-, hresult, -⟩ | ⟨e, he, hat, -⟩ := hend
  · exact absurd hk (by decide)
  · exact hresult
  · cases hat
    exact absurd rfl he

end OneWorker

end SyntaxSweep
