import SyntaxSweep.Check.Scripted
import SyntaxSweep.Machine.Surroundings
import SyntaxSweep.Proofs.Check.Consistency
import SyntaxSweep.Proofs.Machine.Answers
import SyntaxSweep.Proofs.Run.Formats
import SyntaxSweep.Proofs.Run.Preparing

namespace SyntaxSweep

open Cancellation (Token)
open CommandLine (Arguments)

variable {σ : Type}

def endCode : Except Halt Result → Nat
  | .ok r => r.status.exitCode
  | .error halt => halt.exitCode

theorem endCode_conclude (files ms : Nat) (outcomes : List Outcome) (e : Failure) :
    endCode ((conclude files outcomes ms (some e)).mapError .failure) = e.exitCode := by
  cases e <;> rfl

theorem ofAnswer_succeeded (p : Path) (a : Answer) :
    (Outcome.ofAnswer p a).succeeded = true ↔ a.status = 0 := by
  unfold Outcome.ofAnswer
  split <;> simp_all

theorem exitCode_eq_two {e : Failure} :
    e.exitCode = 2 ↔ (∀ program cause, e ≠ .checkerNotStarted program cause) ∧ e ≠ .interrupted := by
  cases e <;> simp [Failure.exitCode]

/-- Every file has been called for, and every call is answered. -/
def Settings.AllAnswered (s : Settings) (files : List Path) (log : List Exchange) : Prop :=
  (log.map (·.1)).Perm (files.map s.callFor) ∧ ∀ c ∈ log, ∃ a, c.2 = .ok a

section Given

variable {s : Settings} {files : List Path} {log : List Exchange} {given : List (Path × Answer)}

theorem finalStatus_of_good (h : ∀ d ∈ given, d.2.status = 0) :
    finalStatus (given.map fun d => .ofAnswer d.1 d.2) = .passed := by
  obtain ⟨hs, -⟩ | ⟨-, o, ho, hfail⟩ := finalStatus_cases (given.map fun d => .ofAnswer d.1 d.2)
  · exact hs
  · obtain ⟨d, hd, rfl⟩ := List.mem_map.1 ho
    rw [(ofAnswer_succeeded d.1 d.2).2 (h d hd)] at hfail
    cases hfail

theorem finalStatus_of_bad {d : Path × Answer} (hd : d ∈ given) (h : d.2.status ≠ 0) :
    finalStatus (given.map fun d => .ofAnswer d.1 d.2) = .failed := by
  obtain ⟨-, hwell⟩ | ⟨hs, -⟩ := finalStatus_cases (given.map fun d => .ofAnswer d.1 d.2)
  · exact absurd ((ofAnswer_succeeded d.1 d.2).1 (hwell _ (List.mem_map_of_mem hd))) h
  · exact hs

theorem all_answered (hlog : log.Perm ((succeeded given).map s.exchange)) :
    ∀ c ∈ log, ∃ a, c.2 = .ok a := by
  intro c hc
  obtain ⟨d, -, rfl⟩ := (Settings.mem_log_iff hlog).1 hc
  exact ⟨d.2, rfl⟩

theorem Settings.allAnswered_of_given (hfiles : given.map (·.1) = files)
    (hlog : log.Perm ((succeeded given).map s.exchange)) : s.AllAnswered files log := by
  refine ⟨?_, all_answered hlog⟩
  have hcalls := hlog.map (·.1)
  rw [succeeded, List.map_map, List.map_map] at hcalls
  rw [← hfiles, List.map_map]
  exact hcalls

end Given

namespace Conduct

variable {s : Settings} {t : Schedule} {files : List Path} {log : List Exchange}
  {result : Except Failure Result} {e : Failure}

theorem endCode_of_nil (h : Conduct s t [] log result) :
    endCode (result.mapError .failure) = 0 := by
  cases h with
  | skipped => rfl
  | ended hne => exact absurd rfl hne
  | stopped hne => exact absurd rfl hne

theorem endCode_of_decisive (h : Conduct s t files log result) (he : t.decisive log = some e) :
    endCode (result.mapError .failure) = e.exitCode := by
  cases h with
  | skipped hfiles hlog =>
    rw [hlog] at he
    cases he
  | ended hne hfiles hlog =>
    rw [Schedule.decisive_eq_none.2 (all_answered hlog)] at he
    cases he
  | stopped hne hlog houts =>
    obtain rfl := Option.some.inj (hlog.symm.trans he)
    exact endCode_conclude _ _ _ _

theorem endCode_of_good (h : Conduct s t files log result)
    (hgood : ∀ c ∈ log, ∃ output, c.2 = .ok ⟨0, output⟩) :
    endCode (result.mapError .failure) = 0 := by
  cases h with
  | skipped => rfl
  | @ended given _ hne hfiles hlog =>
    have hstatus : ∀ d ∈ given, d.2.status = 0 := by
      intro d hd
      obtain ⟨output, ho⟩ := hgood _ ((Settings.mem_log_iff hlog).2 ⟨d, hd, rfl⟩)
      rw [Except.ok.inj ho]
    rw [finalStatus_of_good hstatus]
    rfl
  | stopped hne hlog houts =>
    obtain ⟨call, hc⟩ := Schedule.mem_of_decisive hlog
    obtain ⟨output, ho⟩ := hgood _ hc
    cases ho

theorem endCode_of_bad (h : Conduct s t files log result) (hall : ∀ c ∈ log, ∃ a, c.2 = .ok a)
    {c : Exchange} (hc : c ∈ log) {a : Answer} (ha : c.2 = .ok a) (hbad : a.status ≠ 0) :
    endCode (result.mapError .failure) = 1 := by
  cases h with
  | skipped hfiles hlog =>
    rw [hlog] at hc
    cases hc
  | @ended given _ hne hfiles hlog =>
    obtain ⟨d, hd, rfl⟩ := (Settings.mem_log_iff hlog).1 hc
    obtain rfl := Except.ok.inj ha
    rw [finalStatus_of_bad hd hbad]
    rfl
  | stopped hne hlog houts =>
    rw [Schedule.decisive_eq_none.2 hall] at hlog
    cases hlog

end Conduct

namespace Surroundings

/-- How a run goes, told by its exchanges, and the exit code that it ends with. -/
inductive Exits (around : Surroundings σ) (args : Arguments) (state : σ) : Nat → Prop
  | nothing {s : Settings} {token : Token} (h : around.Selects args s token []) :
      Exits around args state 0
  | passed {s : Settings} {token : Token} {files : List Path} (h : around.Selects args s token files)
      (hall : s.AllAnswered files (around.exchanges args state))
      (hgood : ∀ c ∈ around.exchanges args state, ∃ output, c.2 = .ok ⟨0, output⟩) :
      Exits around args state 0
  | failed {s : Settings} {token : Token} {files : List Path} {c : Exchange} {a : Answer}
      (h : around.Selects args s token files)
      (hall : s.AllAnswered files (around.exchanges args state))
      (hc : c ∈ around.exchanges args state) (ha : c.2 = .ok a) (hbad : a.status ≠ 0) :
      Exits around args state 1
  | notStarted {s : Settings} {token : Token} {files : List Path} {program : String}
      {cause : IoProblem} (h : around.Selects args s token files)
      (hd : around.schedule.decisive (around.exchanges args state) =
        some (.checkerNotStarted program cause)) : Exits around args state 3
  | interrupted {s : Settings} {token : Token} {files : List Path}
      (h : around.Selects args s token files)
      (hd : around.schedule.decisive (around.exchanges args state) = some .interrupted) :
      Exits around args state 130
  | broken {s : Settings} {token : Token} {files : List Path} {e : Failure}
      (h : around.Selects args s token files)
      (hd : around.schedule.decisive (around.exchanges args state) = some e)
      (hs : ∀ program cause, e ≠ .checkerNotStarted program cause) (hi : e ≠ .interrupted) :
      Exits around args state 2
  | halted (h : around.Halts args) : Exits around args state 130
  | refused {e : Failure} (h : around.Refuses args e) : Exits around args state 2
  | panicked (h : around.Panics args) : Exits around args state 101

section Codes

variable {around : Surroundings σ} {args : Arguments} {state : σ}

theorem Selects.endCode_eq {s : Settings} {token : Token} {files : List Path} {code : Nat}
    (h : around.Selects args s token files)
    (hcode : ∀ result, Conduct s around.schedule files (around.exchanges args state) result →
      endCode (result.mapError .failure) = code) :
    endCode (around.result args state).1 = code := by
  obtain ⟨result, hresult, hconduct⟩ := h.conduct state
  rw [hresult]
  exact hcode result hconduct

theorem Selects.exits {s : Settings} {token : Token} {files : List Path}
    (h : around.Selects args s token files) :
    around.Exits args state (endCode (around.result args state).1) := by
  obtain ⟨result, hresult, hconduct⟩ := h.conduct state
  rw [hresult]
  cases hconduct with
  | skipped hfiles hlog =>
    rw [hfiles] at h
    exact .nothing h
  | @ended given _ hne hfiles hlog =>
    have hall := Settings.allAnswered_of_given hfiles hlog
    by_cases hgood : ∀ d ∈ given, d.2.status = 0
    · rw [finalStatus_of_good hgood]
      refine .passed h hall fun c hc => ?_
      obtain ⟨d, hd, rfl⟩ := (Settings.mem_log_iff hlog).1 hc
      exact ⟨d.2.output, by rw [← hgood d hd]⟩
    · obtain ⟨d, hd⟩ := not_forall.1 hgood
      obtain ⟨hd, hbad⟩ := Classical.not_imp.1 hd
      rw [finalStatus_of_bad hd hbad]
      exact .failed h hall ((Settings.mem_log_iff hlog).2 ⟨d, hd, rfl⟩) rfl hbad
  | @stopped e outcomes _ hne hlog houts =>
    rw [endCode_conclude]
    cases e with
    | checkerNotStarted program cause => exact .notStarted h hlog
    | interrupted => exact .interrupted h hlog
    | _ => exact .broken h hlog nofun nofun

theorem exits_result : around.Exits args state (endCode (around.result args state).1) := by
  obtain ⟨e, h⟩ | h | h | ⟨s, token, files, h⟩ := around.before_calls_or_selects args
  · rw [h.result_eq, endCode, Halt.exitCode, h.exitCode_eq]
    exact .refused h
  · rw [h.result_eq]
    exact .halted h
  · rw [h.result_eq]
    exact .panicked h
  · exact h.exits

/-- No run goes in two ways that have different codes. -/
theorem Exits.code_eq {code : Nat} (h : around.Exits args state code) :
    endCode (around.result args state).1 = code := by
  cases h with
  | nothing h => exact h.endCode_eq fun _ hconduct => hconduct.endCode_of_nil
  | passed h hall hgood => exact h.endCode_eq fun _ hconduct => hconduct.endCode_of_good hgood
  | failed h hall hc ha hbad =>
    exact h.endCode_eq fun _ hconduct => hconduct.endCode_of_bad hall.2 hc ha hbad
  | notStarted h hd => exact h.endCode_eq fun _ hconduct => hconduct.endCode_of_decisive hd
  | interrupted h hd => exact h.endCode_eq fun _ hconduct => hconduct.endCode_of_decisive hd
  | broken h hd hs hi =>
    rw [h.endCode_eq fun _ hconduct => hconduct.endCode_of_decisive hd, exitCode_eq_two]
    exact ⟨hs, hi⟩
  | halted h =>
    rw [h.result_eq]
    rfl
  | refused h =>
    rw [h.result_eq]
    exact h.exitCode_eq
  | panicked h =>
    rw [h.result_eq]
    rfl

theorem code_of_run {colours : Colours} (hprint : ∀ r, (around.result args state).1 = .ok r →
    ∃ printed, r.printed colours args.format = .ok printed) :
    (around.run args colours state).1.code = endCode (around.result args state).1 := by
  have hrun : (around.run args colours state).1 =
      conclude args colours (around.result args state).1 := rfl
  rw [hrun]
  cases hr : (around.result args state).1 with
  | error halt => cases halt <;> rfl
  | ok r =>
    obtain ⟨printed, hp⟩ := hprint r hr
    exact code_of_printed hp

theorem endCode_eq_three {result : Except Halt Result} : endCode result = 3 ↔
    ∃ program cause, result = .error (.failure (.checkerNotStarted program cause)) := by
  cases result with
  | ok r =>
    obtain ⟨status, report, files, outcomes, elapsed⟩ := r
    cases status <;> simp [endCode, Status.exitCode]
  | error halt =>
    cases halt with
    | failure e => cases e <;> simp [endCode, Halt.exitCode, Failure.exitCode]
    | panic => simp [endCode, Halt.exitCode, panicCode]

end Codes

end Surroundings

namespace Machine

/-- How a run on a machine is kept under watch whose files have been selected by the time that the
machine shows. -/
structure Supervises (m : Machine) (o : Outside) (args : Arguments) : Prop where
  /-- The limit is counted from the beginning of the run, before its files were selected. -/
  deadline_eq : ∀ s token, (m.around o).token? s = some token →
    token.deadline = s.timeout.map fun seconds => m.now - o.selecting + 1000 * seconds
  /-- The run halts before its first call just if its token tells to stop by then. -/
  halts_iff : (m.around o).Halts args ↔
    ∃ s token selection, (m.around o).settings args = .ok s ∧ (m.around o).token? s = some token ∧
      (m.around o).select args s = .ok selection ∧ token.Tells o.interrupt m.now
  /-- If all calls end, each is answered as an attempt to run its program ends, under the token of the
  run and from what the calls before it have left; and it is interrupted just if a stop is seen. -/
  answers : none ∉ ((m.around o).result args ⟨m, []⟩).2.free → ∀ before c after,
    (m.around o).exchanges args ⟨m, []⟩ = before ++ c :: after →
    ∃ s token w m' others, (m.around o).settings args = .ok s ∧
      (m.around o).token? s = some token ∧
      Trace (Workers.run s.jobs token o.interrupt) ⟨m, []⟩ before w ∧
      w.next? s.jobs = some (m', others) ∧
      m'.CallEnds [] token o.interrupt none c.1 (c.2.map Answer.status) ∧
      (c.2 = .error .interrupted ↔ m'.SeesStop token o.interrupt none c.1)
  /-- A call that does not end is one of a program that never ends, in a run that is neither limited nor
  interrupted. -/
  lost : none ∈ ((m.around o).result args ⟨m, []⟩).2.free → o.interrupt = none ∧
    ∃ s token before c after w m' others, (m.around o).settings args = .ok s ∧
      (m.around o).token? s = some token ∧ token.deadline = none ∧
      (m.around o).exchanges args ⟨m, []⟩ = before ++ c :: after ∧
      Trace (Workers.run s.jobs token o.interrupt) ⟨m, []⟩ before w ∧
      w.next? s.jobs = some (m', others) ∧ m'.Endless token o.interrupt none c.1

theorem supervises (m : Machine) (o : Outside) (args : Arguments) : m.Supervises o args where
  deadline_eq := by
    intro s token ht
    obtain ⟨rfl, -⟩ := (m.around o).token?_eq_some.1 ht
    rfl
  halts_iff := by
    have htells (token : Token) : (m.around o).stopped token = true ↔ token.Tells o.interrupt m.now :=
      Token.isRaised_flagsAt List.not_mem_nil
    simp only [Surroundings.Halts, htells]
  answers := by
    intro hfree before c after hlog
    obtain ⟨hnone, -⟩ | ⟨s, token, hs, ht, htrace⟩ :=
      (m.around o).untouched_or_trace args ⟨m, []⟩
    · simp [hnone] at hlog
    rw [hlog] at htrace
    obtain ⟨w, m', others, hbefore, hnext, hends⟩ := Workers.callEnds_of_trace htrace hfree
    refine ⟨s, token, w, m', others, hs, ht, hbefore, hnext, hends, ?_⟩
    rw [← hends.interrupted_iff, map_error_iff]
  lost := by
    intro hlost
    obtain ⟨-, hlast⟩ | ⟨s, token, hs, ht, htrace⟩ :=
      (m.around o).untouched_or_trace args ⟨m, []⟩
    · simp [hlast] at hlost
    obtain ⟨before, c, after, w, m', others, hlog, hbefore, hnext, hendless⟩ :=
      Workers.endless_of_trace htrace List.not_mem_nil hlost
    obtain ⟨hdeadline, hinterrupt⟩ := Token.stopTime_eq_none.1 hendless.1
    exact ⟨hinterrupt, s, token, before, c, after, w, m', others, hs, ht, hdeadline, hlog, hbefore,
      hnext, hendless⟩

end Machine

namespace Surroundings

/-- The exit code of a run whose result can be printed tells how the run went. A run that ends before its
first call leaves the checker alone; its token has the deadline that its settings say, or it panics. The
answer of a checker that is a process is settled by the first look that finds the process ended or the
run told to stop, and on a machine all checkers are processes. -/
theorem exit_code_iff (around : Surroundings σ) (args : Arguments) (colours : Colours) (state : σ)
    (hprint : ∀ r, (around.result args state).1 = .ok r →
      ∃ printed, r.printed colours args.format = .ok printed) :
    (∀ code, (around.run args colours state).1.code = code ↔ around.Exits args state code) ∧
    (∀ s token, around.token? s = some token ↔
      token = ⟨0, s.timeout.map fun seconds => around.began + 1000 * seconds⟩ ∧
        ∀ deadline, token.deadline = some deadline → deadline < 1000 * 2 ^ 63) ∧
    (around.noted.result args (state, [])).1 = (around.result args state).1 ∧
    ((around.run args colours state).1.code = 3 ↔ ∃ program cause,
      (around.result args state).1 = .error (.failure (.checkerNotStarted program cause))) ∧
    ((∃ e, around.Refuses args e) ∨ around.Halts args ∨ around.Panics args →
      around.exchanges args state = [] ∧ (around.run args colours state).2 = state) ∧
    (∀ {π : Type} (program : String) (stopped : Bool) (start : Unit → Except IoProblem π)
      (looks : π → Nat → Nat → Supervision.Look) (fuel : π → Nat) (a : Supervision.Attempt π),
      Supervision.attempt program stopped start looks fuel = some a →
        Supervision.Ends program stopped start looks a.ending) ∧
    ∀ (m : Machine) (o : Machine.Outside), m.Supervises o args := by
  rw [code_of_run hprint]
  refine ⟨fun code => ⟨?_, Exits.code_eq⟩, fun s token => around.token?_eq_some,
    (result_noted state []).1, endCode_eq_three, ?_, ?_, ?_⟩
  · rintro rfl
    exact exits_result
  · have hlast : (around.run args colours state).2 = (around.result args state).2 := rfl
    rw [hlast]
    rintro (⟨e, h⟩ | h | h)
    · exact ⟨h.exchanges_eq state, by rw [h.result_eq]⟩
    · exact ⟨h.exchanges_eq state, by rw [h.result_eq]⟩
    · exact ⟨h.exchanges_eq state, by rw [h.result_eq]⟩
  · intro π program stopped start looks fuel a ha
    exact Supervision.ends_of_attempt ha
  · exact fun m o => m.supervises o args

/-- Two workers, of which the one with the second file is first, at a checker that refuses this file. -/
def strict : Surroundings (List Call) where
  directory := .ok (.ofText "/")
  files := ⟨fun _ => false, fun _ => false, fun _ => .error .noEntry⟩
  stdin := ⟨[], none⟩
  git _ := .error .noEntry
  root? _ := none
  began := 0
  stopped _ := false
  workers _ := .ok ()
  checker _ _ := Script.checker ⟨[⟨"b", .exits 255 "on line 3"⟩], none⟩
  schedule := { picks := [1] }
  clock _ calls := calls.length

def twoFiles : Arguments :=
  { files := [.ofText "a", .ofText "b"], jobs := some 2, output := some .json }

/-- With a limit that ends beyond all clocks. -/
example : (strict.run { twoFiles with timeout := some (2 ^ 64 - 1) } false []).1.code = 101 := by
  rfl

theorem exit_strict :
    (∀ r, (strict.result twoFiles []).1 = .ok r →
      ∃ printed, r.printed false twoFiles.format = .ok printed) ∧
    strict.Exits twoFiles [] 1 := by
  have hprint : ∀ r, (strict.result twoFiles []).1 = .ok r →
      ∃ printed, r.printed false twoFiles.format = .ok printed := by
    intro r hr
    have hresult : (strict.result twoFiles []).1 = .ok ⟨.failed, "b:\non line 3", 2,
        [⟨.ofText "a", true, "", none⟩, ⟨.ofText "b", false, "b:\non line 3", some 3⟩], 2⟩ := rfl
    cases hresult.symm.trans hr
    exact ⟨_, rfl⟩
  exact ⟨hprint, ((exit_code_iff strict twoFiles false [] hprint).1 1).1 rfl⟩

end Surroundings

end SyntaxSweep
