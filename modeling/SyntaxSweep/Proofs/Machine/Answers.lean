import SyntaxSweep.Machine.Workers
import SyntaxSweep.Proofs.Cancellation.Raised
import SyntaxSweep.Proofs.Check.Calls
import SyntaxSweep.Proofs.Machine.Watching

namespace SyntaxSweep.Machine

open Supervision (Look)

section Starting

theorem courseOf_ends (m : Machine) (began number : Nat) {t : Nat}
    (h : (m.courseOf began number).lasts = some t) :
    (m.courseOf began number).ending ≠ .running := by
  unfold courseOf at h ⊢
  split at h <;> simp_all

theorem course_of_start {m : Machine} {deadline : Option Nat} {within : Option Path} {call : Call}
    {s : Started} (h : m.start deadline within call = .ok s) :
    ∃ (done : Machine) (number : Nat), s.course = done.courseOf m.now number := by
  unfold start at h
  simp only [bind, Except.bind, pure, Except.pure] at h
  repeat' split at h
  any_goals cases h
  all_goals exact ⟨_, _, rfl⟩

end Starting

section Running

variable (m : Machine) (flags : Cancellation.Flags) (token : Cancellation.Token)
  (interrupt : Option Nat) (within : Option Path) (call : Call)

def looksUnder (s : Started) (_ time : Nat) : Look :=
  s.course.look ((token.stopTime interrupt).map (· - m.now)) time

/-- The ways in which an attempt to run the program of a call under a token may end. -/
def CallEnds : Except Failure Int → Prop :=
  Supervision.Ends call.program
    (Cancellation.isRaised (token.flagsAt flags interrupt m.now) m.now token)
    (fun _ => m.start (token.stopTime interrupt) within call) (m.looksUnder token interrupt)

/-- A program that never ends, under a token that never tells to stop. -/
def Endless : Prop :=
  token.stopTime interrupt = none ∧
    ∃ s, m.start (token.stopTime interrupt) within call = .ok s ∧ s.course.lasts = none

def attemptAt : Option (Supervision.Attempt Started) :=
  Supervision.attempt call.program
    (Cancellation.isRaised (token.flagsAt flags interrupt m.now) m.now token)
    (fun _ => m.start (token.stopTime interrupt) within call) (m.looksUnder token interrupt)
    (looksNeeded ((token.stopTime interrupt).map (· - m.now)))

/-- The token tells to stop when the call is made, or at a look at its process, which runs up to then. -/
def SeesStop : Prop :=
  token.Tells interrupt m.now ∨
    ∃ s n, m.start (token.stopTime interrupt) within call = .ok s ∧
      (∀ k < n, m.looksUnder token interrupt s k (Supervision.timeOf k) = .goesOn) ∧
      token.Tells interrupt (m.now + Supervision.timeOf n)

variable {m flags token interrupt within call}

theorem exists_look {s : Started} (hs : m.start (token.stopTime interrupt) within call = .ok s)
    (h : ¬m.Endless token interrupt within call) :
    ∃ n < looksNeeded ((token.stopTime interrupt).map (· - m.now)) s,
      m.looksUnder token interrupt s n (Supervision.timeOf n) ≠ .goesOn := by
  obtain ⟨done, number, hcourse⟩ := course_of_start hs
  have hends {t : Nat} (ht : s.course.lasts = some t) : s.course.ending ≠ .running := by
    rw [hcourse] at ht ⊢
    exact done.courseOf_ends m.now number ht
  -- By the look of a number that much time has passed, and more.
  have hover {t : Nat} (ht : s.course.lasts = some t) :
      m.looksUnder token interrupt s t (Supervision.timeOf t) ≠ .goesOn := by
    intro hgoes
    have hsighting := congrArg Look.sighting hgoes
    simp only [looksUnder, Supervision.Course.look, ht, if_pos (Supervision.le_timeOf t)]
      at hsighting
    exact hends ht hsighting
  have hoverdue {d : Nat} (hd : (token.stopTime interrupt).map (· - m.now) = some d) :
      m.looksUnder token interrupt s d (Supervision.timeOf d) ≠ .goesOn := by
    intro hgoes
    have hstop := congrArg Look.stop hgoes
    simp [looksUnder, Supervision.Course.look, Look.goesOn, hd] at hstop
    exact absurd (Supervision.le_timeOf d) (Nat.not_le.2 hstop)
  cases ht : s.course.lasts with
  | none =>
    cases hd : (token.stopTime interrupt).map (· - m.now) with
    | none => exact absurd ⟨Option.map_eq_none_iff.1 hd, s, hs, ht⟩ h
    | some d => exact ⟨d, by simp [looksNeeded, ht], hoverdue hd⟩
  | some t =>
    cases hd : (token.stopTime interrupt).map (· - m.now) with
    | none => exact ⟨t, by simp [looksNeeded, ht], hover ht⟩
    | some d =>
      obtain hle | hle := Nat.le_total t d
      · exact ⟨t, by simp [looksNeeded, ht, hle], hover ht⟩
      · exact ⟨d, by simp [looksNeeded, ht, hle], hoverdue hd⟩

theorem attemptAt_isSome (h : ¬m.Endless token interrupt within call) :
    (m.attemptAt flags token interrupt within call).isSome :=
  Supervision.attempt_isSome fun _ hs => exists_look hs h

theorem callEnds_of_run? {answer : Except Failure Answer} {after : Machine}
    (h : m.run? flags token interrupt within call = some (answer, after)) :
    m.CallEnds flags token interrupt within call (answer.map Answer.status) := by
  obtain ⟨⟨process, acts, ending, elapsed⟩, ha, he⟩ := Option.map_eq_some_iff.1 h
  have hends : m.CallEnds flags token interrupt within call ending :=
    Supervision.ends_of_attempt ha
  cases process <;> cases ending <;> cases he <;> exact hends

theorem endless_of_run? (h : m.run? flags token interrupt within call = none) :
    m.Endless token interrupt within call := by
  by_contra hendless
  have hsome := @attemptAt_isSome m flags token interrupt within call hendless
  rw [show m.attemptAt flags token interrupt within call = none from Option.map_eq_none_iff.1 h]
    at hsome
  cases hsome

theorem stop_looksUnder {s : Started} {n time : Nat} :
    (m.looksUnder token interrupt s n time).stop = true ↔ token.Tells interrupt (m.now + time) := by
  rw [← Cancellation.Token.le_stopTime_iff]
  simp only [looksUnder, Supervision.Course.look]
  cases token.stopTime interrupt <;> simp [Nat.add_comm]

theorem SeesStop.stop_eq (h : m.SeesStop token interrupt within call)
    (hbefore : ¬token.Tells interrupt m.now) {s : Started} {n : Nat} {l : Look}
    (hs : m.start (token.stopTime interrupt) within call = .ok s)
    (hl : Supervision.Decides (m.looksUnder token interrupt s) n l) : l.stop = true := by
  obtain h | ⟨s', n', hs', hgoes, htells⟩ := h
  · exact absurd h hbefore
  obtain rfl := Except.ok.inj (hs.symm.trans hs')
  have hstop := (@stop_looksUnder m token interrupt s n' _).2 htells
  obtain hlt | rfl | hlt := Nat.lt_trichotomy n n'
  · exact absurd (hl.look_eq.symm.trans (hgoes n hlt)) hl.ends
  · rw [← hl.look_eq, hstop]
  · rw [hl.before n' hlt] at hstop
    cases hstop

theorem CallEnds.interrupted_iff {ending : Except Failure Int}
    (h : m.CallEnds [] token interrupt within call ending) :
    ending = .error .interrupted ↔ m.SeesStop token interrupt within call := by
  have hraised := @Cancellation.Token.isRaised_flagsAt [] m.now token interrupt List.not_mem_nil
  have hbefore (hstop : Cancellation.isRaised (token.flagsAt [] interrupt m.now) m.now token = false) :
      ¬token.Tells interrupt m.now := by
    rw [← hraised, hstop]
    exact Bool.false_ne_true
  have hnot {s : Started} {n : Nat} {sighting : Supervision.Sighting}
      (hstop : Cancellation.isRaised (token.flagsAt [] interrupt m.now) m.now token = false)
      (hs : m.start (token.stopTime interrupt) within call = .ok s)
      (hl : Supervision.Decides (m.looksUnder token interrupt s) n ⟨false, sighting⟩) :
      ¬m.SeesStop token interrupt within call :=
    fun hsees => Bool.false_ne_true (hsees.stop_eq (hbefore hstop) hs hl)
  cases h with
  | stoppedBefore hstop => exact iff_of_true rfl (.inl (hraised.1 hstop))
  | @notStarted cause hstop hs =>
    refine iff_of_false nofun ?_
    rintro (htells | ⟨s, n, hs', -⟩)
    · exact hbefore hstop htells
    · cases hs.symm.trans hs'
  | exited hstop hs hl => exact iff_of_false nofun (hnot hstop hs hl)
  | killed hstop hs hl => exact iff_of_false nofun (hnot hstop hs hl)
  | unseen hstop hs hl => exact iff_of_false nofun (hnot hstop hs hl)
  | @stopped s n sighting hstop hs hl =>
    have hlook : (m.looksUnder token interrupt s n (Supervision.timeOf n)).stop = true := by
      rw [hl.look_eq]
    exact iff_of_true rfl (.inr ⟨s, n, hs, hl.before, stop_looksUnder.1 hlook⟩)

end Running

end SyntaxSweep.Machine

namespace SyntaxSweep.Workers

variable {jobs : Nat} {token : Cancellation.Token} {interrupt : Option Nat} {w last : Workers}
  {call : Call}

theorem mem_insertTime {t u : Option Nat} {times : List (Option Nat)} :
    u ∈ insertTime t times ↔ u = t ∨ u ∈ times := by
  induction times with
  | nil => simp [insertTime]
  | cons first rest ih =>
    rw [insertTime]
    split
    · rw [List.mem_cons]
    · rw [List.mem_cons, List.mem_cons, ih]
      exact or_left_comm

theorem none_mem_of_next? {m : Machine} {others : List (Option Nat)}
    (h : w.next? jobs = some (m, others)) : none ∈ w.free ↔ none ∈ others := by
  unfold next? at h
  split at h
  · next hfree =>
    cases h
    rw [hfree]
  · next t rest hfree =>
    split at h
    · cases h
      rw [hfree]
    · obtain ⟨begin, rfl, he⟩ := Option.map_eq_some_iff.1 h
      cases he
      simp [hfree]

theorem none_mem_of_next?_eq_none (h : w.next? jobs = none) : none ∈ w.free := by
  unfold next? at h
  split at h
  · cases h
  · next t rest hfree =>
    split at h
    · cases h
    · rw [hfree, Option.map_eq_none_iff.1 h]
      exact List.mem_cons_self

/-- A call is answered, or it never ends, or it never begins. -/
theorem run_cases (jobs : Nat) (token : Cancellation.Token) (interrupt : Option Nat) (w : Workers)
    (call : Call) :
    (∃ m others answer after, w.next? jobs = some (m, others) ∧
      m.run? [] token interrupt none call = some (answer, after) ∧
      w.run jobs token interrupt call =
        (answer, ⟨{ after with now := m.now }, insertTime (some after.now) others⟩)) ∨
    (∃ m others, w.next? jobs = some (m, others) ∧ m.run? [] token interrupt none call = none ∧
      w.run jobs token interrupt call = (Machine.noAnswer, ⟨m, insertTime none others⟩)) ∨
    w.next? jobs = none ∧ w.run jobs token interrupt call = (Machine.noAnswer, w) := by
  cases hnext : w.next? jobs with
  | none => exact .inr (.inr ⟨rfl, by rw [run, hnext]⟩)
  | some next =>
    obtain ⟨m, others⟩ := next
    cases hrun : m.run? [] token interrupt none call with
    | none => exact .inr (.inl ⟨m, others, rfl, hrun, by simp only [run, hnext, hrun]⟩)
    | some answered =>
      obtain ⟨answer, after⟩ := answered
      exact .inl ⟨m, others, answer, after, rfl, hrun, by simp only [run, hnext, hrun]⟩

/-- A worker that is never free again stays so, and there is one more just if a call never ends. -/
theorem none_mem_run : none ∈ (w.run jobs token interrupt call).2.free ↔
    none ∈ w.free ∨ ∃ m others, w.next? jobs = some (m, others) ∧
      m.run? [] token interrupt none call = none := by
  obtain ⟨m, others, answer, after, hnext, hrun, he⟩ | ⟨m, others, hnext, hrun, he⟩ | ⟨hnext, he⟩ :=
    run_cases jobs token interrupt w call
  · simp [he, mem_insertTime, hnext, hrun, none_mem_of_next? hnext]
  · simp [he, mem_insertTime, hnext, hrun]
  · simp [he, none_mem_of_next?_eq_none hnext]

theorem callEnds_of_run (h : none ∉ (w.run jobs token interrupt call).2.free) :
    ∃ m others, w.next? jobs = some (m, others) ∧
      m.CallEnds [] token interrupt none call
        ((w.run jobs token interrupt call).1.map Answer.status) := by
  obtain ⟨m, others, answer, after, hnext, hrun, he⟩ | ⟨m, others, hnext, hrun, -⟩ | ⟨hnext, he⟩ :=
    run_cases jobs token interrupt w call
  · rw [he]
    exact ⟨m, others, hnext, Machine.callEnds_of_run? hrun⟩
  · exact absurd (none_mem_run.2 (.inr ⟨m, others, hnext, hrun⟩)) h
  · rw [he] at h
    exact absurd (none_mem_of_next?_eq_none hnext) h

variable {calls : List (Call × Except Failure Answer)}

theorem none_mem_of_trace (h : Trace (run jobs token interrupt) w calls last)
    (hw : none ∈ w.free) : none ∈ last.free := by
  induction h with
  | nil => exact hw
  | cons state call rest ih => exact ih (none_mem_run.2 (.inl hw))

theorem endless_of_trace (h : Trace (run jobs token interrupt) w calls last)
    (hw : none ∉ w.free) (hlast : none ∈ last.free) :
    ∃ before c after middle m others, calls = before ++ c :: after ∧
      Trace (run jobs token interrupt) w before middle ∧ middle.next? jobs = some (m, others) ∧
      m.Endless token interrupt none c.1 := by
  induction h with
  | nil => exact absurd hlast hw
  | cons state call rest ih =>
    by_cases hnext : none ∈ (state.run jobs token interrupt call).2.free
    · obtain hfree | ⟨m, others, hnext, hrun⟩ := none_mem_run.1 hnext
      · exact absurd hfree hw
      · exact ⟨[], _, _, state, m, others, rfl, .nil state, hnext, Machine.endless_of_run? hrun⟩
    · obtain ⟨before, c, after, middle, m, others, rfl, hbefore, hm⟩ := ih hnext hlast
      exact ⟨_ :: before, c, after, middle, m, others, rfl, .cons state call hbefore, hm⟩

theorem callEnds_of_trace {before after : List (Call × Except Failure Answer)}
    {c : Call × Except Failure Answer}
    (h : Trace (run jobs token interrupt) w (before ++ c :: after) last) (hlast : none ∉ last.free) :
    ∃ middle m others, Trace (run jobs token interrupt) w before middle ∧
      middle.next? jobs = some (m, others) ∧
      m.CallEnds [] token interrupt none c.1 (c.2.map Answer.status) := by
  obtain ⟨middle, hbefore, hc, hafter⟩ := h.split
  obtain ⟨m, others, hnext, hends⟩ := callEnds_of_run fun hlost => hlast (none_mem_of_trace hafter hlost)
  rw [← hc] at hends
  exact ⟨middle, m, others, hbefore, hnext, hends⟩

end SyntaxSweep.Workers
