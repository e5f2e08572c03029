import SyntaxSweep.Supervision

namespace SyntaxSweep.Supervision

section Looks

def pauseAfter : Nat → Nat
  | 0 => shortestPause
  | n + 1 => nextPause (pauseAfter n)

/-- The time of a look, if the looks before it have not ended the watch. -/
def timeOf : Nat → Nat
  | 0 => 0
  | n + 1 => timeOf n + pauseAfter n

theorem pauseAfter_pos (n : Nat) : 0 < pauseAfter n := by
  induction n with
  | zero => decide
  | succ n ih =>
    simp only [pauseAfter, nextPause, longestPause]
    omega

theorem le_timeOf (n : Nat) : n ≤ timeOf n := by
  induction n with
  | zero => exact Nat.le_refl 0
  | succ n ih =>
    have hpause := pauseAfter_pos n
    simp only [timeOf]
    omega

def Look.goesOn : Look :=
  ⟨false, .running⟩

theorem Look.judge_eq_none {l : Look} : l.judge.2 = none ↔ l = goesOn := by
  obtain ⟨stop, sighting⟩ := l
  cases stop <;> cases sighting <;> simp [judge, goesOn]

variable {looks : Nat → Nat → Look} {n m : Nat} {l : Look}

/-- The look of a number is the first one that ends the watch. -/
structure Decides (looks : Nat → Nat → Look) (n : Nat) (l : Look) : Prop where
  look_eq : looks n (timeOf n) = l
  ends : l ≠ .goesOn
  before : ∀ k < n, looks k (timeOf k) = .goesOn

theorem watch_of_goesOn {fuel : Nat} (h : looks n (timeOf n) = .goesOn) :
    watch looks (fuel + 1) n (timeOf n) (pauseAfter n) =
      (watch looks fuel (n + 1) (timeOf (n + 1)) (pauseAfter (n + 1))).map fun w =>
        (.see :: .pause (pauseAfter n) :: w.1, w.2) := by
  rw [watch, h]
  cases hw : watch looks fuel (n + 1) (timeOf n + pauseAfter n) (nextPause (pauseAfter n)) <;>
    simp [Look.judge, Look.goesOn, timeOf, pauseAfter, hw]

theorem watch_of_ends {fuel : Nat} {verdict : Verdict}
    (h : (looks n (timeOf n)).judge.2 = some verdict) :
    watch looks (fuel + 1) n (timeOf n) (pauseAfter n) =
      some ((looks n (timeOf n)).judge.1, verdict, timeOf n) := by
  rw [watch]
  cases hj : (looks n (timeOf n)).judge with
  | mk acts ending =>
    rw [hj] at h
    obtain rfl : ending = some verdict := h
    rfl

theorem decides_of_watch {fuel : Nat} {acts : List Act} {verdict : Verdict} {time : Nat}
    (hbefore : ∀ k < n, looks k (timeOf k) = .goesOn)
    (h : watch looks fuel n (timeOf n) (pauseAfter n) = some (acts, verdict, time)) :
    ∃ m l, Decides looks m l ∧ l.judge.2 = some verdict ∧ time = timeOf m := by
  induction fuel generalizing n acts with
  | zero => cases h
  | succ fuel ih =>
    cases hj : (looks n (timeOf n)).judge.2 with
    | none =>
      have hgoes := Look.judge_eq_none.1 hj
      rw [watch_of_goesOn hgoes] at h
      obtain ⟨⟨acts', verdict', time'⟩, hw, hsame⟩ := Option.map_eq_some_iff.1 h
      cases hsame
      refine ih (fun k hk => ?_) hw
      obtain hk | rfl := Nat.lt_or_eq_of_le (Nat.le_of_lt_succ hk)
      · exact hbefore k hk
      · exact hgoes
    | some ending =>
      rw [watch_of_ends hj] at h
      cases h
      refine ⟨n, _, ⟨rfl, fun hgoes => ?_, hbefore⟩, hj, rfl⟩
      rw [Look.judge_eq_none.2 hgoes] at hj
      cases hj

theorem watch_isSome {fuel : Nat} (hle : n ≤ m) (hlt : m < n + fuel)
    (hm : looks m (timeOf m) ≠ .goesOn) :
    (watch looks fuel n (timeOf n) (pauseAfter n)).isSome := by
  induction fuel generalizing n with
  | zero => omega
  | succ fuel ih =>
    cases hj : (looks n (timeOf n)).judge.2 with
    | none =>
      have hgoes := Look.judge_eq_none.1 hj
      have hne : n ≠ m := by
        rintro rfl
        exact hm hgoes
      rw [watch_of_goesOn hgoes, Option.isSome_map]
      exact ih (by omega) (by omega)
    | some ending =>
      rw [watch_of_ends hj]
      rfl

end Looks

section Attempts

variable {π : Type}

/-- How an attempt to run a program may end: before there is a process, or as the look tells that
decides over the process. -/
inductive Ends (program : String) (stopped : Bool) (start : Unit → Except IoProblem π)
    (looks : π → Nat → Nat → Look) : Except Failure Int → Prop
  | stoppedBefore (h : stopped = true) : Ends program stopped start looks (.error .interrupted)
  | notStarted {cause : IoProblem} (h : stopped = false) (hs : start () = .error cause) :
      Ends program stopped start looks (.error (.checkerNotStarted program cause))
  | exited {p : π} {n : Nat} {code : Int} (h : stopped = false) (hs : start () = .ok p)
      (hl : Decides (looks p) n ⟨false, .exited code⟩) :
      Ends program stopped start looks (.ok code)
  | killed {p : π} {n : Nat} (h : stopped = false) (hs : start () = .ok p)
      (hl : Decides (looks p) n ⟨false, .killed⟩) :
      Ends program stopped start looks (.ok 1)
  | stopped {p : π} {n : Nat} {sighting : Sighting} (h : stopped = false) (hs : start () = .ok p)
      (hl : Decides (looks p) n ⟨true, sighting⟩) :
      Ends program stopped start looks (.error .interrupted)
  | unseen {p : π} {n : Nat} {cause : IoProblem} (h : stopped = false) (hs : start () = .ok p)
      (hl : Decides (looks p) n ⟨false, .unseen cause⟩) :
      Ends program stopped start looks (.error (.io cause))

variable {program : String} {stopped : Bool} {start : Unit → Except IoProblem π}
  {looks : π → Nat → Nat → Look}

theorem Ends.of_decides {p : π} {n : Nat} {l : Look} {verdict : Verdict}
    (h : stopped = false) (hs : start () = .ok p) (hl : Decides (looks p) n l)
    (hj : l.judge.2 = some verdict) : Ends program stopped start looks verdict.status := by
  obtain ⟨stop, sighting⟩ := l
  cases stop with
  | true =>
    cases hj
    exact .stopped h hs hl
  | false =>
    cases sighting with
    | running => cases hj
    | exited code =>
      cases hj
      exact .exited h hs hl
    | killed =>
      cases hj
      exact .killed h hs hl
    | unseen cause =>
      cases hj
      exact .unseen h hs hl

theorem ends_of_attempt {fuel : π → Nat} {a : Attempt π}
    (h : attempt program stopped start looks fuel = some a) :
    Ends program stopped start looks a.ending := by
  unfold attempt at h
  cases hstopped : stopped with
  | true =>
    rw [if_pos hstopped] at h
    cases h
    exact .stoppedBefore rfl
  | false =>
    rw [if_neg (by simp [hstopped])] at h
    cases hs : start () with
    | error cause =>
      rw [hs] at h
      cases h
      exact .notStarted rfl hs
    | ok p =>
      simp only [hs] at h
      obtain ⟨⟨acts, verdict, time⟩, hw, hsame⟩ := Option.bind_eq_some_iff.1 h
      cases hsame
      obtain ⟨n, l, hl, hj, -⟩ := @decides_of_watch (looks p) 0 _ _ _ _ nofun hw
      exact .of_decides rfl hs hl hj

theorem attempt_isSome {fuel : π → Nat}
    (h : ∀ p, start () = .ok p → ∃ n < fuel p, looks p n (timeOf n) ≠ .goesOn) :
    (attempt program stopped start looks fuel).isSome := by
  unfold attempt
  split
  · rfl
  · cases hs : start () with
    | error cause => rfl
    | ok p =>
      obtain ⟨n, hlt, hn⟩ := h p hs
      obtain ⟨w, hw⟩ := Option.isSome_iff_exists.1
        (@watch_isSome (looks p) 0 n (fuel p) (Nat.zero_le n) (by omega) hn)
      have hwatch : supervise (looks p) (fuel p) = some w := hw
      simp [hwatch]

end Attempts

end SyntaxSweep.Supervision
