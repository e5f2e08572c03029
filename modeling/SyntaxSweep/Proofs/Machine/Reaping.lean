import Mathlib.Data.Nat.Find
import Mathlib.Order.Monotone.Basic
import SyntaxSweep.Machine.System
import SyntaxSweep.Proofs.Machine.Answers

namespace SyntaxSweep.Supervision

section Processes

inductive Standing where
  | running
  | ended
  | reaped
  deriving DecidableEq, Repr

def Sighting.IsEnd : Sighting → Prop
  | .exited _ | .killed => True
  | .running | .unseen _ => False

/-- Acts done to a process, with what is seen of it in turn. It may end at any time if it ends by itself
at all (`own`), and a process that has ended is not seen to run. Its end is reaped by being seen, or by
being waited for. -/
inductive Undergoes (own : Prop) : List Sighting → List Act → Standing → Standing → Prop
  | nothing (s : Standing) : Undergoes own [] [] s s
  | ends {seen : List Sighting} {acts : List Act} {t : Standing} (hown : own)
      (h : Undergoes own seen acts .ended t) : Undergoes own seen acts .running t
  | pause {seen : List Sighting} {acts : List Act} {s t : Standing} (ms : Nat)
      (h : Undergoes own seen acts s t) : Undergoes own seen (.pause ms :: acts) s t
  | seeRunning {seen : List Sighting} {acts : List Act} {t : Standing}
      (h : Undergoes own seen acts .running t) :
      Undergoes own (.running :: seen) (.see :: acts) .running t
  | seeEnd {seen : List Sighting} {acts : List Act} {t : Standing} {sighting : Sighting}
      (hend : sighting.IsEnd) (h : Undergoes own seen acts .reaped t) :
      Undergoes own (sighting :: seen) (.see :: acts) .ended t
  | seeNothing {seen : List Sighting} {acts : List Act} {s t : Standing} (cause : IoProblem)
      (h : Undergoes own seen acts s t) :
      Undergoes own (.unseen cause :: seen) (.see :: acts) s t
  | kill {seen : List Sighting} {acts : List Act} {s t : Standing} (hs : s ≠ .reaped)
      (h : Undergoes own seen acts .ended t) : Undergoes own seen (.kill :: acts) s t
  | reap {seen : List Sighting} {acts : List Act} {t : Standing}
      (h : Undergoes own seen acts .reaped t) : Undergoes own seen (.reap :: acts) .ended t

variable {own : Prop} {seen : List Sighting} {acts : List Act} {s t : Standing}

theorem undergoes_nil_iff : Undergoes own [] [] .reaped t ↔ t = .reaped := by
  constructor
  · intro h
    cases h
    rfl
  · rintro rfl
    exact .nothing .reaped

theorem undergoes_pause_iff {ms : Nat} :
    Undergoes own seen (.pause ms :: acts) s t ↔ Undergoes own seen acts s t := by
  refine ⟨fun h => ?_, .pause ms⟩
  cases h with
  | pause _ h => exact h
  | ends hown h =>
    cases h with
    | pause _ h => exact .ends hown h

theorem undergoes_seeRunning_iff :
    Undergoes own (.running :: seen) (.see :: acts) .running t ↔
      Undergoes own seen acts .running t := by
  refine ⟨fun h => ?_, .seeRunning⟩
  cases h with
  | seeRunning h => exact h
  | ends hown h =>
    cases h with
    | seeEnd hend h => exact hend.elim

theorem undergoes_seeEnd_iff {sighting : Sighting} (hend : sighting.IsEnd) :
    Undergoes own (sighting :: seen) (.see :: acts) .running t ↔
      own ∧ Undergoes own seen acts .reaped t := by
  refine ⟨fun h => ?_, fun ⟨hown, h⟩ => .ends hown (.seeEnd hend h)⟩
  cases h with
  | seeRunning h => exact hend.elim
  | seeNothing cause h => exact hend.elim
  | ends hown h =>
    cases h with
    | seeEnd _ h => exact ⟨hown, h⟩
    | seeNothing cause h => exact hend.elim

theorem undergoes_seeNothing_iff {cause : IoProblem} :
    Undergoes own (.unseen cause :: seen) (.see :: acts) s t ↔ Undergoes own seen acts s t := by
  refine ⟨fun h => ?_, .seeNothing cause⟩
  cases h with
  | seeNothing _ h => exact h
  | seeEnd hend h => exact hend.elim
  | ends hown h =>
    cases h with
    | seeNothing _ h => exact .ends hown h
    | seeEnd hend h => exact hend.elim

/-- Killed and then waited for, a process has been reaped, whether or not it ends by itself. -/
theorem undergoes_kill_iff :
    Undergoes own seen [.kill, .reap] .running t ↔ seen = [] ∧ t = .reaped := by
  constructor
  · intro h
    have hreap : Undergoes own seen [.reap] .ended t := by
      cases h with
      | kill _ h => exact h
      | ends _ h =>
        cases h with
        | kill _ h => exact h
    cases hreap with
    | reap h =>
      cases h
      exact ⟨rfl, rfl⟩
  · rintro ⟨rfl, rfl⟩
    exact .kill (by decide) (.reap (.nothing .reaped))

end Processes

section Watches

/-- What is done before the look of a number, from some look on. -/
def watched (first count : Nat) : List Act :=
  (List.range' first count).flatMap fun k => [.see, .pause (pauseAfter k)]

theorem watched_succ {first count : Nat} :
    watched first (count + 1) = .see :: .pause (pauseAfter first) :: watched (first + 1) count := by
  rw [watched, List.range'_succ, List.flatMap_cons]
  rfl

/-- What is done at the look that decides, and how the attempt ends. -/
inductive Closes : Look → List Act → Except Failure Int → Prop
  | stopped {sighting : Sighting} :
      Closes ⟨true, sighting⟩ [.kill, .reap] (.error .interrupted)
  | exited {code : Int} : Closes ⟨false, .exited code⟩ [.see] (.ok code)
  | killed : Closes ⟨false, .killed⟩ [.see] (.ok 1)
  | unseen {cause : IoProblem} :
      Closes ⟨false, .unseen cause⟩ [.see, .kill, .reap] (.error (.io cause))

def Look.seen (l : Look) : List Sighting :=
  if l.stop then [] else [l.sighting]

def Look.SeesEnd (l : Look) : Prop :=
  ∃ sighting ∈ l.seen, sighting.IsEnd

def Act.pause? : Act → Option Nat
  | .pause ms => some ms
  | _ => none

def Attempt.pauses {π : Type} (a : Attempt π) : List Nat :=
  a.acts.filterMap Act.pause?

variable {looks : Nat → Nat → Look} {n m : Nat} {l : Look} {acts : List Act}
  {ending : Except Failure Int}

theorem closes_of_ends (h : l ≠ .goesOn) :
    ∃ verdict, l.judge.2 = some verdict ∧ Closes l l.judge.1 verdict.status := by
  obtain ⟨stop, sighting⟩ := l
  cases stop with
  | true => exact ⟨_, rfl, .stopped⟩
  | false =>
    cases sighting with
    | running => exact absurd rfl h
    | exited code => exact ⟨_, rfl, .exited⟩
    | killed => exact ⟨_, rfl, .killed⟩
    | unseen cause => exact ⟨_, rfl, .unseen⟩

theorem Closes.pauses (h : Closes l acts ending) : acts.filterMap Act.pause? = [] := by
  cases h <;> rfl

theorem Closes.succeeds_iff (h : Closes l acts ending) :
    ending = .ok 0 ↔ l = ⟨false, .exited 0⟩ := by
  cases h <;> simp

theorem Closes.undergoes_iff {own : Prop} {t : Standing} (h : Closes l acts ending) :
    Undergoes own l.seen acts .running t ↔ t = .reaped ∧ (l.SeesEnd → own) := by
  have hsees {sighting : Sighting} :
      (⟨false, sighting⟩ : Look).SeesEnd ↔ sighting.IsEnd := by simp [Look.SeesEnd, Look.seen]
  cases h with
  | stopped => simp [Look.SeesEnd, Look.seen, undergoes_kill_iff]
  | exited | killed =>
    rw [hsees, Look.seen, if_neg Bool.false_ne_true,
      undergoes_seeEnd_iff (by simp [Sighting.IsEnd]), undergoes_nil_iff]
    simp [Sighting.IsEnd, and_comm]
  | unseen =>
    rw [hsees, Look.seen, if_neg Bool.false_ne_true, undergoes_seeNothing_iff, undergoes_kill_iff]
    simp [Sighting.IsEnd]

/-- While it is watched, the process is seen to run, again and again. -/
theorem undergoes_watched_iff {own : Prop} {seen : List Sighting} {t : Standing} :
    Undergoes own (List.replicate m .running ++ seen) (watched n m ++ acts) .running t ↔
      Undergoes own seen acts .running t := by
  induction m generalizing n with
  | zero => rfl
  | succ m ih =>
    rw [watched_succ, List.replicate_succ, List.cons_append, List.cons_append, List.cons_append,
      undergoes_seeRunning_iff, undergoes_pause_iff, ih]

theorem pauses_watched (first count : Nat) :
    (watched first count).filterMap Act.pause? = (List.range' first count).map pauseAfter := by
  induction count generalizing first with
  | zero => rfl
  | succ count ih =>
    rw [watched_succ, List.range'_succ, List.map_cons, ← ih]
    rfl

theorem pauseAfter_le (n : Nat) : pauseAfter n ≤ 50 := by
  cases n with
  | zero => decide
  | succ n => exact Nat.min_le_right _ _

theorem pauseAfter_mono : Monotone pauseAfter :=
  monotone_nat_of_le_succ fun n =>
    Nat.le_min.2 ⟨Nat.le_mul_of_pos_left _ Nat.two_pos, pauseAfter_le n⟩

theorem watch_of_decides {verdict : Verdict} {fuel : Nat} (hl : Decides looks m l)
    (hj : l.judge.2 = some verdict) (hle : n ≤ m) (hlt : m < n + fuel) :
    watch looks fuel n (timeOf n) (pauseAfter n) =
      some (watched n (m - n) ++ l.judge.1, verdict, timeOf m) := by
  induction fuel generalizing n with
  | zero => omega
  | succ fuel ih =>
    obtain rfl | hbefore := Nat.eq_or_lt_of_le hle
    · rw [← hl.look_eq] at hj
      rw [watch_of_ends hj, hl.look_eq, Nat.sub_self]
      rfl
    · obtain ⟨k, hk⟩ := Nat.exists_eq_add_of_lt hbefore
      have hcount : m - n = k + 1 := by omega
      have hrest : m - (n + 1) = k := by omega
      rw [watch_of_goesOn (hl.before n hbefore), ih hbefore (by omega), hcount, hrest, watched_succ]
      rfl

theorem watch_of_goesOn_all {fuel : Nat} (h : ∀ k < n + fuel, looks k (timeOf k) = .goesOn) :
    watch looks fuel n (timeOf n) (pauseAfter n) = none := by
  induction fuel generalizing n with
  | zero => rfl
  | succ fuel ih =>
    have hrest := @ih (n + 1) fun k hk => h k (by omega)
    rw [watch_of_goesOn (h n (by omega)), hrest]
    rfl

end Watches

section Ends

variable {π : Type}

def seenUpTo (looks : Nat → Nat → Look) (n : Nat) : List Sighting :=
  (List.range (n + 1)).flatMap fun k => (looks k (timeOf k)).seen

/-- An attempt that the look of a number has ended: what was done to its process, how the process stands
then, and the pauses. -/
structure Closed (looks : Nat → Nat → Look) (p : π) (n : Nat) (l : Look) (a : Attempt π) : Prop where
  process_eq : a.process = some p
  closes : ∃ closing, Closes l closing a.ending ∧ a.acts = watched 0 n ++ closing
  succeeds_iff : a.ending = .ok 0 ↔ l = ⟨false, .exited 0⟩
  undergoes_iff : ∀ (own : Prop) (s : Standing),
    Undergoes own (seenUpTo looks n) a.acts .running s ↔ s = .reaped ∧ (l.SeesEnd → own)
  length_pauses : a.pauses.length = n
  pauses_bounded : ∀ ms ∈ a.pauses, 1 ≤ ms ∧ ms ≤ 50
  pauses_sorted : a.pauses.Pairwise (· ≤ ·)
  elapsed_eq : a.elapsed = timeOf n

variable {looks : Nat → Nat → Look} {n : Nat} {l : Look}

theorem seen_of_goesOn (h : ∀ k < n, looks k (timeOf k) = .goesOn) :
    (List.range n).flatMap (fun k => (looks k (timeOf k)).seen) = List.replicate n .running := by
  induction n with
  | zero => rfl
  | succ n ih =>
    rw [List.range_succ, List.flatMap_append, ih fun k hk => h k (by omega), List.flatMap_singleton,
      h n (Nat.lt_succ_self n), List.replicate_succ']
    rfl

theorem seenUpTo_of_decides (hl : Decides looks n l) :
    seenUpTo looks n = List.replicate n .running ++ l.seen := by
  rw [seenUpTo, List.range_succ, List.flatMap_append, seen_of_goesOn hl.before,
    List.flatMap_singleton, hl.look_eq]

theorem closed_of_decides {p : π} {closing : List Act} {ending : Except Failure Int}
    (hl : Decides looks n l) (h : Closes l closing ending) :
    Closed looks p n l ⟨some p, watched 0 n ++ closing, ending, timeOf n⟩ := by
  have hpauses : (Attempt.mk (some p) (watched 0 n ++ closing) ending (timeOf n)).pauses =
      (List.range' 0 n).map pauseAfter := by
    rw [Attempt.pauses, List.filterMap_append, h.pauses, List.append_nil, pauses_watched]
  refine ⟨rfl, ⟨closing, h, rfl⟩, h.succeeds_iff, fun own s => ?_, ?_, ?_, ?_, rfl⟩
  · rw [seenUpTo_of_decides hl, undergoes_watched_iff, h.undergoes_iff]
  · rw [hpauses, List.length_map, List.length_range']
  · rw [hpauses]
    intro ms hms
    obtain ⟨k, -, rfl⟩ := List.mem_map.1 hms
    exact ⟨pauseAfter_pos k, pauseAfter_le k⟩
  · rw [hpauses, List.pairwise_map]
    exact List.pairwise_le_range'.imp fun hle => pauseAfter_mono hle

theorem Decides.unique {n' : Nat} {l' : Look} (hl : Decides looks n l) (hl' : Decides looks n' l') :
    n = n' ∧ l = l' := by
  obtain hlt | rfl | hlt := Nat.lt_trichotomy n n'
  · exact absurd (hl.look_eq.symm.trans (hl'.before n hlt)) hl.ends
  · exact ⟨rfl, hl.look_eq.symm.trans hl'.look_eq⟩
  · exact absurd (hl'.look_eq.symm.trans (hl.before n' hlt)) hl'.ends

theorem exists_decides {m : Nat} (h : ∃ k < m, looks k (timeOf k) ≠ .goesOn) :
    ∃ n < m, ∃ l, Decides looks n l := by
  obtain ⟨hlt, hends⟩ := Nat.find_spec h
  refine ⟨Nat.find h, hlt, _, rfl, hends, fun k hk => ?_⟩
  by_contra hk'
  exact Nat.find_min h hk ⟨hk.trans hlt, hk'⟩

end Ends

section Attempts

variable {π : Type} {program : String} {stopped : Bool} {start : Unit → Except IoProblem π}
  {looks : π → Nat → Nat → Look} {fuel : π → Nat} {p : π}

theorem attempt_of_decides {n : Nat} {l : Look} (hstopped : stopped = false) (hs : start () = .ok p)
    (hl : Decides (looks p) n l) (hlt : n < fuel p) :
    ∃ a, attempt program stopped start looks fuel = some a ∧ Closed (looks p) p n l a := by
  obtain ⟨verdict, hj, hcloses⟩ := closes_of_ends hl.ends
  have hwatch : supervise (looks p) (fuel p) = some (watched 0 n ++ l.judge.1, verdict, timeOf n) :=
    watch_of_decides hl hj (Nat.zero_le n) (by omega)
  refine ⟨⟨some p, _, _, _⟩, ?_, closed_of_decides hl hcloses⟩
  simp [attempt, hstopped, hs, hwatch]

theorem attempt_of_goesOn (hstopped : stopped = false) (hs : start () = .ok p)
    (h : ∀ n < fuel p, looks p n (timeOf n) = .goesOn) :
    attempt program stopped start looks fuel = none := by
  have hwatch : supervise (looks p) (fuel p) = none :=
    watch_of_goesOn_all fun k hk => h k (by omega)
  simp [attempt, hstopped, hs, hwatch]

variable (program stopped start looks fuel)

/-- Nothing is started under a token that has been cancelled. Otherwise a process that was started is
watched up to the first look that finds more than a running process. This look ends the attempt, and
the process has been reaped then. -/
theorem attempt_closed :
    (∀ (m : Machine) (flags : Cancellation.Flags) (token : Cancellation.Token)
        (interrupt : Option Nat) (within : Option Path) (call : Call),
        Cancellation.isRaised (token.flagsAt flags interrupt m.now) m.now token = true →
        m.run flags token within call interrupt = (.error .interrupted, m)) ∧
    (stopped = true →
      attempt program stopped start looks fuel = some ⟨none, [], .error .interrupted, 0⟩) ∧
    ∀ p, stopped = false → start () = .ok p →
      ((∃ n < fuel p, ∃ l, Decides (looks p) n l) →
        (attempt program stopped start looks fuel).isSome) ∧
      ∀ a, attempt program stopped start looks fuel = some a →
        ∃ n < fuel p, ∃ l, Decides (looks p) n l ∧ Closed (looks p) p n l a := by
  refine ⟨fun m flags token interrupt within call hraised => ?_, fun hstopped => if_pos hstopped,
    fun p hstopped hs => ⟨fun ⟨n, hlt, l, hl⟩ => ?_, fun a ha => ?_⟩⟩
  · simp [Machine.run, Machine.run?, attempt, hraised, Except.map]
  · obtain ⟨a, ha, -⟩ : ∃ a, attempt program stopped start looks fuel = some a ∧ _ :=
      attempt_of_decides hstopped hs hl hlt
    exact Option.isSome_of_eq_some ha
  · by_cases hall : ∀ n < fuel p, looks p n (timeOf n) = .goesOn
    · rw [attempt_of_goesOn hstopped hs hall] at ha
      cases ha
    · push Not at hall
      obtain ⟨n, hlt, l, hl⟩ := exists_decides hall
      obtain ⟨a', ha', hclosed⟩ := attempt_of_decides hstopped hs hl hlt
      obtain rfl := Option.some.inj (ha'.symm.trans ha)
      exact ⟨n, hlt, l, hl, hclosed⟩

/-- At the third look the process has ended, and at the same time there is a stop. -/
def endsUnderStop (n _ : Nat) : Look :=
  if n < 2 then .goesOn else ⟨true, .exited 0⟩

theorem attempt_endsUnderStop :
    (∃ a, attempt "php" false (fun _ => .ok ()) (fun _ => endsUnderStop) (fun _ => 5) = some a ∧
      a.ending = .error .interrupted ∧
      a.acts = [.see, .pause 1, .see, .pause 2, .kill, .reap] ∧
      ∀ (own : Prop) (s : Standing),
        Undergoes own [.running, .running] a.acts .running s ↔ s = .reaped) ∧
    attempt "php" true (fun _ => .ok ()) (fun _ => endsUnderStop) (fun _ => 5) =
      some ⟨none, [], .error .interrupted, 0⟩ ∧
    (Machine.fresh []).run [0] ⟨0, none⟩ none ⟨"php", ["-l"]⟩ =
      (.error .interrupted, Machine.fresh []) := by
  have hdecides : Decides endsUnderStop 2 ⟨true, .exited 0⟩ :=
    ⟨rfl, by decide, fun k hk => if_pos hk⟩
  have hclosed (stopped : Bool) := attempt_closed "php" stopped (fun _ => .ok ())
    (fun _ => endsUnderStop) (fun _ => 5)
  refine ⟨?_, (hclosed true).2.1 rfl,
    (hclosed true).1 (Machine.fresh []) [0] ⟨0, none⟩ none none _ rfl⟩
  obtain ⟨hreturns, hends⟩ := (hclosed false).2.2 () rfl rfl
  obtain ⟨⟨process, acts, ending, elapsed⟩, ha⟩ :=
    Option.isSome_iff_exists.1 (hreturns ⟨2, by decide, _, hdecides⟩)
  obtain ⟨n, -, l, hl, h⟩ := hends _ ha
  obtain ⟨rfl, rfl⟩ := hdecides.unique hl
  obtain ⟨closing, hcloses, hacts⟩ := h.closes
  cases hcloses
  have hsees : ¬(⟨true, .exited 0⟩ : Look).SeesEnd := by simp [Look.SeesEnd, Look.seen]
  refine ⟨_, ha, rfl, hacts, fun own s => ?_⟩
  exact (h.undergoes_iff own s).trans (and_iff_left fun hend => absurd hend hsees)

end Attempts

end SyntaxSweep.Supervision
