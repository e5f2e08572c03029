import SyntaxSweep.Check.Scripted
import SyntaxSweep.Proofs.Check.Interleaving
import SyntaxSweep.Proofs.Check.Recording

namespace SyntaxSweep

variable {σ τ α β ε : Type}

section Answers

variable {check : σ → α → Except ε β × σ} {g : α → Except ε β} {files : List α} {state last : σ}
  {calls : List ((Nat × α) × Except ε β)} {result : Except ε (List β)}

theorem Gathering.answer_eq (h : Gathering check files state calls result last)
    (hg : ∀ state a, (check state a).1 = g a) {c : (Nat × α) × Except ε β} (hc : c ∈ calls) :
    c.2 = g c.1.2 :=
  h.trace.answer_eq hg (List.mem_map_of_mem hc)

theorem Gathering.mem_files (h : Gathering check files state calls result last)
    {c : (Nat × α) × Except ε β} (hc : c ∈ calls) : c.1.2 ∈ files := by
  obtain ⟨skipped, hperm, -⟩ := h.left_out
  have hmem : c.1 ∈ Schedule.numberedFiles files :=
    hperm.mem_iff.1 (List.mem_append_left _ (List.mem_map_of_mem hc))
  rw [← Schedule.map_snd_numberedFiles files]
  exact List.mem_map_of_mem hmem

theorem Gathering.of_all_ok (h : Gathering check files state calls result last)
    (hg : ∀ state a, (check state a).1 = g a) (hall : ∀ a ∈ files, ∃ b, g a = .ok b) :
    (calls.map (·.1)).Perm (Schedule.numberedFiles files) ∧
      ∃ outcomes, outcomes.map Except.ok = files.map g ∧ result = .ok outcomes := by
  rcases h.result_eq with ⟨x, e, hx, -⟩ | ⟨made, hmade, hcm, rfl⟩
  · obtain ⟨b, hb⟩ := hall x.2 (h.mem_files hx)
    have he : .error e = g x.2 := h.answer_eq hg hx
    rw [hb] at he
    cases he
  · constructor
    · rw [← hmade]
      have hmap := hcm.map (·.1)
      rw [succeeded, List.map_map] at hmap
      exact hmap
    · refine ⟨made.map (·.2), ?_, rfl⟩
      rw [← Schedule.map_numberedFiles g, ← hmade, List.map_map, List.map_map]
      apply List.map_congr_left
      intro d hd
      have hc : (d.1, .ok d.2) ∈ calls := hcm.mem_iff.2 (List.mem_map_of_mem hd)
      exact h.answer_eq hg hc

theorem Gathering.of_error (h : Gathering check files state calls result last)
    (hg : ∀ state a, (check state a).1 = g a) {a : α} {e : ε} (ha : a ∈ files)
    (he : g a = .error e) :
    ∃ x e, (x, .error e) ∈ calls ∧ g x.2 = .error e ∧ result = .error e := by
  rcases h.result_eq with ⟨x, e, hx, hresult⟩ | ⟨made, hmade, hcm, -⟩
  · exact ⟨x, e, hx, (h.answer_eq hg hx).symm, hresult⟩
  · rw [← Schedule.map_snd_numberedFiles files, ← hmade, List.map_map] at ha
    obtain ⟨d, hd, rfl⟩ := List.mem_map.1 ha
    have hc : (d.1, .ok d.2) ∈ calls := hcm.mem_iff.2 (List.mem_map_of_mem hd)
    have hok : .ok d.2 = g d.1.2 := h.answer_eq hg hc
    cases hok.trans he

end Answers

section Sequence

variable {check : σ → Path → Except Failure Outcome × σ} {g : Path → Except Failure Outcome}
  {files : List Path}

theorem checkEach_of_all_ok (hg : ∀ state p, (check state p).1 = g p)
    (hall : ∀ p ∈ files, ∃ o, g p = .ok o) (state : σ) :
    ∃ outcomes, outcomes.map Except.ok = files.map g ∧
      (checkEach check files state).1 = (outcomes, none) := by
  obtain ⟨made, houts, ⟨hs, rfl, htrace⟩ | ⟨e, p, after, hs, rfl, htrace⟩⟩ :=
    checkEach_trace check files state
  · refine ⟨made.map (·.2), ?_, Prod.ext houts hs⟩
    rw [List.map_map, List.map_map]
    apply List.map_congr_left
    intro d hd
    exact htrace.answer_eq hg (List.mem_map_of_mem hd)
  · obtain ⟨o, ho⟩ := hall p (by simp)
    have he : .error e = g p := htrace.answer_eq hg (c := (p, .error e)) (by simp)
    rw [ho] at he
    cases he

theorem checkEach_of_error (hg : ∀ state p, (check state p).1 = g p) {p : Path} {e : Failure}
    (hp : p ∈ files) (he : g p = .error e) (state : σ) :
    ∃ outcomes, ∃ p ∈ files, ∃ e, g p = .error e ∧
      (checkEach check files state).1 = (outcomes, some e) := by
  obtain ⟨made, houts, ⟨hs, rfl, htrace⟩ | ⟨e, p, after, hs, rfl, htrace⟩⟩ :=
    checkEach_trace check files state
  · obtain ⟨d, hd, rfl⟩ := List.mem_map.1 hp
    have hok : .ok d.2 = g d.1 := htrace.answer_eq hg (List.mem_map_of_mem hd)
    rw [← hok] at he
    cases he
  · have he : .error e = g p := htrace.answer_eq hg (c := (p, .error e)) (by simp)
    exact ⟨made.map (·.2), p, by simp, e, he.symm, Prod.ext houts hs⟩

end Sequence

inductive FailureKind where
  | settings
  | document
  | checkerNotStarted
  | missingRoot
  | traversal
  | fileList
  | interrupted
  | io
  deriving DecidableEq, Repr

def Failure.kind : Failure → FailureKind
  | .settings _ => .settings
  | .document _ _ => .document
  | .checkerNotStarted _ _ => .checkerNotStarted
  | .missingRoot _ => .missingRoot
  | .traversal _ _ _ => .traversal
  | .fileList _ => .fileList
  | .interrupted => .interrupted
  | .io _ => .io

/-- The status of a run, or the kind of failure that it ends with. -/
def verdict : Except Failure Result → Except FailureKind Status
  | .ok r => .ok r.status
  | .error e => .error e.kind

theorem verdict_conclude (files : Nat) (outcomes : List Outcome) (ms : Nat) (e : Failure) :
    verdict (conclude files outcomes ms (some e)) =
      if e.kind = .interrupted then .ok .aborted else .error e.kind := by
  cases e <;> rfl

section Runs

variable {s : Settings} {checker : Checker σ} {files : List Path}

def judged (s : Settings) (answer : Call → Except Failure Answer) (p : Path) :
    Except Failure Outcome :=
  (answer (s.callFor p)).map (Outcome.ofAnswer p)

theorem checkFile_judged {answer : Call → Except Failure Answer}
    (hanswer : ∀ state call, (checker state call).1 = answer call) (state : σ) (p : Path) :
    (checkFile s checker state p).1 = judged s answer p := by
  rw [judged, ← hanswer state]
  rfl

theorem judged_ok {answer : Call → Except Failure Answer} {p : Path}
    (h : ∃ a, answer (s.callFor p) = .ok a) : ∃ o, judged s answer p = .ok o := by
  obtain ⟨a, ha⟩ := h
  exact ⟨Outcome.ofAnswer p a, by rw [judged, ha]; rfl⟩

theorem judged_error {answer : Call → Except Failure Answer} {p : Path} {e : Failure} :
    judged s answer p = .error e ↔ answer (s.callFor p) = .error e := by
  rw [judged]
  cases answer (s.callFor p) <;> simp [Except.map]

theorem paths_of_judged {answer : Call → Except Failure Answer} {outcomes : List Outcome}
    (h : outcomes.map Except.ok = files.map (judged s answer)) :
    outcomes.map (·.path) = files := by
  induction files generalizing outcomes with
  | nil =>
    rw [List.map_nil, List.map_eq_nil_iff] at h
    rw [h, List.map_nil]
  | cons p rest ih =>
    cases outcomes with
    | nil => cases h
    | cons o others =>
      obtain ⟨ho, hothers⟩ := List.cons.inj h
      have hpath : o.path = p := by
        unfold judged at ho
        cases ha : answer (s.callFor p) with
        | error e => rw [ha] at ho; cases ho
        | ok a =>
          rw [ha] at ho
          cases ho
          exact path_ofAnswer p a
      rw [List.map_cons, hpath, ih hothers]

/-- What is made of a run with several workers, besides a run with one. They may take different times. -/
structure Agreement (s : Settings) (answer : Call → Except Failure Answer) (files : List Path)
    (calls : List Call) (result alone : Except Failure Result) : Prop where
  /-- With an outcome for every file, each file is checked once, and the results are the same but for
  the time. -/
  all_ok : (∀ p ∈ files, ∃ a, answer (s.callFor p) = .ok a) →
    calls.Perm (files.map s.callFor) ∧
      ∃ r ms, result = .ok r ∧ alone = .ok { r with elapsedMs := ms } ∧
        r.outcomes.map (·.path) = files
  some_error : (∃ p ∈ files, ∃ e, answer (s.callFor p) = .error e) →
    ∃ p ∈ files, ∃ e, answer (s.callFor p) = .error e ∧ s.callFor p ∈ calls ∧
      ((e = .interrupted ∧ ∃ ms, result = .ok ⟨.aborted, "", files.length, [], ms⟩) ∨
        e ≠ .interrupted ∧ result = .error e)
  /-- If all failures are of one kind, this kind decides. -/
  one_kind (kind : FailureKind) : (∃ p ∈ files, ∃ e, answer (s.callFor p) = .error e) →
    (∀ p ∈ files, ∀ e, answer (s.callFor p) = .error e → e.kind = kind) →
    verdict result = verdict alone ∧
      verdict result = if kind = .interrupted then .ok .aborted else .error kind

variable {answer : Call → Except Failure Answer} {calls : List ((Nat × Path) × Except Failure Outcome)}
  {result : Except Failure (List Outcome)} {state last : σ}

theorem Gathering.agreement (h : Gathering (checkFile s checker) files state calls result last)
    (hanswer : ∀ state call, (checker state call).1 = answer call) {other : Checker τ}
    (hother : ∀ state call, (other state call).1 = answer call) (one : τ) (ms msOne : Nat) :
    Agreement s answer files (calls.map fun c => s.callFor c.1.2) (settled files.length ms result)
      (conclude files.length (checkEach (checkFile s other) files one).1.1 msOne
        (checkEach (checkFile s other) files one).1.2) := by
  have hg := checkFile_judged (s := s) hanswer
  have hgo := checkFile_judged (s := s) hother
  refine ⟨fun hall => ?_, ?_, ?_⟩
  · have hok : ∀ p ∈ files, ∃ o, judged s answer p = .ok o := fun p hp => judged_ok (hall p hp)
    obtain ⟨hperm, outcomes, houts, rfl⟩ := h.of_all_ok hg hok
    obtain ⟨outcomes', houts', heach⟩ := checkEach_of_all_ok hgo hok one
    -- Both lists of outcomes are what the files always come to.
    have hsame : outcomes = outcomes' :=
      List.map_injective_iff.2 (fun _ _ => Except.ok.inj) (houts.trans houts'.symm)
    constructor
    · have hmap := hperm.map fun x => s.callFor x.2
      rw [List.map_map, Schedule.map_numberedFiles] at hmap
      exact hmap
    · rw [heach, ← hsame]
      exact ⟨_, msOne, rfl, rfl, paths_of_judged houts⟩
  · rintro ⟨p, hp, e, he⟩
    obtain ⟨x, e, hx, he, rfl⟩ := h.of_error hg hp (judged_error.2 he)
    refine ⟨x.2, h.mem_files hx, e, judged_error.1 he, List.mem_map.2 ⟨_, hx, rfl⟩, ?_⟩
    obtain ⟨hi, haborted⟩ | hfail := conclude_stopped files.length [] ms e
    · exact .inl ⟨hi, ms, haborted⟩
    · exact .inr hfail
  · rintro kind ⟨p, hp, e, he⟩ hkind
    obtain ⟨x, e₁, hx, he₁, rfl⟩ := h.of_error hg hp (judged_error.2 he)
    obtain ⟨outcomes, q, hq, e₂, he₂, heach⟩ := checkEach_of_error hgo hp (judged_error.2 he) one
    have hk₁ := hkind x.2 (h.mem_files hx) e₁ (judged_error.1 he₁)
    have hk₂ := hkind q hq e₂ (judged_error.1 he₂)
    rw [heach, settled, verdict_conclude, verdict_conclude, hk₁, hk₂]
    exact ⟨rfl, rfl⟩

/-- Several workers, whatever their order. What the workers do side by side is what some schedule does,
with the same calls, the same result and the same state in the end; and what a schedule comes to agrees
with what one worker comes to. -/
theorem check_of_workers (hjobs : 1 < s.jobs) (hfiles : files ≠ [])
    (hanswer : ∀ state call, (checker state call).1 = answer call) (state : σ)
    (clock : σ → σ → Nat) :
    (∀ pool result, Pool.Run s.jobs (checkFile s checker) (.start files state) pool →
      pool.Ends result → ∃ t : Schedule,
        s.callsMade t checker files state = pool.calls.map (fun c => s.callFor c.1.2) ∧
        s.check t checker files state clock =
          (settled files.length (clock state pool.state) result, pool.state)) ∧
    ∀ (t alone : Schedule) (one : σ), Agreement s answer files (s.callsMade t checker files state)
      (s.check t checker files state clock).1
      (({ s with jobs := 1 } : Settings).check alone checker files one clock).1 := by
  have hext := s.checkFile_recorded checker
  constructor
  · intro pool result hrun hend
    have hgather := ((Pool.Reached.start _ files state).run hrun).gathering hend
    obtain ⟨t, ht⟩ := (hgather.record []).exists_schedule
    obtain ⟨hresult, hlast⟩ := hext.checkAll t files (state, [])
    rw [ht] at hresult hlast
    refine ⟨t, ?_, ?_⟩
    · rw [Settings.callsMade, check_together hjobs hfiles, ht, List.nil_append]
    · rw [check_together hjobs hfiles, ← hresult, ← hlast]
  · intro t alone one
    obtain ⟨calls, hgather⟩ := t.gathering (checkFile s checker.recorded) files (state, [])
    have hcalls : s.callsMade t checker files state = calls.map fun c => s.callFor c.1.2 := by
      rw [Settings.callsMade, check_together hjobs hfiles, hgather.trace.recorded, List.map_map]
      rfl
    have hresult := (s.check_recorded t checker files (state, []) clock).1
    rw [check_together hjobs hfiles] at hresult
    rw [hcalls, ← hresult, check_each (Nat.lt_irrefl 1) hfiles]
    exact hgather.agreement (fun state call => hanswer state.1 call) hanswer one _ _

end Runs

def twoWorkers : Settings :=
  ⟨[], ["p"], [.ofText "."], "c", ["-l"], 2, none⟩

/-- Two of the files cannot be read, for different reasons. -/
def breaksTwice : Script :=
  ⟨[⟨"b", .broken (.system 5)⟩, ⟨"c", .broken .notUtf8⟩], none⟩

theorem check_twoWorkers : 1 < twoWorkers.jobs ∧
    (∀ calls call, (breaksTwice.checker calls call).1 = breaksTwice.reply call) ∧
    ∀ t : Schedule, verdict
      (twoWorkers.check t breaksTwice.checker [.ofText "a", .ofText "b", .ofText "c"] []
        fun _ calls => calls.length).1 = .error .io := by
  have hanswer (calls : List Call) (call : Call) :
      (breaksTwice.checker calls call).1 = breaksTwice.reply call := rfl
  have hjobs : 1 < twoWorkers.jobs := by decide
  have hfiles : [Path.ofText "a", .ofText "b", .ofText "c"] ≠ [] := List.cons_ne_nil _ _
  refine ⟨hjobs, hanswer, fun t => ?_⟩
  have hagree := (check_of_workers hjobs hfiles hanswer [] fun _ calls => calls.length).2 t t []
  refine (hagree.one_kind .io ⟨.ofText "b", by simp, _, rfl⟩ ?_).2
  intro p hp e he
  rcases List.mem_cons.1 hp with rfl | hp
  · cases he
  rcases List.mem_cons.1 hp with rfl | hp
  · cases he
    rfl
  · rw [List.mem_singleton.1 hp] at he
    cases he
    rfl

end SyntaxSweep
