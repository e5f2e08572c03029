import SyntaxSweep.Program
import SyntaxSweep.Check.Scripted
import SyntaxSweep.Proofs.Check.Recording

namespace SyntaxSweep

variable {σ : Type}

theorem diagnosticText_ne_empty (path : Path) (status : Int) (output : String) :
    diagnosticText path status output ≠ "" := by
  intro h
  simp only [diagnosticText] at h
  split at h
  · simp only [String.append_eq_empty_iff] at h
    exact absurd h.1.2 (by decide)
  · simp only [String.append_eq_empty_iff] at h
    exact absurd h.1.2 (by decide)

theorem succeeded_iff (p : Path) (a : Answer) :
    (Outcome.ofAnswer p a).succeeded = true ↔ (Outcome.ofAnswer p a).diagnostic = "" := by
  unfold Outcome.ofAnswer
  split
  · simp
  · simp [diagnosticText_ne_empty]

theorem line_eq_none (p : Path) (a : Answer) (h : (Outcome.ofAnswer p a).succeeded = true) :
    (Outcome.ofAnswer p a).line = none := by
  unfold Outcome.ofAnswer at h ⊢
  split
  · rfl
  · next hs => rw [if_neg hs] at h; cases h

section Report

theorem infix_intercalate {text : String} {texts : List String} (sep : String)
    (h : text ∈ texts) : text.toList <:+: (sep.intercalate texts).toList := by
  induction texts with
  | nil => cases h
  | cons first rest ih =>
    by_cases hrest : rest = []
    · subst hrest
      obtain rfl := List.mem_singleton.1 h
      simp only [String.intercalate_singleton, List.infix_rfl]
    · rw [String.intercalate_cons_of_ne_nil hrest, String.toList_append, String.toList_append,
        List.append_assoc]
      rcases List.mem_cons.1 h with rfl | h
      · exact (List.prefix_append _ _).isInfix
      · exact (ih h).trans ((List.suffix_append _ _).trans (List.suffix_append _ _)).isInfix

theorem mem_failures {outcomes : List Outcome} {o : Outcome} :
    o ∈ failures outcomes ↔ o ∈ outcomes ∧ o.succeeded = false := by
  simp [failures]

theorem failures_eq_nil {outcomes : List Outcome} :
    failures outcomes = [] ↔ ∀ o ∈ outcomes, o.succeeded = true := by
  simp [failures]

theorem report_holds_failures {outcomes : List Outcome} {o : Outcome} (ho : o ∈ outcomes)
    (hfail : o.succeeded = false) : o.diagnostic.toList <:+: (reportOf outcomes).toList :=
  infix_intercalate "\n" (List.mem_map_of_mem (mem_failures.2 ⟨ho, hfail⟩))

theorem reportOf_eq_empty {outcomes : List Outcome}
    (h : ∀ o ∈ outcomes, o.succeeded = true ↔ o.diagnostic = "") :
    reportOf outcomes = "" ↔ failures outcomes = [] := by
  constructor
  · intro hempty
    rw [List.eq_nil_iff_forall_not_mem]
    intro o ho
    obtain ⟨hmem, hfail⟩ := mem_failures.1 ho
    have hin := report_holds_failures hmem hfail
    rw [hempty] at hin
    have hdiag : o.diagnostic = "" := String.toList_inj.1 (List.infix_nil.1 hin)
    rw [(h o hmem).2 hdiag] at hfail
    cases hfail
  · intro hnone
    rw [reportOf, hnone]
    rfl

end Report

/-- How a run that has a result may have gone, with the selected files. -/
inductive Course (files : List Path) : Result → Prop
  | skipped {ms : Nat} (hfiles : files = []) : Course files (.ofOutcomes .skipped 0 [] ms)
  | ended {outcomes : List Outcome} {ms : Nat} (hmade : ∀ o ∈ outcomes, ∃ p a, o = .ofAnswer p a)
      (hne : files ≠ []) (hfiles : outcomes.map (·.path) = files) :
      Course files (.ofOutcomes (finalStatus outcomes) files.length outcomes ms)
  | aborted {outcomes : List Outcome} {ms : Nat} {after : List Path}
      (hmade : ∀ o ∈ outcomes, ∃ p a, o = .ofAnswer p a) (hafter : after ≠ [])
      (hfiles : outcomes.map (·.path) ++ after = files) :
      Course files (.ofOutcomes .aborted files.length outcomes ms)

section Courses

variable {s : Settings} {checker : Checker σ} {files : List Path} {state last : σ} {r : Result}

theorem Trace.made {made : List (Path × Outcome)}
    {calls : List (Path × Except Failure Outcome)} (h : Trace (checkFile s checker) state calls last)
    (hmade : ∀ d ∈ made, (d.1, .ok d.2) ∈ calls) :
    (∀ o ∈ made.map (·.2), ∃ p a, o = .ofAnswer p a) ∧
      (made.map (·.2)).map (·.path) = made.map (·.1) := by
  have hanswer (d : Path × Outcome) (hd : d ∈ made) : ∃ a, d.2 = .ofAnswer d.1 a := by
    obtain ⟨before, hb⟩ := h.answered (hmade d hd)
    exact checkFile_ok hb.symm
  constructor
  · intro o ho
    obtain ⟨d, hd, rfl⟩ := List.mem_map.1 ho
    exact ⟨d.1, hanswer d hd⟩
  · rw [List.map_map]
    apply List.map_congr_left
    intro d hd
    obtain ⟨a, ha⟩ := hanswer d hd
    exact (congrArg Outcome.path ha).trans (path_ofAnswer d.1 a)

/-- The same of several workers, whose outcomes are put back in the order of the files. -/
theorem Gathering.made {calls : List ((Nat × Path) × Except Failure Outcome)}
    {result : Except Failure (List Outcome)} {made : List ((Nat × Path) × Outcome)}
    (h : Gathering (checkFile s checker) files state calls result last)
    (hnumbered : made.map (·.1) = Schedule.numberedFiles files) (hcm : calls.Perm (succeeded made)) :
    (∀ o ∈ made.map (·.2), ∃ p a, o = .ofAnswer p a) ∧
      (made.map (·.2)).map (·.path) = files := by
  have hcalls : ∀ d ∈ Schedule.dropNumbers made, (d.1, .ok d.2) ∈ calls.map Schedule.unnumbered := by
    intro d hd
    exact (Schedule.unnumbered_perm hcm).mem_iff.2 (List.mem_map_of_mem hd)
  obtain ⟨hmade, hpaths⟩ := h.trace.made hcalls
  rw [Schedule.map_snd_dropNumbers] at hmade hpaths
  exact ⟨hmade, hpaths.trans (Schedule.map_fst_dropNumbers hnumbered)⟩

theorem course_of_conclude {outcomes : List Outcome} {ms : Nat} {e : Failure} {after : List Path}
    (hmade : ∀ o ∈ outcomes, ∃ p a, o = .ofAnswer p a) (hafter : after ≠ [])
    (hfiles : outcomes.map (·.path) ++ after = files)
    (h : conclude files.length outcomes ms (some e) = .ok r) : Course files r := by
  cases e with
  | interrupted =>
    cases h
    exact .aborted hmade hafter hfiles
  | _ => cases h

theorem course_of_check {t : Schedule} {clock : σ → σ → Nat}
    (h : (s.check t checker files state clock).1 = .ok r) : Course files r := by
  by_cases hfiles : files = []
  · rw [Settings.check, if_pos hfiles] at h
    cases h
    exact .skipped hfiles
  by_cases hjobs : 1 < s.jobs
  · rw [check_together hjobs hfiles] at h
    obtain ⟨calls, hgather⟩ := t.gathering (checkFile s checker) files state
    rcases hgather.result_eq with ⟨x, e, -, hresult⟩ | ⟨made, hnumbered, hcm, hresult⟩
    · rw [hresult] at h
      exact @course_of_conclude _ _ [] _ _ _ (fun o ho => absurd ho List.not_mem_nil) hfiles rfl h
    · rw [hresult] at h
      cases h
      obtain ⟨hmade, hpaths⟩ := hgather.made hnumbered hcm
      exact .ended hmade hfiles hpaths
  · rw [check_each hjobs hfiles] at h
    obtain ⟨made, houts, ⟨hs, hall, htrace⟩ | ⟨e, p, after, hs, hall, htrace⟩⟩ :=
      checkEach_trace (checkFile s checker) files state
    · obtain ⟨hmade, hpaths⟩ := htrace.made fun d hd => List.mem_map_of_mem hd
      rw [houts, hs] at h
      cases h
      exact .ended hmade hfiles (hpaths.trans hall.symm)
    · obtain ⟨hmade, hpaths⟩ := htrace.made fun d hd =>
        List.mem_append_left _ (List.mem_map_of_mem hd)
      rw [houts, hs] at h
      refine course_of_conclude hmade (List.cons_ne_nil p after) ?_ h
      rw [hpaths, hall]

end Courses

structure Result.Readable (r : Result) : Prop where
  diagnostic : ∀ o ∈ r.outcomes, o.succeeded = true ↔ o.diagnostic = ""
  line : ∀ o ∈ r.outcomes, o.succeeded = true → o.line = none
  report_eq : r.report =
    "\n".intercalate ((r.outcomes.filter (!·.succeeded)).map (·.diagnostic))
  report_empty : r.report = "" ↔ ∀ o ∈ r.outcomes, o.succeeded = true
  report_holds : ∀ o ∈ r.outcomes, o.succeeded = false →
    o.diagnostic.toList <:+: r.report.toList

/-- What a result says of the selected files. -/
structure Result.Consistent (r : Result) (files : List Path) : Prop extends r.Readable where
  files_eq : r.files = files.length
  skipped_iff : r.status = .skipped ↔ files = []
  of_skipped : r.status = .skipped → r.outcomes = [] ∧ r.report = ""
  passed_iff : r.status = .passed ↔
    files ≠ [] ∧ r.outcomes.map (·.path) = files ∧ ∀ o ∈ r.outcomes, o.succeeded = true
  failed_iff : r.status = .failed ↔
    r.outcomes.map (·.path) = files ∧ ∃ o ∈ r.outcomes, o.succeeded = false
  aborted_iff : r.status = .aborted ↔
    r.outcomes.map (·.path) <+: files ∧ r.outcomes.length < r.files
  /-- The exit code tells whether there is an outcome at every place, for the file at this place, and
  all is well with it. -/
  exit_zero : r.status.exitCode = 0 ↔ ∀ (i : Nat) (p : Path), files[i]? = some p →
    ∃ o : Outcome, r.outcomes[i]? = some o ∧ o.path = p ∧ o.succeeded = true

section Results

variable {files : List Path} {outcomes : List Outcome} {ms : Nat}

theorem readable_ofOutcomes (status : Status) (n ms : Nat)
    (hmade : ∀ o ∈ outcomes, ∃ p a, o = Outcome.ofAnswer p a) :
    (Result.ofOutcomes status n outcomes ms).Readable := by
  have hdiag : ∀ o ∈ outcomes, o.succeeded = true ↔ o.diagnostic = "" := by
    intro o ho
    obtain ⟨p, a, rfl⟩ := hmade o ho
    exact succeeded_iff p a
  refine ⟨hdiag, ?_, rfl, (reportOf_eq_empty hdiag).trans failures_eq_nil, ?_⟩
  · intro o ho
    obtain ⟨p, a, rfl⟩ := hmade o ho
    exact line_eq_none p a
  · intro o ho hfail
    exact report_holds_failures ho hfail

/-- There is an outcome that is well at every place just if the outcomes are those of all files and all
are well. -/
theorem all_well_iff (hfiles : outcomes.map (·.path) <+: files) :
    (∀ (i : Nat) (p : Path), files[i]? = some p →
        ∃ o : Outcome, outcomes[i]? = some o ∧ o.path = p ∧ o.succeeded = true) ↔
      outcomes.map (·.path) = files ∧ ∀ o ∈ outcomes, o.succeeded = true := by
  obtain ⟨after, rfl⟩ := hfiles
  constructor
  · intro hall
    -- The first file without an outcome would be a place where none is.
    have hafter : after = [] := by
      cases after with
      | nil => rfl
      | cons p rest =>
        obtain ⟨o, ho, -⟩ := hall outcomes.length p (by simp)
        rw [List.getElem?_eq_none (Nat.le_refl _)] at ho
        cases ho
    refine ⟨by rw [hafter, List.append_nil], fun o ho => ?_⟩
    obtain ⟨i, hi⟩ := List.mem_iff_getElem?.1 ho
    obtain ⟨o', ho', -, hwell⟩ := hall i o.path (by simp [hafter, hi])
    cases hi.symm.trans ho'
    exact hwell
  · rintro ⟨hfiles, hwell⟩ i p hp
    rw [← hfiles, List.getElem?_map] at hp
    obtain ⟨o, ho, rfl⟩ := Option.map_eq_some_iff.1 hp
    exact ⟨o, ho, rfl, hwell o (List.mem_of_getElem? ho)⟩

theorem finalStatus_cases (outcomes : List Outcome) :
    (finalStatus outcomes = .passed ∧ ∀ o ∈ outcomes, o.succeeded = true) ∨
      finalStatus outcomes = .failed ∧ ∃ o ∈ outcomes, o.succeeded = false := by
  unfold finalStatus
  split
  · next hnone => exact .inl ⟨rfl, failures_eq_nil.1 hnone⟩
  · next hsome =>
    obtain ⟨o, ho⟩ := List.exists_mem_of_ne_nil _ hsome
    exact .inr ⟨rfl, o, mem_failures.1 ho⟩

theorem not_well_of_failure {o : Outcome} (ho : o ∈ outcomes) (hfail : o.succeeded = false) :
    ¬∀ o ∈ outcomes, o.succeeded = true := by
  intro hwell
  rw [hwell o ho] at hfail
  cases hfail

theorem not_shorter (hfiles : outcomes.map (·.path) = files) :
    ¬outcomes.length < files.length := by
  rw [← hfiles, List.length_map]
  exact Nat.lt_irrefl _

theorem not_all_of_rest {after : List Path} (hafter : after ≠ [])
    (hfiles : outcomes.map (·.path) ++ after = files) : outcomes.map (·.path) ≠ files := by
  intro hall
  rw [← hall, List.append_right_eq_self] at hfiles
  exact hafter hfiles

theorem passed_consistent (hmade : ∀ o ∈ outcomes, ∃ p a, o = Outcome.ofAnswer p a)
    (hne : files ≠ []) (hfiles : outcomes.map (·.path) = files)
    (hwell : ∀ o ∈ outcomes, o.succeeded = true) :
    (Result.ofOutcomes .passed files.length outcomes ms).Consistent files where
  toReadable := readable_ofOutcomes _ _ _ hmade
  files_eq := rfl
  skipped_iff := ⟨nofun, fun h => absurd h hne⟩
  of_skipped := nofun
  passed_iff := ⟨fun _ => ⟨hne, hfiles, hwell⟩, fun _ => rfl⟩
  failed_iff := ⟨nofun, fun ⟨_, _, ho, hfail⟩ => absurd hwell (not_well_of_failure ho hfail)⟩
  aborted_iff := ⟨nofun, fun ⟨_, hlt⟩ => absurd hlt (not_shorter hfiles)⟩
  exit_zero := by
    have hall := all_well_iff ⟨[], (List.append_nil _).trans hfiles⟩
    exact ⟨fun _ => hall.2 ⟨hfiles, hwell⟩, fun _ => rfl⟩

theorem failed_consistent (hmade : ∀ o ∈ outcomes, ∃ p a, o = Outcome.ofAnswer p a)
    (hne : files ≠ []) (hfiles : outcomes.map (·.path) = files)
    {o : Outcome} (ho : o ∈ outcomes) (hfail : o.succeeded = false) :
    (Result.ofOutcomes .failed files.length outcomes ms).Consistent files where
  toReadable := readable_ofOutcomes _ _ _ hmade
  files_eq := rfl
  skipped_iff := ⟨nofun, fun h => absurd h hne⟩
  of_skipped := nofun
  passed_iff := ⟨nofun, fun ⟨_, _, hwell⟩ => absurd hwell (not_well_of_failure ho hfail)⟩
  failed_iff := ⟨fun _ => ⟨hfiles, o, ho, hfail⟩, fun _ => rfl⟩
  aborted_iff := ⟨nofun, fun ⟨_, hlt⟩ => absurd hlt (not_shorter hfiles)⟩
  exit_zero := by
    have hall := all_well_iff ⟨[], (List.append_nil _).trans hfiles⟩
    exact ⟨nofun, fun h => absurd (hall.1 h).2 (not_well_of_failure ho hfail)⟩

theorem aborted_consistent {after : List Path}
    (hmade : ∀ o ∈ outcomes, ∃ p a, o = Outcome.ofAnswer p a) (hafter : after ≠ [])
    (hfiles : outcomes.map (·.path) ++ after = files) :
    (Result.ofOutcomes .aborted files.length outcomes ms).Consistent files where
  toReadable := readable_ofOutcomes _ _ _ hmade
  files_eq := rfl
  skipped_iff := by
    refine ⟨nofun, ?_⟩
    rintro rfl
    exact absurd (List.append_eq_nil_iff.1 hfiles).2 hafter
  of_skipped := nofun
  passed_iff := ⟨nofun, fun ⟨_, hall, _⟩ => absurd hall (not_all_of_rest hafter hfiles)⟩
  failed_iff := ⟨nofun, fun ⟨hall, _⟩ => absurd hall (not_all_of_rest hafter hfiles)⟩
  aborted_iff := by
    refine ⟨fun _ => ⟨⟨after, hfiles⟩, ?_⟩, fun _ => rfl⟩
    have hlen := congrArg List.length hfiles
    have hpos := List.length_pos_iff.2 hafter
    simp only [List.length_append, List.length_map] at hlen
    simp only [Result.ofOutcomes]
    omega
  exit_zero := by
    have hall := all_well_iff ⟨after, hfiles⟩
    exact ⟨nofun, fun h => absurd (hall.1 h).1 (not_all_of_rest hafter hfiles)⟩

theorem skipped_consistent : (Result.ofOutcomes .skipped 0 [] ms).Consistent [] where
  toReadable := readable_ofOutcomes _ _ _ nofun
  files_eq := rfl
  skipped_iff := ⟨fun _ => rfl, fun _ => rfl⟩
  of_skipped _ := ⟨rfl, rfl⟩
  passed_iff := ⟨nofun, fun ⟨hne, _⟩ => absurd rfl hne⟩
  failed_iff := ⟨nofun, nofun⟩
  aborted_iff := ⟨nofun, nofun⟩
  exit_zero := ⟨fun _ => nofun, fun _ => rfl⟩

theorem Course.consistent {r : Result} (h : Course files r) : r.Consistent files := by
  cases h with
  | skipped hfiles =>
    subst hfiles
    exact skipped_consistent
  | @ended outcomes _ hmade hne hfiles =>
    rcases finalStatus_cases outcomes with ⟨hs, hwell⟩ | ⟨hs, o, ho, hfail⟩
    · rw [hs]
      exact passed_consistent hmade hne hfiles hwell
    · rw [hs]
      exact failed_consistent hmade hne hfiles ho hfail
  | aborted hmade hafter hfiles => exact aborted_consistent hmade hafter hfiles

end Results

/-- Every result that a run comes to hangs together, and a run that is skipped calls nothing. -/
theorem sweep_consistent {s : Settings} {look : Path → Option Node} {t : Schedule}
    {checker : Checker σ} {selection : Selection} {state last : σ} {clock : σ → σ → Nat}
    {workers : Nat → Except IoProblem Unit} {r : Result}
    (h : s.sweep look t checker selection state clock workers = (.ok r, last)) :
    ∃ files, selection.paths look s = .ok files ∧ r.Consistent files ∧
      (r.status = .skipped → s.callsMade t checker files state = [] ∧ last = state) := by
  unfold Settings.sweep at h
  split at h
  · cases h
  next files hfiles =>
  split at h
  · cases h
  · have hr : (s.check t checker files state clock).1 = .ok r := by rw [h]
    have hcons := (course_of_check hr).consistent
    refine ⟨files, hfiles, hcons, fun hskip => ?_⟩
    rw [hcons.skipped_iff.1 hskip] at h ⊢
    cases h
    exact ⟨rfl, rfl⟩

def oneWorker : Settings :=
  ⟨[], ["p"], [.ofText "."], "c", ["-l"], 1, none⟩

/-- One of the files is wrong, and after two calls there is an interruption. -/
def refusesThenStops : Script :=
  ⟨[⟨"b", .exits 1 "on line 3"⟩], some 2⟩

theorem sweep_oneWorker :
    oneWorker.sweep (fun _ => none) {} refusesThenStops.checker
        (.listed [.ofText "b", .ofText "a", .ofText "b"]) [] =
      (.ok ⟨.aborted, "b:\non line 3", 3, [⟨.ofText "b", false, "b:\non line 3", some 3⟩,
        ⟨.ofText "a", true, "", none⟩], 0⟩,
        [⟨"c", ["-l", "b"]⟩, ⟨"c", ["-l", "a"]⟩, ⟨"c", ["-l", "b"]⟩]) ∧
    (Result.mk .aborted "b:\non line 3" 3 [⟨.ofText "b", false, "b:\non line 3", some 3⟩,
      ⟨.ofText "a", true, "", none⟩] 0).Consistent [.ofText "b", .ofText "a", .ofText "b"] := by
  have h : oneWorker.sweep (fun _ => none) {} refusesThenStops.checker
        (.listed [.ofText "b", .ofText "a", .ofText "b"]) [] =
      (.ok ⟨.aborted, "b:\non line 3", 3, [⟨.ofText "b", false, "b:\non line 3", some 3⟩,
        ⟨.ofText "a", true, "", none⟩], 0⟩,
        [⟨"c", ["-l", "b"]⟩, ⟨"c", ["-l", "a"]⟩, ⟨"c", ["-l", "b"]⟩]) := rfl
  obtain ⟨files, hfiles, hcons, -⟩ := sweep_consistent h
  cases hfiles
  exact ⟨h, hcons⟩

end SyntaxSweep
