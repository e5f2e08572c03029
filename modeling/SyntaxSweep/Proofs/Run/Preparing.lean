import Mathlib.Algebra.Group.Nat.Defs
import SyntaxSweep.Program
import SyntaxSweep.Proofs.Check.Exchanges
import SyntaxSweep.Proofs.Scan.Faults

namespace SyntaxSweep

open Cancellation (Token)
open CommandLine (Arguments)

section Failures

theorem exitCode_layerAt {files : Files} {file : Path} {e : Failure}
    (h : files.layerAt file = .error e) : e.exitCode = 2 := by
  unfold Files.layerAt at h
  repeat' split at h
  any_goals cases h
  all_goals rfl

theorem exitCode_layerFor {files : Files} {named : Option Path} {start : Path} {e : Failure}
    (h : files.layerFor named start = .error e) : e.exitCode = 2 := by
  unfold Files.layerFor at h
  cases named with
  | some file =>
    dsimp only at h
    split at h
    · exact exitCode_layerAt h
    · cases h
      rfl
  | none =>
    cases hd : files.discover start with
    | some file =>
      rw [hd] at h
      exact exitCode_layerAt h
    | none =>
      rw [hd] at h
      cases h

theorem exitCode_settings {l : Layer} {e : Failure} (h : l.settings = .error e) :
    e.exitCode = 2 := by
  unfold Layer.settings at h
  split at h
  any_goals cases h
  all_goals rfl

theorem exitCode_askGit {git : Git} {args : List String} {e : Failure}
    (h : askGit git args = .error e) : e.exitCode = 2 := by
  unfold askGit at h
  repeat' split at h
  any_goals cases h
  all_goals rfl

theorem exitCode_stagedFiles {f : Filter} {isFile : Path → Bool} {git : Git} {e : Failure}
    (h : stagedFiles f isFile git = .error e) : e.exitCode = 2 := by
  obtain htop | ⟨top, -, h⟩ := bind_error h
  · exact exitCode_askGit htop
  · obtain hnames | ⟨names, -, h⟩ := bind_error h
    · exact exitCode_askGit hnames
    · cases h

theorem exitCode_readPaths {stream : Bytes} {e : Failure} (h : readPaths stream = .error e) :
    e.exitCode = 2 := by
  unfold readPaths at h
  split at h
  any_goals cases h
  all_goals rfl

theorem exitCode_readInput {input : Input} {e : Failure} (h : readInput input = .error e) :
    e.exitCode = 2 := by
  unfold readInput at h
  cases hfailure : input.failure with
  | none =>
    rw [hfailure] at h
    exact exitCode_readPaths h
  | some cause =>
    rw [hfailure] at h
    obtain hlines | ⟨paths, -, he⟩ := bind_error h
    · exact exitCode_readPaths hlines
    · cases he
      rfl

theorem exitCode_scan {look : Path → Option Node} {f : Filter} {roots : List Path} {e : Failure}
    (h : scan look f roots = .error e) : e.exitCode = 2 := by
  obtain ⟨found, root, -, he⟩ := foldlM_error ((map_error_iff _ _ e).1 h)
  unfold scanRoot at he
  repeat' split at he
  any_goals cases he
  all_goals rfl

end Failures

section Workers

variable {s : Settings} {workers : Nat → Except IoProblem Unit} {files : List Path}

theorem Settings.manned_eq_ok :
    s.manned workers files = .ok () ↔ (files ≠ [] → 1 < s.jobs → workers s.jobs = .ok ()) := by
  unfold Settings.manned
  split
  · next h =>
    refine iff_of_true rfl fun hfiles hjobs => ?_
    exact absurd h (not_or.2 ⟨hfiles, Nat.not_le.2 hjobs⟩)
  · next h =>
    obtain ⟨hfiles, hjobs⟩ := not_or.1 h
    exact ⟨fun hm _ _ => hm, fun hm => hm hfiles (Nat.not_le.1 hjobs)⟩

theorem Settings.manned_cases (s : Settings) (workers : Nat → Except IoProblem Unit)
    (files : List Path) :
    (∃ cause, files ≠ [] ∧ 1 < s.jobs ∧ workers s.jobs = .error cause) ∨
      (files ≠ [] → 1 < s.jobs → workers s.jobs = .ok ()) := by
  cases hm : workers s.jobs with
  | ok => exact .inr fun _ _ => rfl
  | error cause =>
    by_cases hneeded : files ≠ [] ∧ 1 < s.jobs
    · exact .inl ⟨cause, hneeded.1, hneeded.2, rfl⟩
    · exact .inr fun hfiles hjobs => absurd ⟨hfiles, hjobs⟩ hneeded

end Workers

namespace Surroundings

variable {σ : Type}

section Preparing

variable (around : Surroundings σ) (args : Arguments)

/-- The run gets as far as checking these files, under this token. -/
structure Selects (s : Settings) (token : Token) (files : List Path) : Prop where
  settings_eq : around.settings args = .ok s
  token_eq : around.token? s = some token
  select_eq : ∃ selection, around.select args s = .ok selection ∧
    selection.paths around.root? s = .ok files
  not_stopped : around.stopped token = false
  manned : files ≠ [] → 1 < s.jobs → around.workers s.jobs = .ok ()

/-- What the run needs before its first call cannot be had: its settings, its files, or workers. -/
inductive Refuses : Failure → Prop
  | settings {e : Failure} (h : around.settings args = .error e) : Refuses e
  | select {s : Settings} {token : Token} {e : Failure} (hs : around.settings args = .ok s)
      (ht : around.token? s = some token) (h : around.select args s = .error e) : Refuses e
  | scan {s : Settings} {token : Token} {selection : Selection} {e : Failure}
      (hs : around.settings args = .ok s) (ht : around.token? s = some token)
      (hsel : around.select args s = .ok selection) (hstop : around.stopped token = false)
      (h : selection.paths around.root? s = .error e) : Refuses e
  | workers {s : Settings} {token : Token} {selection : Selection} {files : List Path}
      {cause : IoProblem} (hs : around.settings args = .ok s) (ht : around.token? s = some token)
      (hsel : around.select args s = .ok selection) (hstop : around.stopped token = false)
      (hpaths : selection.paths around.root? s = .ok files) (hfiles : files ≠ []) (hjobs : 1 < s.jobs)
      (h : around.workers s.jobs = .error cause) : Refuses (.io cause)

/-- The run has been told to stop by the time the source of its files is known. -/
def Halts : Prop :=
  ∃ s token selection, around.settings args = .ok s ∧ around.token? s = some token ∧
    around.select args s = .ok selection ∧ around.stopped token = true

def Panics : Prop :=
  ∃ s, around.settings args = .ok s ∧ around.token? s = none

theorem before_calls_or_selects :
    (∃ e, around.Refuses args e) ∨ around.Halts args ∨ around.Panics args ∨
      ∃ s token files, around.Selects args s token files := by
  cases hs : around.settings args with
  | error e => exact .inl ⟨e, .settings hs⟩
  | ok s =>
    cases ht : around.token? s with
    | none => exact .inr (.inr (.inl ⟨s, hs, ht⟩))
    | some token =>
      cases hsel : around.select args s with
      | error e => exact .inl ⟨e, .select hs ht hsel⟩
      | ok selection =>
        cases hstop : around.stopped token with
        | true => exact .inr (.inl ⟨s, token, selection, hs, ht, hsel, hstop⟩)
        | false =>
          cases hpaths : selection.paths around.root? s with
          | error e => exact .inl ⟨e, .scan hs ht hsel hstop hpaths⟩
          | ok files =>
            obtain ⟨cause, hfiles, hjobs, hm⟩ | hm := s.manned_cases around.workers files
            · exact .inl ⟨_, .workers hs ht hsel hstop hpaths hfiles hjobs hm⟩
            · exact .inr (.inr (.inr ⟨s, token, files, hs, ht, ⟨selection, hsel, hpaths⟩, hstop, hm⟩))

/-- The deadline of a run lies as far after its beginning as its settings say. -/
theorem token?_eq_some {s : Settings} {token : Token} : around.token? s = some token ↔
    token = ⟨0, s.timeout.map fun seconds => around.began + 1000 * seconds⟩ ∧
      ∀ deadline, token.deadline = some deadline → deadline < 1000 * 2 ^ 63 := by
  unfold token? Token.limited? Cancellation.lastTime
  cases s.timeout with
  | none =>
    refine ⟨?_, ?_⟩
    · rintro ⟨⟩
      exact ⟨rfl, nofun⟩
    · rintro ⟨rfl, -⟩
      rfl
  | some seconds =>
    dsimp only
    split
    · refine ⟨?_, ?_⟩
      · rintro ⟨⟩
        refine ⟨rfl, ?_⟩
        rintro deadline ⟨⟩
        omega
      · rintro ⟨rfl, -⟩
        rfl
    · refine ⟨nofun, ?_⟩
      rintro ⟨rfl, hfits⟩
      have hlate : around.began + 1000 * seconds < 1000 * 2 ^ 63 := hfits _ rfl
      omega

end Preparing

section Results

variable {around : Surroundings σ} {args : Arguments} {s : Settings} {token : Token}
  {files : List Path} {e : Failure}

theorem Refuses.exitCode_eq (h : around.Refuses args e) : e.exitCode = 2 := by
  cases h with
  | settings h =>
    obtain hdirectory | ⟨directory, -, h⟩ := bind_error h
    · cases hd : around.directory with
      | error cause =>
        rw [hd] at hdirectory
        cases hdirectory
        rfl
      | ok directory =>
        rw [hd] at hdirectory
        cases hdirectory
    · obtain hlayer | ⟨layer, -, hsettings⟩ := bind_error h
      · exact exitCode_layerFor hlayer
      · exact exitCode_settings hsettings
  | select hs ht h =>
    unfold Surroundings.select at h
    split at h
    · cases h
    split at h
    · exact exitCode_readInput ((map_error_iff _ _ e).1 h)
    split at h
    · exact exitCode_stagedFiles ((map_error_iff _ _ e).1 h)
    · cases h
  | @scan s token selection _ hs ht hsel hstop h =>
    cases selection with
    | listed paths => cases h
    | scanned => exact exitCode_scan h
  | workers => rfl

theorem Refuses.result_eq (h : around.Refuses args e) (state : σ) :
    around.result args state = (.error (.failure e), state) := by
  cases h with
  | settings h => simp [result, prepare, h, Except.mapError, bind, Except.bind]
  | select hs ht h => simp [result, prepare, hs, ht, h, Except.mapError, bind, Except.bind]
  | scan hs ht hsel hstop h =>
    simp [result, prepare, hs, ht, hsel, hstop, h, Except.mapError, bind, Except.bind, pure,
      Except.pure, Settings.sweep]
  | @workers s token selection files cause hs ht hsel hstop hpaths hfiles hjobs h =>
    have hm : s.manned around.workers files = .error cause := by
      rw [Settings.manned, if_neg (not_or.2 ⟨hfiles, Nat.not_le.2 hjobs⟩), h]
    simp [result, prepare, hs, ht, hsel, hstop, hpaths, hm, Except.mapError, bind, Except.bind, pure,
      Except.pure, Settings.sweep]

theorem Halts.result_eq (h : around.Halts args) (state : σ) :
    around.result args state = (.error (.failure .interrupted), state) := by
  obtain ⟨s, token, selection, hs, ht, hsel, hstop⟩ := h
  simp [result, prepare, hs, ht, hsel, hstop, Except.mapError, bind, Except.bind, throw, throwThe,
    MonadExceptOf.throw]

theorem Panics.result_eq (h : around.Panics args) (state : σ) :
    around.result args state = (.error .panic, state) := by
  obtain ⟨s, hs, ht⟩ := h
  simp [result, prepare, hs, ht, Except.mapError, bind, Except.bind, throw, throwThe,
    MonadExceptOf.throw]

theorem Selects.result_eq (h : around.Selects args s token files) (state : σ) :
    around.result args state =
      ((s.check around.schedule (around.checker s token) files state around.clock).1.mapError .failure,
        (s.check around.schedule (around.checker s token) files state around.clock).2) := by
  obtain ⟨hs, ht, ⟨selection, hsel, hpaths⟩, hstop, hmanned⟩ := h
  have hm := Settings.manned_eq_ok.2 hmanned
  simp [result, prepare, hs, ht, hsel, hstop, hpaths, hm, Except.mapError, bind, Except.bind, pure,
    Except.pure, Settings.sweep]

end Results

section Noting

variable (around : Surroundings σ) (args : Arguments) (state : σ)

/-- The same surroundings, in which the exchanges with the checker are written down. -/
def noted : Surroundings (σ × List Exchange) where
  directory := around.directory
  files := around.files
  stdin := around.stdin
  git := around.git
  root? := around.root?
  began := around.began
  stopped := around.stopped
  workers := around.workers
  checker s token := (around.checker s token).noted
  schedule := around.schedule
  clock a b := around.clock a.1 b.1

def exchanges : List Exchange :=
  (around.noted.result args (state, [])).2.2

variable {around args} {s : Settings} {token : Token} {files : List Path} {e : Failure}

theorem Refuses.noted (h : around.Refuses args e) : around.noted.Refuses args e := by
  cases h with
  | settings h => exact .settings h
  | select hs ht h => exact .select hs ht h
  | scan hs ht hsel hstop h => exact .scan hs ht hsel hstop h
  | workers hs ht hsel hstop hpaths hfiles hjobs h =>
    exact .workers hs ht hsel hstop hpaths hfiles hjobs h

theorem Halts.noted (h : around.Halts args) : around.noted.Halts args :=
  h

theorem Panics.noted (h : around.Panics args) : around.noted.Panics args :=
  h

theorem Selects.noted (h : around.Selects args s token files) :
    around.noted.Selects args s token files :=
  ⟨h.settings_eq, h.token_eq, h.select_eq, h.not_stopped, h.manned⟩

theorem result_noted (log : List Exchange) :
    (around.noted.result args (state, log)).1 = (around.result args state).1 ∧
      (around.noted.result args (state, log)).2.1 = (around.result args state).2 := by
  obtain ⟨e, h⟩ | h | h | ⟨s, token, files, h⟩ := around.before_calls_or_selects args
  · rw [h.noted.result_eq, h.result_eq]
    exact ⟨rfl, rfl⟩
  · rw [h.noted.result_eq, h.result_eq]
    exact ⟨rfl, rfl⟩
  · rw [h.noted.result_eq, h.result_eq]
    exact ⟨rfl, rfl⟩
  · obtain ⟨hresult, hlast⟩ := (s.checkFile_noted (around.checker s token)).check around.schedule
      files (state, log) around.clock
    rw [h.noted.result_eq, h.result_eq, ← hresult, ← hlast]
    exact ⟨rfl, rfl⟩

theorem Refuses.exchanges_eq (h : around.Refuses args e) : around.exchanges args state = [] := by
  rw [exchanges, h.noted.result_eq]

theorem Halts.exchanges_eq (h : around.Halts args) : around.exchanges args state = [] := by
  rw [exchanges, h.noted.result_eq]

theorem Panics.exchanges_eq (h : around.Panics args) : around.exchanges args state = [] := by
  rw [exchanges, h.noted.result_eq]

theorem Selects.exchanges_eq (h : around.Selects args s token files) :
    around.exchanges args state =
      s.exchanges around.schedule (around.checker s token) files state := by
  rw [exchanges, h.noted.result_eq, check_last]
  rfl

/-- The exchanges decide over a run that gets as far as checking files. -/
theorem Selects.conduct (h : around.Selects args s token files) :
    ∃ result, (around.result args state).1 = result.mapError .failure ∧
      Conduct s around.schedule files (around.exchanges args state) result := by
  rw [h.exchanges_eq, h.result_eq]
  exact ⟨_, rfl, conduct_of_check s around.schedule (around.checker s token) files state around.clock⟩

variable (around args) in
/-- A run leaves the checker alone, or its exchanges are made under its token and lead the checker from
the first state to the last. -/
theorem untouched_or_trace :
    (around.exchanges args state = [] ∧ (around.result args state).2 = state) ∨
      ∃ s token, around.settings args = .ok s ∧ around.token? s = some token ∧
        Trace (around.checker s token) state (around.exchanges args state)
          (around.result args state).2 := by
  obtain ⟨e, h⟩ | h | h | ⟨s, token, files, h⟩ := around.before_calls_or_selects args
  · exact .inl ⟨h.exchanges_eq state, by rw [h.result_eq]⟩
  · exact .inl ⟨h.exchanges_eq state, by rw [h.result_eq]⟩
  · exact .inl ⟨h.exchanges_eq state, by rw [h.result_eq]⟩
  · refine .inr ⟨s, token, h.settings_eq, h.token_eq, ?_⟩
    rw [h.exchanges_eq, h.result_eq]
    exact s.trace_exchanges around.schedule (around.checker s token) files state around.clock

end Noting

end Surroundings

end SyntaxSweep
