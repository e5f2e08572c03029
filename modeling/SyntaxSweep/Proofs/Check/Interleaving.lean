import SyntaxSweep.Proofs.Check.Workers
import Mathlib.Logic.Relation

namespace SyntaxSweep

open Schedule

/-- Workers side by side: the files that nobody has begun, those begun without an answer so far, the
answers that a worker still holds, those put down, and the checks made, in their order. -/
structure Pool (σ α β ε : Type) where
  waiting : List (Nat × α)
  begun : List (Nat × α)
  held : List ((Nat × α) × Except ε β)
  recorded : List ((Nat × α) × Except ε β)
  calls : List ((Nat × α) × Except ε β)
  state : σ

namespace Pool

variable {σ α β ε : Type}

def start (files : List α) (state : σ) : Pool σ α β ε :=
  ⟨numberedFiles files, [], [], [], [], state⟩

/-- What one worker may do. Files are left out only once a failure has been put down. -/
inductive Step (workers : Nat) (check : σ → α → Except ε β × σ) :
    Pool σ α β ε → Pool σ α β ε → Prop
  | begin {pool : Pool σ α β ε} {x : Nat × α} {l r : List (Nat × α)}
      (hx : pool.waiting = l ++ x :: r) (hfree : pool.begun.length + pool.held.length < workers) :
      Step workers check pool { pool with waiting := l ++ r, begun := x :: pool.begun }
  | call {pool : Pool σ α β ε} {x : Nat × α} {l r : List (Nat × α)}
      (hx : pool.begun = l ++ x :: r) :
      Step workers check pool { pool with
        begun := l ++ r
        held := (x, (check pool.state x.2).1) :: pool.held
        calls := pool.calls ++ [(x, (check pool.state x.2).1)]
        state := (check pool.state x.2).2 }
  | record {pool : Pool σ α β ε} {c : (Nat × α) × Except ε β}
      {l r : List ((Nat × α) × Except ε β)} (hc : pool.held = l ++ c :: r) :
      Step workers check pool { pool with held := l ++ r, recorded := c :: pool.recorded }
  | skip {pool : Pool σ α β ε} {x : Nat × α} {l r : List (Nat × α)}
      (hx : pool.waiting = l ++ x :: r) (hfailed : ∃ y e, (y, .error e) ∈ pool.recorded) :
      Step workers check pool { pool with waiting := l ++ r }

abbrev Run (workers : Nat) (check : σ → α → Except ε β × σ) :
    Pool σ α β ε → Pool σ α β ε → Prop :=
  Relation.ReflTransGen (Step workers check)

/-- Nothing is left to do, and this is the result: one of the failures, or all outcomes in the order
of the files. -/
structure Ends (pool : Pool σ α β ε) (result : Except ε (List β)) : Prop where
  waiting : pool.waiting = []
  begun : pool.begun = []
  held : pool.held = []
  result_eq : (∃ x e, (x, .error e) ∈ pool.recorded ∧ result = .error e) ∨
    (∀ c ∈ pool.recorded, ∃ b, c.2 = .ok b) ∧
      result = .ok (inOrder (outcomesIn (pool.recorded.map numbered)))

variable {workers : Nat} {check : σ → α → Except ε β × σ} {files : List α} {state : σ}
  {pool next : Pool σ α β ε}

/-- What holds at every moment. Each file has been checked, is being checked, or waits, unless it was
left out; and each answer is with the worker who got it or has been put down. -/
structure Reached (check : σ → α → Except ε β × σ) (files : List α) (state : σ)
    (pool : Pool σ α β ε) : Prop where
  trace : Trace check state (pool.calls.map unnumbered) pool.state
  answers : (pool.held ++ pool.recorded).Perm pool.calls
  left_out : ∃ skipped,
    (pool.calls.map (·.1) ++ pool.begun ++ pool.waiting ++ skipped).Perm (numberedFiles files) ∧
      (skipped = [] ∨ ∃ x e, (x, .error e) ∈ pool.calls)

theorem Reached.start (check : σ → α → Except ε β × σ) (files : List α) (state : σ) :
    Reached check files state (start files state) :=
  ⟨.nil state, .nil, [], by simp [Pool.start], .inl rfl⟩

theorem Reached.step (h : Reached check files state pool) (hs : Step workers check pool next) :
    Reached check files state next := by
  classical
  obtain ⟨htrace, hanswers, skipped, hperm, hskip⟩ := h
  -- A step moves one file or one answer from one place to another, so that the counts stay.
  have hcount := List.perm_iff_count.1 hperm
  have hgot := List.perm_iff_count.1 hanswers
  cases hs with
  | @begin x l r hx hfree =>
    refine ⟨htrace, hanswers, skipped, List.perm_iff_count.2 fun a => ?_, hskip⟩
    rw [← hcount a]
    simp only [hx, List.count_append, List.count_cons]
    omega
  | @call x l r hx =>
    refine ⟨?_, List.perm_iff_count.2 fun a => ?_, skipped, List.perm_iff_count.2 fun a => ?_, ?_⟩
    · rw [List.map_append]
      exact htrace.concat x.2
    · have ha := hgot a
      simp only [List.count_append, List.cons_append, List.count_cons, List.count_nil] at ha ⊢
      omega
    · rw [← hcount a]
      simp only [hx, List.map_append, List.map_cons, List.map_nil, List.count_append,
        List.count_cons, List.count_nil]
      omega
    · apply hskip.imp_right
      rintro ⟨y, e, hy⟩
      exact ⟨y, e, List.mem_append_left _ hy⟩
  | @record c l r hc =>
    refine ⟨htrace, List.perm_iff_count.2 fun a => ?_, skipped, hperm, hskip⟩
    rw [← hgot a]
    simp only [hc, List.count_append, List.count_cons]
    omega
  | @skip x l r hx hfailed =>
    refine ⟨htrace, hanswers, x :: skipped, List.perm_iff_count.2 fun a => ?_, .inr ?_⟩
    · rw [← hcount a]
      simp only [hx, List.count_append, List.count_cons]
      omega
    · obtain ⟨y, e, hy⟩ := hfailed
      exact ⟨y, e, hanswers.mem_iff.1 (List.mem_append_right _ hy)⟩

theorem Reached.run (h : Reached check files state pool) (hr : Run workers check pool next) :
    Reached check files state next := by
  induction hr with
  | refl => exact h
  | tail _ hs ih => exact ih.step hs

theorem Reached.gathering (h : Reached check files state pool) {result : Except ε (List β)}
    (hend : pool.Ends result) : Gathering check files state pool.calls result pool.state := by
  obtain ⟨htrace, hanswers, skipped, hperm, hskip⟩ := h
  rw [hend.held, List.nil_append] at hanswers
  rw [hend.begun, hend.waiting, List.append_nil, List.append_nil] at hperm
  refine ⟨htrace, ⟨skipped, hperm, hskip⟩, ?_⟩
  rcases hend.result_eq with ⟨x, e, hx, rfl⟩ | ⟨hok, rfl⟩
  · exact .inl ⟨x, e, hanswers.mem_iff.1 hx, rfl⟩
  · have hok' : ∀ c ∈ pool.calls, ∃ b, c.2 = .ok b := fun c hc => hok c (hanswers.mem_iff.2 hc)
    have hskip : skipped = [] := by
      apply hskip.resolve_right
      rintro ⟨x, e, hx⟩
      obtain ⟨b, hb⟩ := hok' _ hx
      cases hb
    rw [hskip, List.append_nil] at hperm
    obtain ⟨made, hmade, hcm⟩ := exists_made hok' hperm
    refine .inr ⟨made, hmade, hcm, ?_⟩
    rw [inOrder_outcomesIn (hanswers.trans hcm) (hmade ▸ numberedFiles_pairwise files)]

theorem run_calls (hw : 0 < workers) {calls : List ((Nat × α) × Except ε β)}
    {waiting skipped : List (Nat × α)} (recorded before : List ((Nat × α) × Except ε β)) {last : σ}
    (hperm : (calls.map (·.1) ++ skipped).Perm waiting)
    (htrace : Trace check state (calls.map unnumbered) last) :
    ∃ left, skipped.Perm left ∧ Run workers check ⟨waiting, [], [], recorded, before, state⟩
      ⟨left, [], [], calls.reverse ++ recorded, before ++ calls, last⟩ := by
  induction calls generalizing waiting recorded before state with
  | nil =>
    cases htrace with
    | nil =>
      refine ⟨waiting, hperm, ?_⟩
      rw [List.append_nil]
      exact .refl
  | cons c rest ih =>
    obtain ⟨x, answer⟩ := c
    obtain ⟨hanswer : answer = (check state x.2).1, htrace⟩ := htrace.cons_inv
    obtain ⟨l, r, rfl⟩ := List.append_of_mem (hperm.mem_iff.1 List.mem_cons_self)
    have hrest : (rest.map (·.1) ++ skipped).Perm (l ++ r) :=
      (hperm.trans List.perm_middle).cons_inv
    obtain ⟨left, hleft, hrun⟩ := ih ((x, answer) :: recorded) (before ++ [(x, answer)]) hrest htrace
    rw [List.append_assoc] at hrun
    refine ⟨left, hleft, ?_⟩
    have hfirst : Run workers check
        (⟨l ++ x :: r, [], [], recorded, before, state⟩ : Pool σ α β ε)
        ⟨l ++ r, [], [], (x, answer) :: recorded, before ++ [(x, answer)], (check state x.2).2⟩ := by
      subst hanswer
      exact .tail (.tail (.single (.begin rfl hw)) (.call (l := []) rfl)) (.record (l := []) rfl)
    rw [List.reverse_cons, List.append_assoc]
    exact hfirst.trans hrun

theorem run_skip {waiting : List (Nat × α)} {recorded calls : List ((Nat × α) × Except ε β)}
    (h : waiting = [] ∨ ∃ x e, (x, .error e) ∈ recorded) :
    Run workers check ⟨waiting, [], [], recorded, calls, state⟩
      ⟨[], [], [], recorded, calls, state⟩ := by
  induction waiting with
  | nil => exact .refl
  | cons x rest ih =>
    have hfailed := h.resolve_left (List.cons_ne_nil x rest)
    exact .head (.skip (l := []) rfl hfailed) (ih (.inr hfailed))

theorem exists_run (hw : 0 < workers) {calls : List ((Nat × α) × Except ε β)}
    {result : Except ε (List β)} {last : σ}
    (h : Gathering check files state calls result last) :
    ∃ pool, Run workers check (start files state) pool ∧ pool.Ends result ∧
      pool.calls = calls ∧ pool.state = last := by
  obtain ⟨htrace, ⟨skipped, hperm, hskip⟩, hresult⟩ := h
  obtain ⟨left, hleft, hrun⟩ := run_calls hw [] [] hperm htrace
  have hmem (c : (Nat × α) × Except ε β) : c ∈ calls.reverse ++ [] ↔ c ∈ calls := by simp
  have hrest : left = [] ∨ ∃ x e, (x, .error e) ∈ calls.reverse ++ [] := by
    rcases hskip with rfl | ⟨x, e, hx⟩
    · exact .inl hleft.nil_eq.symm
    · exact .inr ⟨x, e, (hmem _).2 hx⟩
  refine ⟨_, hrun.trans (run_skip hrest), ⟨rfl, rfl, rfl, ?_⟩, rfl, rfl⟩
  rcases hresult with ⟨x, e, hx, rfl⟩ | ⟨made, hmade, hcm, rfl⟩
  · exact .inl ⟨x, e, (hmem _).2 hx, rfl⟩
  · have hrev : (calls.reverse ++ []).Perm (succeeded made) := by
      rw [List.append_nil]
      exact (List.reverse_perm calls).trans hcm
    refine .inr ⟨fun c hc => ?_, ?_⟩
    · obtain ⟨d, -, rfl⟩ := mem_succeeded (hrev.mem_iff.1 hc)
      exact ⟨d.2, rfl⟩
    · rw [inOrder_outcomesIn hrev (hmade ▸ numberedFiles_pairwise files)]

theorem exists_schedule_iff_run (hw : 0 < workers) {result : Except ε (List β)} {last : σ} :
    (∃ t : Schedule, t.checkAll check files state = (result, last)) ↔
      ∃ pool, Run workers check (start files state) pool ∧ pool.Ends result ∧ pool.state = last := by
  constructor
  · rintro ⟨t, ht⟩
    obtain ⟨calls, hcalls⟩ := t.gathering check files state
    rw [ht] at hcalls
    obtain ⟨pool, hrun, hend, -, hlast⟩ := exists_run hw hcalls
    exact ⟨pool, hrun, hend, hlast⟩
  · rintro ⟨pool, hrun, hend, rfl⟩
    exact (((Reached.start check files state).run hrun).gathering hend).exists_schedule

def work (pool : Pool σ α β ε) : Nat :=
  3 * pool.waiting.length + 2 * pool.begun.length + pool.held.length

theorem Step.work_lt (hs : Step workers check pool next) : next.work < pool.work := by
  cases hs with
  | begin hx hfree =>
    simp only [work, hx, List.length_append, List.length_cons]
    omega
  | call hx =>
    simp only [work, hx, List.length_append, List.length_cons]
    omega
  | record hc =>
    simp only [work, hc, List.length_append, List.length_cons]
    omega
  | skip hx hfailed =>
    simp only [work, hx, List.length_append, List.length_cons]
    omega

theorem exists_step (hw : 0 < workers) (check : σ → α → Except ε β × σ) (h : 0 < pool.work) :
    ∃ next, Step workers check pool next := by
  obtain ⟨waiting, begun, held, recorded, calls, state⟩ := pool
  cases held with
  | cons c rest => exact ⟨_, .record (l := []) rfl⟩
  | nil =>
    cases begun with
    | cons x rest => exact ⟨_, .call (l := []) rfl⟩
    | nil =>
      cases waiting with
      | cons x rest => exact ⟨_, .begin (l := []) rfl hw⟩
      | nil => exact absurd h (Nat.lt_irrefl 0)

theorem exists_idle (hw : 0 < workers) (check : σ → α → Except ε β × σ) (pool : Pool σ α β ε) :
    ∃ last, Run workers check pool last ∧ last.work = 0 := by
  induction hn : pool.work using Nat.strongRecOn generalizing pool with
  | ind n ih =>
    subst hn
    by_cases hwork : pool.work = 0
    · exact ⟨pool, .refl, hwork⟩
    · obtain ⟨next, hs⟩ := exists_step hw check (Nat.pos_of_ne_zero hwork)
      obtain ⟨last, hrun, hlast⟩ := ih next.work hs.work_lt next rfl
      exact ⟨last, .head hs hrun, hlast⟩

end Pool

end SyntaxSweep
