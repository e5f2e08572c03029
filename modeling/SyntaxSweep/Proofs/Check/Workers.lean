import SyntaxSweep.Proofs.Check.Calls
import Mathlib.Data.List.Perm.Basic
import Mathlib.Data.List.Nodup

namespace SyntaxSweep

namespace Schedule

variable {σ α β ε : Type}

def numbered (c : (Nat × α) × Except ε β) : Nat × Except ε β :=
  (c.1.1, c.2)

def unnumbered (c : (Nat × α) × Except ε β) : α × Except ε β :=
  (c.1.2, c.2)

def numberedFiles (files : List α) : List (Nat × α) :=
  (List.range files.length).zip files

def nextBudget (t : Schedule) : Option Nat → Except ε β → Option Nat
  | some more, _ => some (more - 1)
  | none, .error _ => some t.further
  | none, .ok _ => none

section Gather

variable (t : Schedule) (check : σ → α → Except ε β × σ)

theorem gather_nil (fuel : Nat) (picks : List Nat) (budget : Option Nat) (state : σ) :
    t.gather check fuel [] picks budget state = ([], state) := by
  cases fuel <;> rfl

theorem gather_spent (fuel : Nat) (left : List (Nat × α)) (picks : List Nat) (state : σ) :
    t.gather check fuel left picks (some 0) state = ([], state) := by
  cases fuel with
  | zero => rfl
  | succ fuel =>
    rw [gather.eq_def]
    cases h : left[picks.headD 0 % left.length]? <;> simp only [h]

theorem gather_pick {fuel : Nat} {left : List (Nat × α)} {picks : List Nat} {budget : Option Nat}
    {state : σ} {x : Nat × α} (hx : left[picks.headD 0 % left.length]? = some x)
    (hb : budget ≠ some 0) :
    t.gather check (fuel + 1) left picks budget state =
      let rest := t.gather check fuel (left.eraseIdx (picks.headD 0 % left.length)) picks.tail
        (t.nextBudget budget (check state x.2).1) (check state x.2).2
      ((x.1, (check state x.2).1) :: rest.1, rest.2) := by
  rw [gather.eq_def]
  simp only [hx]
  cases budget with
  | none =>
    cases check state x.2 with
    | mk answer next => cases answer <;> simp [nextBudget]
  | some more =>
    cases more with
    | zero => exact absurd rfl hb
    | succ more => simp [nextBudget]

/-- The checks that a schedule makes of the files that are left, and the files it leaves out: none,
unless a check fails. -/
theorem gather_trace (fuel : Nat) (left : List (Nat × α)) (picks : List Nat) (budget : Option Nat)
    (state : σ) :
    ∃ (calls : List ((Nat × α) × Except ε β)) (skipped : List (Nat × α)),
      (t.gather check fuel left picks budget state).1 = calls.map numbered ∧
        Trace check state (calls.map unnumbered) (t.gather check fuel left picks budget state).2 ∧
        (calls.map (·.1) ++ skipped).Perm left ∧
        (budget = none → left.length ≤ fuel → (∀ c ∈ calls, ∃ b, c.2 = .ok b) → skipped = []) := by
  induction fuel generalizing left picks budget state with
  | zero =>
    refine ⟨[], left, rfl, .nil state, .refl left, fun _ hl _ => ?_⟩
    exact List.length_eq_zero_iff.1 (Nat.le_zero.1 hl)
  | succ fuel ih =>
    by_cases hleft : left = []
    · subst hleft
      rw [gather_nil]
      exact ⟨[], [], rfl, .nil state, .refl [], fun _ _ _ => rfl⟩
    by_cases hb : budget = some 0
    · subst hb
      rw [gather_spent]
      exact ⟨[], left, rfl, .nil state, .refl left, nofun⟩
    -- One file is picked, and the rest is done with one file less.
    have hlt : picks.headD 0 % left.length < left.length :=
      Nat.mod_lt _ (List.length_pos_iff.2 hleft)
    have hx := List.getElem?_eq_getElem hlt
    have hpick := List.getElem_cons_eraseIdx_perm hlt
    have hlen := List.length_eraseIdx_of_lt hlt
    rw [gather_pick t check hx hb]
    generalize left[picks.headD 0 % left.length] = x at hpick
    generalize left.eraseIdx (picks.headD 0 % left.length) = others at hpick hlen
    obtain ⟨calls, skipped, hcalls, htrace, hperm, hnone⟩ := ih others picks.tail
      (t.nextBudget budget (check state x.2).1) (check state x.2).2
    refine ⟨(x, (check state x.2).1) :: calls, skipped, ?_, .cons state x.2 htrace,
      (hperm.cons x).trans hpick, fun hbudget hfuel hok => ?_⟩
    · simp only [hcalls]
      rfl
    · obtain ⟨⟨b, hfirst : (check state x.2).1 = .ok b⟩, hrest⟩ := List.forall_mem_cons.1 hok
      apply hnone _ (by omega) hrest
      rw [hbudget, hfirst]
      rfl

end Gather

section Order

theorem place_perm (n : Nat) (b : β) (l : List (Nat × β)) : (place n b l).Perm ((n, b) :: l) := by
  induction l with
  | nil => exact .refl _
  | cons d rest ih =>
    obtain ⟨m, c⟩ := d
    rw [place]
    split
    · exact .refl _
    · exact (ih.cons (m, c)).trans (.swap _ _ rest)

theorem place_pairwise (n : Nat) (b : β) {l : List (Nat × β)} (h : l.Pairwise (·.1 ≤ ·.1)) :
    (place n b l).Pairwise (·.1 ≤ ·.1) := by
  induction l with
  | nil => simp [place]
  | cons d rest ih =>
    obtain ⟨m, c⟩ := d
    obtain ⟨hle, hrest⟩ := List.pairwise_cons.1 h
    rw [place]
    split
    · next hnm =>
      refine List.pairwise_cons.2 ⟨List.forall_mem_cons.2 ⟨hnm, fun e he => ?_⟩, h⟩
      exact Nat.le_trans hnm (hle e he)
    · next hnm =>
      refine List.pairwise_cons.2 ⟨fun e he => ?_, ih hrest⟩
      rcases List.mem_cons.1 ((place_perm n b rest).mem_iff.1 he) with rfl | he
      · exact Nat.le_of_lt (Nat.lt_of_not_le hnm)
      · exact hle e he

/-- The values of numbered values in any order are put back in the order of the numbers. -/
theorem inOrder_of_perm {l m : List (Nat × β)} (h : l.Perm m) (hm : m.Pairwise (·.1 < ·.1)) :
    inOrder l = m.map (·.2) := by
  have hsort : (l.foldr (fun d placed => place d.1 d.2 placed) []).Perm l ∧
      (l.foldr (fun d placed => place d.1 d.2 placed) []).Pairwise (·.1 ≤ ·.1) := by
    clear h
    induction l with
    | nil => exact ⟨.refl _, .nil⟩
    | cons d rest ih =>
      exact ⟨(place_perm d.1 d.2 _).trans (ih.1.cons d), place_pairwise d.1 d.2 ih.2⟩
  -- No number comes twice, so there is one order by numbers.
  have hle : m.Pairwise (·.1 ≤ ·.1) := hm.imp Nat.le_of_lt
  have hinj : ∀ a ∈ m, ∀ b ∈ m, a.1 = b.1 → a = b := by
    have hnodup : (m.map (·.1)).Nodup := by
      rw [List.Nodup, List.pairwise_map]
      exact hm.imp Nat.ne_of_lt
    exact fun a ha b hb => List.inj_on_of_nodup_map hnodup ha hb
  have hperm := hsort.1.trans h
  have heq : l.foldr (fun d placed => place d.1 d.2 placed) [] = m :=
    List.Perm.eq_of_pairwise (fun a b ha hb hab hba =>
      hinj a (hperm.mem_iff.1 ha) b hb (Nat.le_antisymm hab hba)) hsort.2 hle hperm
  rw [← heq]
  rfl

theorem numberedFiles_pairwise (files : List α) :
    (numberedFiles files).Pairwise (·.1 < ·.1) := by
  have hmap : (numberedFiles files).map (·.1) = List.range files.length :=
    List.map_fst_zip (by simp)
  have hlt : ((numberedFiles files).map (·.1)).Pairwise (· < ·) := by
    rw [hmap]
    exact List.pairwise_lt_range
  exact List.pairwise_map.1 hlt

theorem map_snd_numberedFiles (files : List α) : (numberedFiles files).map (·.2) = files :=
  List.map_snd_zip (by simp)

theorem map_numberedFiles {γ : Type} (f : α → γ) (files : List α) :
    (numberedFiles files).map (fun x => f x.2) = files.map f := by
  conv_rhs => rw [← map_snd_numberedFiles files, List.map_map]
  rfl

theorem exists_perm_of_map_perm {f : α → β} {l : List α} {r : List β} (h : (l.map f).Perm r) :
    ∃ l', l.Perm l' ∧ l'.map f = r := by
  induction r generalizing l with
  | nil => exact ⟨[], by simpa using h, rfl⟩
  | cons b r ih =>
    obtain ⟨a, ha, rfl⟩ := List.mem_map.1 (h.mem_iff.2 List.mem_cons_self)
    obtain ⟨s, t, rfl⟩ := List.append_of_mem ha
    have hst : ((s ++ t).map f).Perm r := by
      rw [List.map_append, List.map_cons] at h
      rw [List.map_append]
      exact (List.perm_middle.symm.trans h).cons_inv
    obtain ⟨l', hl', rfl⟩ := ih hst
    exact ⟨a :: l', List.perm_middle.trans (hl'.cons a), rfl⟩

end Order

section Collect

theorem mem_errorsIn {answers : List (Nat × Except ε β)} {e : ε} :
    e ∈ errorsIn answers ↔ ∃ n, (n, .error e) ∈ answers :=
  mem_troubles

theorem errorsIn_numbered (calls : List ((Nat × α) × Except ε β)) :
    errorsIn (calls.map numbered) = troubles calls := by
  rw [errorsIn, List.filterMap_map]
  rfl

theorem ok_of_no_errors {calls : List ((Nat × α) × Except ε β)}
    (h : errorsIn (calls.map numbered) = []) : ∀ c ∈ calls, ∃ b, c.2 = .ok b :=
  troubles_eq_nil.1 ((errorsIn_numbered calls).symm.trans h)

theorem outcomesIn_succeeded (made : List ((Nat × α) × β)) :
    outcomesIn ((succeeded made).map (numbered (ε := ε))) = made.map fun d => (d.1.1, d.2) := by
  induction made with
  | nil => rfl
  | cons d rest ih => exact congrArg ((d.1.1, d.2) :: ·) ih

theorem exists_made {calls : List ((Nat × α) × Except ε β)} {left : List (Nat × α)}
    (hok : ∀ c ∈ calls, ∃ b, c.2 = .ok b) (hperm : (calls.map (·.1)).Perm left) :
    ∃ made, made.map (·.1) = left ∧ calls.Perm (succeeded made) := by
  obtain ⟨sorted, hsorted, hleft⟩ := exists_perm_of_map_perm hperm
  obtain ⟨made, rfl⟩ := exists_succeeded fun c hc => hok c (hsorted.mem_iff.2 hc)
  refine ⟨made, ?_, hsorted⟩
  rw [← hleft, succeeded, List.map_map]
  rfl

theorem inOrder_outcomesIn {calls : List ((Nat × α) × Except ε β)} {made : List ((Nat × α) × β)}
    (hperm : calls.Perm (succeeded made)) (hlt : (made.map (·.1)).Pairwise (·.1 < ·.1)) :
    inOrder (outcomesIn (calls.map numbered)) = made.map (·.2) := by
  have hout : (outcomesIn (calls.map numbered)).Perm (made.map fun d => (d.1.1, d.2)) := by
    rw [← outcomesIn_succeeded (ε := ε) made]
    exact (hperm.map numbered).filterMap _
  have hlt' : (made.map fun d => (d.1.1, d.2)).Pairwise (·.1 < ·.1) := by
    rw [List.pairwise_map] at hlt ⊢
    exact hlt
  rw [inOrder_of_perm hout hlt', List.map_map]
  rfl

theorem collect_of_perm (t : Schedule) {calls : List ((Nat × α) × Except ε β)}
    {made : List ((Nat × α) × β)} (hperm : calls.Perm (succeeded made))
    (hlt : (made.map (·.1)).Pairwise (·.1 < ·.1)) :
    t.collect (calls.map numbered) = .ok (made.map (·.2)) := by
  have herr : errorsIn (calls.map numbered) = [] := by
    rw [List.eq_nil_iff_forall_not_mem]
    intro e he
    obtain ⟨n, hn⟩ := mem_errorsIn.1 he
    obtain ⟨c, hc, hx⟩ := List.mem_map.1 hn
    obtain ⟨d, -, rfl⟩ := mem_succeeded (hperm.mem_iff.1 hc)
    cases hx
  rw [collect, herr, ← inOrder_outcomesIn hperm hlt]
  rfl

theorem collect_of_errors (t : Schedule) {answers : List (Nat × Except ε β)}
    (h : errorsIn answers ≠ []) : ∃ e ∈ errorsIn answers, t.collect answers = .error e := by
  have hlt := Nat.mod_lt t.kept (List.length_pos_iff.2 h)
  refine ⟨_, List.getElem_mem hlt, ?_⟩
  simp only [collect, List.getElem?_eq_getElem hlt]

theorem exists_kept {answers : List (Nat × Except ε β)} {e : ε} (he : e ∈ errorsIn answers) :
    ∃ kept, ∀ t : Schedule, t.kept = kept → t.collect answers = .error e := by
  obtain ⟨i, hi, hget⟩ := List.mem_iff_getElem.1 he
  refine ⟨i, fun t ht => ?_⟩
  simp only [collect, ht, Nat.mod_eq_of_lt hi, List.getElem?_eq_getElem hi, hget]

/-- Checks that came to something, without the numbers of their files. -/
def dropNumbers (made : List ((Nat × α) × β)) : List (α × β) :=
  made.map fun d => (d.1.2, d.2)

theorem unnumbered_perm {calls : List ((Nat × α) × Except ε β)} {made : List ((Nat × α) × β)}
    (h : calls.Perm (succeeded made)) :
    (calls.map unnumbered).Perm (succeeded (dropNumbers made)) := by
  have hperm := h.map unnumbered
  rw [succeeded, List.map_map] at hperm
  rw [succeeded, dropNumbers, List.map_map]
  exact hperm

theorem map_snd_dropNumbers (made : List ((Nat × α) × β)) :
    (dropNumbers made).map (·.2) = made.map (·.2) := by
  rw [dropNumbers, List.map_map]
  rfl

theorem map_fst_dropNumbers {made : List ((Nat × α) × β)} {files : List α}
    (h : made.map (·.1) = numberedFiles files) : (dropNumbers made).map (·.1) = files := by
  rw [← map_snd_numberedFiles files, ← h, dropNumbers, List.map_map, List.map_map]
  rfl

end Collect

end Schedule

open Schedule in
/-- What several workers may come to. Checks are made in any order; files are left out only if a check
has failed; the result is the failure of one of the checks, or the outcomes of all files in the order
of the files. -/
structure Gathering {σ α β ε : Type} (check : σ → α → Except ε β × σ) (files : List α) (state : σ)
    (calls : List ((Nat × α) × Except ε β)) (result : Except ε (List β)) (last : σ) : Prop where
  trace : Trace check state (calls.map unnumbered) last
  left_out : ∃ skipped, (calls.map (·.1) ++ skipped).Perm (numberedFiles files) ∧
    (skipped = [] ∨ ∃ x e, (x, .error e) ∈ calls)
  result_eq : (∃ x e, (x, .error e) ∈ calls ∧ result = .error e) ∨
    ∃ made, made.map (·.1) = numberedFiles files ∧ calls.Perm (succeeded made) ∧
      result = .ok (made.map (·.2))

namespace Schedule

variable {σ α β ε : Type} {check : σ → α → Except ε β × σ} {files : List α}

theorem gathering_collect (t : Schedule) (check : σ → α → Except ε β × σ) (files : List α)
    (state : σ) :
    ∃ calls, Gathering check files state calls (t.checkAll check files state).1
        (t.checkAll check files state).2 ∧
      (t.checkAll check files state).1 = t.collect (calls.map numbered) := by
  obtain ⟨calls, skipped, hcalls, htrace, hperm, hnone⟩ := t.gather_trace check files.length
    (numberedFiles files) t.picks none state
  have hres : (t.checkAll check files state).1 = t.collect (calls.map numbered) :=
    congrArg t.collect hcalls
  refine ⟨calls, ?_, hres⟩
  rw [hres]
  by_cases herr : errorsIn (calls.map numbered) = []
  · have hskip := hnone rfl (by simp [numberedFiles]) (ok_of_no_errors herr)
    have hall := hperm
    rw [hskip, List.append_nil] at hall
    obtain ⟨made, hmade, hcm⟩ := exists_made (ok_of_no_errors herr) hall
    have hlt : (made.map (·.1)).Pairwise (·.1 < ·.1) := hmade ▸ numberedFiles_pairwise files
    exact ⟨htrace, ⟨skipped, hperm, .inl hskip⟩,
      .inr ⟨made, hmade, hcm, t.collect_of_perm hcm hlt⟩⟩
  · obtain ⟨e, he, hcollect⟩ := t.collect_of_errors herr
    obtain ⟨n, hn⟩ := mem_errorsIn.1 he
    obtain ⟨⟨x, answer⟩, hc, hx⟩ := List.mem_map.1 hn
    cases hx
    exact ⟨htrace, ⟨skipped, hperm, .inr ⟨x, e, hc⟩⟩, .inl ⟨x, e, hc, hcollect⟩⟩

theorem gathering (t : Schedule) (check : σ → α → Except ε β × σ) (files : List α) (state : σ) :
    ∃ calls, Gathering check files state calls (t.checkAll check files state).1
      (t.checkAll check files state).2 := by
  obtain ⟨calls, hgather, -⟩ := t.gathering_collect check files state
  exact ⟨calls, hgather⟩

def afterFailure : List ((Nat × α) × Except ε β) → Nat
  | [] => 0
  | (_, .error _) :: rest => rest.length
  | (_, .ok _) :: rest => afterFailure rest

/-- The budget is right for these checks: it is used up when they are made, or it comes to be so at the
first failure. -/
def Fits (t : Schedule) (skipped : List (Nat × α)) (calls : List ((Nat × α) × Except ε β)) :
    Option Nat → Prop
  | some more => more = calls.length
  | none => t.further = afterFailure calls ∧ (skipped = [] ∨ ∃ x e, (x, .error e) ∈ calls)

theorem Fits.next {t : Schedule} {skipped : List (Nat × α)}
    {calls : List ((Nat × α) × Except ε β)} {x : Nat × α} {answer : Except ε β}
    {budget : Option Nat} (h : t.Fits skipped ((x, answer) :: calls) budget) :
    t.Fits skipped calls (t.nextBudget budget answer) := by
  cases budget with
  | some more =>
    have hmore : more = calls.length + 1 := h
    rw [hmore]
    exact Nat.add_sub_cancel _ 1
  | none =>
    obtain ⟨hfurther, hskip⟩ := h
    cases answer with
    | error e => exact hfurther
    | ok b =>
      refine ⟨hfurther, hskip.imp_right ?_⟩
      rintro ⟨y, e, hy⟩
      rcases List.mem_cons.1 hy with hy | hy
      · cases hy
      · exact ⟨y, e, hy⟩

/-- Whatever order the checks are made in, some picks make them in that order. -/
theorem exists_picks {calls : List ((Nat × α) × Except ε β)} {state last : σ}
    {left skipped : List (Nat × α)} {fuel : Nat}
    (htrace : Trace check state (calls.map unnumbered) last)
    (hperm : (calls.map (·.1) ++ skipped).Perm left) (hfuel : calls.length ≤ fuel) :
    ∃ picks, ∀ (t : Schedule) (budget : Option Nat), t.Fits skipped calls budget →
      t.gather check fuel left picks budget state = (calls.map numbered, last) := by
  induction calls generalizing state left fuel with
  | nil =>
    cases htrace with
    | nil =>
      refine ⟨[], fun t budget hfits => ?_⟩
      cases budget with
      | some more =>
        cases hfits
        exact gather_spent t check fuel left [] _
      | none =>
        have hskip : skipped = [] := hfits.2.resolve_right nofun
        subst hskip
        cases hperm.nil_eq
        exact gather_nil t check fuel [] none _
  | cons c rest ih =>
    obtain ⟨x, answer⟩ := c
    obtain ⟨fuel, rfl⟩ := Nat.exists_eq_succ_of_ne_zero (Nat.ne_zero_of_lt hfuel)
    -- The pick is the place of the file among those that are left.
    obtain ⟨i, hi, hx⟩ := List.mem_iff_getElem.1 (hperm.mem_iff.1 List.mem_cons_self)
    have hrest : (rest.map (·.1) ++ skipped).Perm (left.eraseIdx i) := by
      have hpick := List.getElem_cons_eraseIdx_perm hi
      rw [hx] at hpick
      exact (hperm.trans hpick.symm).cons_inv
    obtain ⟨hanswer : answer = (check state x.2).1, htrace⟩ := htrace.cons_inv
    subst hanswer
    obtain ⟨picks, hpicks⟩ := ih htrace hrest (Nat.le_of_succ_le_succ hfuel)
    refine ⟨i :: picks, fun t budget hfits => ?_⟩
    have hb : budget ≠ some 0 := by
      rintro rfl
      cases hfits
    have hmod : (i :: picks).headD 0 % left.length = i := Nat.mod_eq_of_lt hi
    have hat : left[(i :: picks).headD 0 % left.length]? = some x := by
      rw [hmod, List.getElem?_eq_getElem hi, hx]
    rw [gather_pick t check hat hb, hmod, List.tail_cons, hpicks t _ hfits.next]
    rfl

end Schedule

namespace Gathering

open Schedule

variable {σ α β ε : Type} {check : σ → α → Except ε β × σ} {files : List α} {state last : σ}
  {calls : List ((Nat × α) × Except ε β)} {result : Except ε (List β)}

theorem length_le (h : Gathering check files state calls result last) :
    calls.length ≤ files.length := by
  obtain ⟨skipped, hperm, -⟩ := h.left_out
  have hlen := hperm.length_eq
  simp only [numberedFiles, List.length_append, List.length_map, List.length_zip,
    List.length_range, Nat.min_self] at hlen
  omega

theorem exists_schedule (h : Gathering check files state calls result last) :
    ∃ t : Schedule, t.checkAll check files state = (result, last) := by
  obtain ⟨skipped, hperm, hskip⟩ := h.left_out
  obtain ⟨kept, hkept⟩ : ∃ kept, ∀ t : Schedule, t.kept = kept →
      t.collect (calls.map numbered) = result := by
    rcases h.result_eq with ⟨x, e, hx, rfl⟩ | ⟨made, hmade, hcm, rfl⟩
    · exact exists_kept (mem_errorsIn.2 ⟨x.1, List.mem_map_of_mem hx⟩)
    · have hlt : (made.map (·.1)).Pairwise (·.1 < ·.1) := hmade ▸ numberedFiles_pairwise files
      exact ⟨0, fun t _ => t.collect_of_perm hcm hlt⟩
  obtain ⟨picks, hpicks⟩ := exists_picks h.trace hperm h.length_le
  refine ⟨⟨picks, afterFailure calls, kept⟩, ?_⟩
  have hgather := hpicks ⟨picks, afterFailure calls, kept⟩ none ⟨rfl, hskip⟩
  rw [checkAll]
  simp only [numberedFiles] at hgather
  simp only [hgather, hkept ⟨picks, afterFailure calls, kept⟩ rfl]

end Gathering

end SyntaxSweep
