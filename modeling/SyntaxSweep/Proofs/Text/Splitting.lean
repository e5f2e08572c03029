import SyntaxSweep.Text.Utf8
import SyntaxSweep.Text.Lines

namespace SyntaxSweep

section Joined

variable {α : Type} {s : α}

theorem joined_cons (p : List α) {l : List (List α)} (h : l ≠ []) :
    joined s (p :: l) = p ++ s :: joined s l := by
  cases l with
  | nil => exact absurd rfl h
  | cons q qs => rfl

theorem joined_append {l r : List (List α)} (hl : l ≠ []) (hr : r ≠ []) :
    joined s (l ++ r) = joined s l ++ s :: joined s r := by
  induction l with
  | nil => exact absurd rfl hl
  | cons p ps ih =>
    by_cases hps : ps = []
    · rw [hps]
      exact joined_cons p hr
    · rw [List.cons_append, joined_cons p (by simp [hps]), joined_cons p hps, ih hps,
        List.append_assoc]
      rfl

theorem joined_eq_intercalate (s : α) (l : List (List α)) : joined s l = [s].intercalate l := by
  induction l with
  | nil => rfl
  | cons p ps ih =>
    cases ps with
    | nil => exact List.intercalate_singleton.symm
    | cons q qs =>
      rw [joined_cons p (List.cons_ne_nil q qs), ih, List.intercalate_cons_cons, List.append_assoc]
      rfl

end Joined

section Pieces

variable {α : Type} [DecidableEq α] {s : α}

/-- What holds of a list without the separator, and holds with such a list and a separator put in
front of one of which it holds, holds of every list. -/
theorem induction_lines {P : List α → Prop}
    (last : ∀ l, s ∉ l → P l) (line : ∀ l r, s ∉ l → P r → P (l ++ s :: r)) (l : List α) : P l := by
  by_cases h : s ∈ l
  · obtain ⟨a, b, hl, ha⟩ := List.eq_append_cons_of_mem h
    rw [hl]
    exact line a b ha (induction_lines last line b)
  · exact last l h
termination_by l.length
decreasing_by simp [hl]; omega

theorem pieces_append_cons (l r : List α) : pieces s (l ++ s :: r) = pieces s l ++ pieces s r := by
  induction l with
  | nil => simp [pieces]
  | cons a l ih =>
    obtain ⟨p, ps, h⟩ := List.exists_cons_of_ne_nil (pieces_ne_nil s l)
    rw [h] at ih
    by_cases ha : a = s
    · simp only [List.cons_append, pieces, if_pos ha, ih, h]
    · simp only [List.cons_append, pieces, if_neg ha, ih, h]

theorem pieces_of_not_mem {l : List α} (h : s ∉ l) : pieces s l = [l] := by
  induction l with
  | nil => rfl
  | cons a l ih =>
    obtain ⟨ha, hl⟩ := not_or.1 (mt List.mem_cons.2 h)
    simp only [pieces, if_neg (Ne.symm ha), ih hl]

theorem pieces_joined {l : List (List α)} (hne : l ≠ []) (h : ∀ p ∈ l, s ∉ p) :
    pieces s (joined s l) = l := by
  induction l with
  | nil => exact absurd rfl hne
  | cons p ps ih =>
    have hp := pieces_of_not_mem (h p List.mem_cons_self)
    by_cases hps : ps = []
    · rw [hps]
      exact hp
    · rw [joined_cons p hps, pieces_append_cons, hp,
        ih hps fun q hq => h q (List.mem_cons_of_mem p hq)]
      rfl

theorem pieces_ended {l : List (List α)} (h : ∀ p ∈ l, s ∉ p) :
    pieces s (l.flatMap (· ++ [s])) = l ++ [[]] := by
  induction l with
  | nil => rfl
  | cons p ps ih =>
    obtain ⟨hp, hps⟩ := List.forall_mem_cons.1 h
    rw [List.flatMap_cons, List.append_assoc, List.singleton_append, pieces_append_cons,
      pieces_of_not_mem hp, ih hps]
    rfl

theorem pieces_concat (l : List α) {b : α} (hb : b ≠ s) :
    ∃ before p, pieces s (l ++ [b]) = before ++ [p ++ [b]] := by
  induction l with
  | nil => exact ⟨[], [], by simp [pieces, hb]⟩
  | cons a l ih =>
    obtain ⟨before, p, h⟩ := ih
    rw [List.cons_append, pieces, h]
    by_cases ha : a = s
    · exact ⟨[] :: before, p, if_pos ha⟩
    · rw [if_neg ha]
      cases before with
      | nil => exact ⟨[], a :: p, rfl⟩
      | cons q before => exact ⟨(a :: q) :: before, p, rfl⟩

end Pieces

theorem lines_ended {l : List (List Char)} (h : ∀ p ∈ l, '\n' ∉ p ∧ p.getLast? ≠ some '\r') :
    lines (l.flatMap (· ++ ['\n'])) = l := by
  have hpieces : pieces '\n' (l.flatMap (· ++ ['\n'])) = l ++ [[]] :=
    pieces_ended fun p hp => (h p hp).1
  have hself : l.map withoutReturn = l.map id :=
    List.map_congr_left fun p hp => if_neg (h p hp).2
  rw [lines, hpieces, List.dropLast_concat, hself, List.map_id, List.getLast?_concat]
  simp

namespace Utf8

/-- No octet of ASCII can go on with a character that a step has begun. -/
theorem low_of_step (state : Option Begun) (b : UInt8) : ∀ s ∈ (step state b).2, 0x80 ≤ s.low := by
  have hstart (s : Begun) (h : Start.ofOctet b = .begun s) : 0x80 ≤ s.low := by
    unfold Start.ofOctet at h
    grind
  intro s hs
  unfold step at hs
  grind

theorem scanFrom_append_ascii (state : Option Begun) (hs : ∀ s ∈ state, 0x80 ≤ s.low) (l r : Bytes)
    {b : UInt8} (hb : b.toNat < 0x80) :
    scanFrom state (l ++ b :: r) =
      scanFrom state l ++ some (Char.ofNat b.toNat) :: scanFrom none r := by
  induction l generalizing state with
  | nil =>
    rw [List.nil_append, scanFrom_cons, step_ascii state b hb hs]
    cases state <;> rfl
  | cons a l ih =>
    rw [List.cons_append, scanFrom_cons, scanFrom_cons, ih _ (low_of_step state a),
      List.append_assoc]

theorem decodeLossy_append_ascii (l r : Bytes) {b : UInt8} (hb : b.toNat < 0x80) :
    decodeLossy (l ++ b :: r) = decodeLossy l ++ Char.ofNat b.toNat :: decodeLossy r := by
  simp only [decodeLossy, scan]
  rw [scanFrom_append_ascii none (by simp) l r hb]
  simp

theorem decode?_append_ascii (l r : Bytes) {b : UInt8} (hb : b.toNat < 0x80) :
    decode? (l ++ b :: r) = do
      let before ← decode? l
      let after ← decode? r
      return before ++ Char.ofNat b.toNat :: after := by
  rw [decode?, scan, scanFrom_append_ascii none (by simp) l r hb, List.mapM_append, List.mapM_cons]
  simp [decode?, scan, Option.bind_assoc]

theorem scanFrom_ne_nil {state : Option Begun} {l : Bytes} (h : state ≠ none ∨ l ≠ []) :
    scanFrom state l ≠ [] := by
  induction l generalizing state with
  | nil =>
    cases state with
    | none => simp at h
    | some s => simp [scanFrom]
  | cons a l ih =>
    rw [scanFrom_cons]
    by_cases hn : (step state a).1 = []
    · rw [hn, List.nil_append]
      apply ih
      unfold step at hn ⊢
      grind
    · simp [hn]

theorem decodeLossy_ne_nil {l : Bytes} (h : l ≠ []) : decodeLossy l ≠ [] := by
  simp only [decodeLossy, scan, ne_eq, List.map_eq_nil_iff]
  exact scanFrom_ne_nil (.inr h)

end Utf8

end SyntaxSweep
