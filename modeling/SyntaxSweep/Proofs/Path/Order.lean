import SyntaxSweep.Path.Basic
import Mathlib.Data.List.Lex

namespace SyntaxSweep

namespace Component

theorem before_iff {a b : Component} :
    a.before b ↔ a.rank < b.rank ∨ ∃ m n, a = .name m ∧ b = .name n ∧ m < n := by
  cases a <;> cases b <;> simp [before, rank]

theorem before_irrefl (a : Component) : ¬ a.before a := by
  rw [before_iff]
  rintro (h | ⟨m, n, rfl, hn, h⟩)
  · exact Nat.lt_irrefl _ h
  · cases hn
    exact List.lt_irrefl m h

theorem before_trans {a b c : Component} (hab : a.before b) (hbc : b.before c) : a.before c := by
  rw [before_iff] at *
  rcases hab with hab | ⟨l, m, rfl, rfl, hab⟩
  · rcases hbc with hbc | ⟨m, n, rfl, rfl, -⟩
    · exact .inl (Nat.lt_trans hab hbc)
    · exact .inl hab
  · rcases hbc with hbc | ⟨m, n, hm, rfl, hbc⟩
    · exact .inl hbc
    · cases hm
      exact .inr ⟨l, n, rfl, rfl, List.lt_trans hab hbc⟩

theorem eq_of_not_before {a b : Component} (hab : ¬ a.before b) (hba : ¬ b.before a) : a = b := by
  cases a <;> cases b <;> simp [before_iff, rank] at hab hba ⊢
  exact List.le_antisymm hba hab

end Component

theorem keyBefore_iff {k l : List Component} :
    keyBefore k l ↔ List.Lex (fun a b => a.before b) k l := by
  induction k generalizing l with
  | nil => cases l <;> simp [keyBefore]
  | cons a as ih =>
    cases l with
    | nil => simp [keyBefore]
    | cons b bs => simp [keyBefore, List.cons_lex_cons_iff, ih]

theorem keyBefore_irrefl (k : List Component) : ¬ keyBefore k k := by
  rw [keyBefore_iff]
  exact List.lex_irrefl Component.before_irrefl k

theorem ne_of_keyBefore {k l : List Component} (h : keyBefore k l) : k ≠ l := by
  rintro rfl
  exact keyBefore_irrefl k h

theorem keyBefore_trans {k l m : List Component} (hkl : keyBefore k l) (hlm : keyBefore l m) :
    keyBefore k m := by
  rw [keyBefore_iff] at *
  exact List.lex_trans Component.before_trans hkl hlm

theorem keyBefore_of_ne {k l : List Component} (hne : k ≠ l) (h : ¬ keyBefore k l) :
    keyBefore l k := by
  have : Std.Trichotomous fun a b : Component => (a.before b : Prop) :=
    ⟨fun _ _ => Component.eq_of_not_before⟩
  rw [keyBefore_iff] at *
  exact ((trichotomous_of _ k l).resolve_left h).resolve_left hne

theorem keyBefore_append_left (k : List Component) {l m : List Component} (h : keyBefore l m) :
    keyBefore (k ++ l) (k ++ m) := by
  rw [keyBefore_iff] at *
  exact List.Lex.append_left _ h k

theorem keyBefore_names {l m : List Bytes} (h : List.Lex (· < ·) l m) :
    keyBefore (l.map .name) (m.map .name) := by
  induction h with
  | nil => rfl
  | cons _ ih => simp [keyBefore, ih]
  | rel h => simp [keyBefore, Component.before, h]

theorem nodup_keys {files : List Path} (h : files.Pairwise fun p q => keyBefore p.key q.key) :
    (files.map Path.key).Nodup := by
  rw [List.Nodup, List.pairwise_map]
  exact h.imp ne_of_keyBefore

end SyntaxSweep
