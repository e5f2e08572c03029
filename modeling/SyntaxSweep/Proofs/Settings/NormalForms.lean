import Mathlib.Data.List.Forall2
import Mathlib.Data.String.Basic
import SyntaxSweep.Settings.Basic

namespace SyntaxSweep

theorem eq_of_pairwise {α : Type} {before : α → α → Prop} {k l : List α}
    (hasymm : ∀ a b, before a b → ¬before b a) (hk : k.Pairwise before) (hl : l.Pairwise before)
    (hmem : ∀ a, a ∈ k ↔ a ∈ l) : k = l := by
  have hnodup {m : List α} (hm : m.Pairwise before) : m.Nodup := by
    refine hm.imp fun {a b} hab => ?_
    rintro rfl
    exact hasymm a a hab hab
  have hperm := (List.perm_ext_iff_of_nodup (hnodup hk) (hnodup hl)).2 hmem
  exact hperm.eq_of_pairwise (fun a b _ _ hab hba => absurd hba (hasymm a b hab)) hk hl

section Sorted

variable {t u : String} {l texts : List String}

theorem mem_insertText : u ∈ insertText t l ↔ u = t ∨ u ∈ l := by
  induction l with
  | nil => simp [insertText]
  | cons v rest ih =>
    rw [insertText]
    split
    · exact List.mem_cons
    · split
      · next heq =>
        subst heq
        simp
      · rw [List.mem_cons, ih, List.mem_cons, or_left_comm]

theorem pairwise_insertText (t : String) (h : l.Pairwise (· < ·)) :
    (insertText t l).Pairwise (· < ·) := by
  induction l with
  | nil => exact List.pairwise_singleton _ t
  | cons v rest ih =>
    obtain ⟨hfirst, hrest⟩ := List.pairwise_cons.1 h
    rw [insertText]
    split
    · next hlt =>
      refine List.pairwise_cons.2 ⟨fun u hu => ?_, h⟩
      obtain rfl | hu := List.mem_cons.1 hu
      · exact hlt
      · exact lt_trans hlt (hfirst u hu)
    · next hnot =>
      split
      · exact h
      · next hne =>
        refine List.pairwise_cons.2 ⟨fun u hu => ?_, ih hrest⟩
        obtain rfl | hu := mem_insertText.1 hu
        · exact lt_of_le_of_ne (not_lt.1 hnot) (Ne.symm hne)
        · exact hfirst u hu

theorem mem_sortedTexts : t ∈ sortedTexts l ↔ t ∈ l := by
  induction l with
  | nil => rfl
  | cons u rest ih =>
    change t ∈ insertText u (sortedTexts rest) ↔ _
    rw [mem_insertText, ih, List.mem_cons]

theorem pairwise_sortedTexts (l : List String) : (sortedTexts l).Pairwise (· < ·) := by
  induction l with
  | nil => exact .nil
  | cons t rest ih => exact pairwise_insertText t ih

theorem eq_sortedTexts (h : texts.Pairwise (· < ·)) (hmem : ∀ t, t ∈ texts ↔ t ∈ l) :
    texts = sortedTexts l :=
  eq_of_pairwise (fun _ _ => lt_asymm) h (pairwise_sortedTexts l)
    fun t => (hmem t).trans mem_sortedTexts.symm

end Sorted

section Firsts

variable {α : Type} [DecidableEq α] {a b : α} {l firsts : List α}

theorem mem_firstOccurrences : a ∈ firstOccurrences l ↔ a ∈ l := by
  induction l with
  | nil => rfl
  | cons b rest ih =>
    by_cases h : a = b
    · simp [firstOccurrences, h]
    · simp [firstOccurrences, h, ih]

theorem pairwise_firstOccurrences (l : List α) :
    (firstOccurrences l).Pairwise fun a b => l.idxOf a < l.idxOf b := by
  induction l with
  | nil => exact .nil
  | cons c rest ih =>
    have hafter {a : α} (ha : a ≠ c) : (c :: rest).idxOf a = rest.idxOf a + 1 :=
      List.idxOf_cons_ne rest (Ne.symm ha)
    rw [firstOccurrences]
    refine List.pairwise_cons.2 ⟨fun a ha => ?_, ?_⟩
    · have hne : a ≠ c := of_decide_eq_true (List.mem_filter.1 ha).2
      rw [List.idxOf_cons_self, hafter hne]
      exact Nat.succ_pos _
    · refine (ih.filter _).imp_of_mem fun {a b} ha hb hab => ?_
      have hane : a ≠ c := of_decide_eq_true (List.mem_filter.1 ha).2
      have hbne : b ≠ c := of_decide_eq_true (List.mem_filter.1 hb).2
      rw [hafter hane, hafter hbne]
      exact Nat.succ_lt_succ hab

theorem eq_firstOccurrences (h : firsts.Pairwise fun a b => l.idxOf a < l.idxOf b)
    (hmem : ∀ a, a ∈ firsts ↔ a ∈ l) : firsts = firstOccurrences l :=
  eq_of_pairwise (fun _ _ => Nat.lt_asymm) h (pairwise_firstOccurrences l)
    fun a => (hmem a).trans mem_firstOccurrences.symm

theorem nodup_firstOccurrences (l : List α) : (firstOccurrences l).Nodup := by
  refine (pairwise_firstOccurrences l).imp fun {a b} hab => ?_
  rintro rfl
  exact Nat.lt_irrefl _ hab

theorem sublist_firstOccurrences (l : List α) : (firstOccurrences l).Sublist l := by
  induction l with
  | nil => exact .slnil
  | cons a rest ih => exact (List.filter_sublist.trans ih).cons_cons a

theorem firstOccurrences_of_nodup (h : l.Nodup) : firstOccurrences l = l := by
  induction l with
  | nil => rfl
  | cons a rest ih =>
    obtain ⟨ha, hrest⟩ := List.nodup_cons.1 h
    rw [firstOccurrences, ih hrest, List.filter_eq_self.2]
    intro b hb
    exact decide_eq_true (ne_of_mem_of_not_mem hb ha)

theorem firstOccurrences_map_eq_self (h : l.Nodup) {f : α → α} :
    firstOccurrences (l.map f) = l ↔ ∀ a ∈ l, f a = a := by
  constructor
  · intro heq
    have hkept := (sublist_firstOccurrences (l.map f)).eq_of_length (by rw [heq, List.length_map])
    have hmap : l.map f = l.map id := by rw [← hkept, heq, List.map_id]
    exact List.map_inj_left.1 hmap
  · intro hself
    rw [List.map_congr_left hself, List.map_id', firstOccurrences_of_nodup h]

end Firsts

section Points

variable {e t : String}

/-- Is the text less one point before it, if there is one. -/
def LosesPoint (e t : String) : Prop :=
  e = "." ++ t ∨ e = t ∧ e.toList.head? ≠ some '.'

theorem withoutPoint_point (t : String) : withoutPoint ("." ++ t) = t := by
  rw [withoutPoint, String.toList_append]
  exact String.ofList_toList

theorem withoutPoint_of_ne (h : e.toList.head? ≠ some '.') : withoutPoint e = e := by
  rw [withoutPoint]
  split
  · next heq => exact absurd (congrArg List.head? heq) h
  · rfl

theorem eq_point_of_head? (h : e.toList.head? = some '.') : e = "." ++ withoutPoint e := by
  obtain ⟨rest, hrest⟩ := List.head?_eq_some_iff.1 h
  have hwithout : withoutPoint e = String.ofList rest := by simp only [withoutPoint, hrest]
  apply String.toList_injective
  rw [String.toList_append, hwithout, String.toList_ofList, hrest]
  simp

theorem losesPoint_iff : LosesPoint e t ↔ withoutPoint e = t := by
  constructor
  · rintro (rfl | ⟨rfl, h⟩)
    · exact withoutPoint_point t
    · exact withoutPoint_of_ne h
  · rintro rfl
    by_cases h : e.toList.head? = some '.'
    · exact .inl (eq_point_of_head? h)
    · exact .inr ⟨(withoutPoint_of_ne h).symm, h⟩

theorem withoutPoint_eq_self : withoutPoint e = e ↔ e.toList.head? ≠ some '.' := by
  refine ⟨fun heq h => ?_, withoutPoint_of_ne⟩
  have hlength := congrArg (List.length ∘ String.toList) (eq_point_of_head? h)
  simp [heq] at hlength

theorem head?_withoutPoint :
    (withoutPoint e).toList.head? = some '.' ↔ ['.', '.'] <+: e.toList := by
  by_cases h : e.toList.head? = some '.'
  · rw [eq_point_of_head? h, withoutPoint_point, String.toList_append]
    cases (withoutPoint e).toList <;> simp [eq_comm]
  · rw [withoutPoint_of_ne h]
    refine ⟨fun hpoint => absurd hpoint h, ?_⟩
    rintro ⟨rest, hrest⟩
    exact absurd (hrest ▸ rfl) h

theorem forall₂_losesPoint {l bare : List String} :
    List.Forall₂ LosesPoint l bare ↔ bare = l.map withoutPoint := by
  have hrel : LosesPoint = fun e t => withoutPoint e = t :=
    funext₂ fun e t => propext losesPoint_iff
  rw [hrel, ← List.forall₂_map_left_iff, List.forall₂_eq_eq_eq, eq_comm]

theorem withoutPoint_eq_empty : withoutPoint e = "" ↔ e = "" ∨ e = "." := by
  rw [← losesPoint_iff, LosesPoint, or_comm]
  refine or_congr ⟨And.left, ?_⟩ Iff.rfl
  rintro rfl
  exact ⟨rfl, nofun⟩

theorem empty_mem_map_withoutPoint {l : List String} :
    "" ∈ l.map withoutPoint ↔ "" ∈ l ∨ "." ∈ l := by
  simp only [List.mem_map, withoutPoint_eq_empty, and_or_left, exists_or, exists_eq_right]

end Points

end SyntaxSweep
