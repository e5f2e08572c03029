import SyntaxSweep.Scan
import SyntaxSweep.Proofs.Path.Order
import Mathlib.Data.List.Induction

namespace SyntaxSweep

/-- Every file stands under its own key, and the keys are strictly in order. -/
structure Found.Sound (found : Found) : Prop where
  key_eq : ∀ e ∈ found, e.1 = e.2.key
  pairwise : found.Pairwise fun d e => keyBefore d.1 e.1

def Found.addAll (found : Found) (files : List Path) : Found :=
  files.foldl (fun f p => f.add p) found

def IsFirst (p : Path) (files : List Path) : Prop :=
  ∃ before after, files = before ++ p :: after ∧ ∀ q ∈ before, q.key ≠ p.key

theorem IsFirst.mem {p : Path} {files : List Path} (h : IsFirst p files) : p ∈ files := by
  obtain ⟨before, after, rfl, -⟩ := h
  simp

theorem IsFirst.of_append {p : Path} {l r : List Path} (h : IsFirst p (l ++ r)) :
    p ∈ l ∨ (IsFirst p r ∧ ∀ q ∈ l, q.key ≠ p.key) := by
  obtain ⟨before, after, he, hb⟩ := h
  rcases List.append_eq_append_iff.1 he with ⟨middle, rfl, hr⟩ | ⟨middle, hl, hr⟩
  · right
    exact ⟨⟨middle, after, hr, fun q hq => hb q (List.mem_append_right l hq)⟩,
      fun q hq => hb q (List.mem_append_left middle hq)⟩
  · cases middle with
    | nil =>
      right
      refine ⟨⟨[], after, hr.symm, by simp⟩, fun q hq => hb q ?_⟩
      simpa [hl] using hq
    | cons q middle =>
      left
      cases hr
      simp [hl]

theorem IsFirst.of_flatMap {α : Type} {g : α → List Path} {p : Path} {l : List α}
    (h : IsFirst p (l.flatMap g)) :
    ∃ before a after, l = before ++ a :: after ∧ p ∈ g a ∧ ∀ b ∈ before, ∀ q ∈ g b, q.key ≠ p.key := by
  induction l with
  | nil => cases h.mem
  | cons a rest ih =>
    rw [List.flatMap_cons] at h
    rcases h.of_append with hp | ⟨hr, hnew⟩
    · exact ⟨[], a, rest, rfl, hp, by simp⟩
    · obtain ⟨before, b, after, rfl, hp, hb⟩ := ih hr
      exact ⟨a :: before, b, after, rfl, hp, List.forall_mem_cons.2 ⟨hnew, hb⟩⟩

namespace Found

theorem Sound.empty : Sound [] :=
  ⟨by simp, .nil⟩

theorem Sound.tail {e : List Component × Path} {found : Found} (h : Sound (e :: found)) :
    Sound found :=
  ⟨fun d hd => h.key_eq d (List.mem_cons_of_mem e hd), (List.pairwise_cons.1 h.pairwise).2⟩

theorem mem_add {found : Found} (h : found.Sound) (p : Path) {e : List Component × Path} :
    e ∈ found.add p ↔ e ∈ found ∨ (e = (p.key, p) ∧ ∀ d ∈ found, d.1 ≠ p.key) := by
  induction found with
  | nil => simp [add]
  | cons d rest ih =>
    obtain ⟨k, q⟩ := d
    have hlt := (List.pairwise_cons.1 h.pairwise).1
    rw [add]
    split
    · next hk => simp [hk]
    · next hk =>
      split
      · next hb =>
        have hnone : ∀ d ∈ (k, q) :: rest, d.1 ≠ p.key := by
          intro d hd he
          rcases List.mem_cons.1 hd with rfl | hd
          · exact hk he.symm
          · exact keyBefore_irrefl _ (keyBefore_trans hb (he ▸ hlt d hd))
        rw [List.mem_cons, or_comm]
        exact or_congr_right ⟨fun he => ⟨he, hnone⟩, And.left⟩
      · rw [List.mem_cons, ih h.tail, List.mem_cons, or_assoc]
        simp only [List.forall_mem_cons]
        have hk' : k ≠ p.key := Ne.symm hk
        simp [hk']

theorem Sound.add {found : Found} (h : found.Sound) (p : Path) : (found.add p).Sound := by
  refine ⟨fun e he => ?_, ?_⟩
  · rcases (mem_add h p).1 he with he | ⟨rfl, -⟩
    · exact h.key_eq e he
    · rfl
  · induction found with
    | nil => simp [Found.add]
    | cons d rest ih =>
      obtain ⟨k, q⟩ := d
      obtain ⟨hlt, hrest⟩ := List.pairwise_cons.1 h.pairwise
      rw [Found.add]
      split
      · exact h.pairwise
      · next hk =>
        split
        · next hb =>
          refine List.pairwise_cons.2 ⟨List.forall_mem_cons.2 ⟨hb, fun e he => ?_⟩, h.pairwise⟩
          exact keyBefore_trans hb (hlt e he)
        · next hb =>
          refine List.pairwise_cons.2 ⟨fun e he => ?_, ih h.tail⟩
          rcases (mem_add h.tail p).1 he with he | ⟨rfl, -⟩
          · exact hlt e he
          · exact keyBefore_of_ne hk hb

theorem addAll_append (found : Found) (l r : List Path) :
    found.addAll (l ++ r) = (found.addAll l).addAll r :=
  List.foldl_append

theorem Sound.addAll {found : Found} (h : found.Sound) (files : List Path) :
    (found.addAll files).Sound := by
  induction files generalizing found with
  | nil => exact h
  | cons p rest ih => exact ih (h.add p)

theorem exists_key_addAll (files : List Path) (k : List Component) :
    (∃ e ∈ addAll [] files, e.1 = k) ↔ ∃ p ∈ files, p.key = k := by
  induction files using List.reverseRecOn with
  | nil => simp [addAll]
  | append_singleton l p ih =>
    have hs : (addAll [] l).Sound := Sound.empty.addAll l
    have hadd : addAll [] (l ++ [p]) = (addAll [] l).add p := addAll_append [] l [p]
    simp only [hadd, mem_add hs, List.mem_append, List.mem_singleton]
    constructor
    · rintro ⟨e, he | ⟨rfl, -⟩, rfl⟩
      · obtain ⟨q, hq, hk⟩ := ih.1 ⟨e, he, rfl⟩
        exact ⟨q, .inl hq, hk⟩
      · exact ⟨p, .inr rfl, rfl⟩
    · rintro ⟨q, hq | rfl, rfl⟩
      · obtain ⟨e, he, hk⟩ := ih.2 ⟨q, hq, rfl⟩
        exact ⟨e, .inl he, hk⟩
      · by_cases hk : ∀ d ∈ addAll [] l, d.1 ≠ q.key
        · exact ⟨(q.key, q), .inr ⟨rfl, hk⟩, rfl⟩
        · obtain ⟨d, hd, he⟩ := not_forall₂.1 hk
          exact ⟨d, .inl hd, not_not.1 he⟩

theorem mem_addAll (files : List Path) (p : Path) :
    p ∈ (addAll [] files).map (·.2) ↔ IsFirst p files := by
  -- From the end of the list: what comes last stays only if its key is new.
  induction files using List.reverseRecOn generalizing p with
  | nil => simp [addAll, IsFirst]
  | append_singleton l q ih =>
    have hs : (addAll [] l).Sound := Sound.empty.addAll l
    have hadd : addAll [] (l ++ [q]) = (addAll [] l).add q := addAll_append [] l [q]
    have hnew : (∀ d ∈ addAll [] l, d.1 ≠ q.key) ↔ ∀ r ∈ l, r.key ≠ q.key := by
      simpa only [not_exists, not_and] using not_congr (exists_key_addAll l q.key)
    have hmem : p ∈ (addAll [] (l ++ [q])).map (·.2) ↔
        p ∈ (addAll [] l).map (·.2) ∨ (p = q ∧ ∀ r ∈ l, r.key ≠ q.key) := by
      simp only [hadd, List.mem_map, mem_add hs, hnew]
      constructor
      · rintro ⟨e, he | ⟨rfl, hq⟩, rfl⟩
        · exact .inl ⟨e, he, rfl⟩
        · exact .inr ⟨rfl, hq⟩
      · rintro (⟨e, he, rfl⟩ | ⟨rfl, hq⟩)
        · exact ⟨e, .inl he, rfl⟩
        · exact ⟨_, .inr ⟨rfl, hq⟩, rfl⟩
    rw [hmem, ih]
    constructor
    · rintro (⟨before, after, rfl, hb⟩ | ⟨rfl, hq⟩)
      · exact ⟨before, after ++ [q], by simp, hb⟩
      · exact ⟨l, [], rfl, hq⟩
    · rintro ⟨before, after, he, hb⟩
      rcases List.eq_nil_or_concat after with rfl | ⟨after, r, rfl⟩
      · obtain ⟨rfl, hp⟩ := List.append_inj' he rfl
        cases hp
        exact .inr ⟨rfl, hb⟩
      · rw [List.concat_eq_append, ← List.cons_append, ← List.append_assoc] at he
        exact .inl ⟨before, after, (List.append_inj' he rfl).1, hb⟩

theorem add_of_after {found : Found} {p : Path} (h : ∀ e ∈ found, keyBefore e.1 p.key) :
    found.add p = found ++ [(p.key, p)] := by
  induction found with
  | nil => rfl
  | cons d rest ih =>
    obtain ⟨k, q⟩ := d
    have hk := h (k, q) List.mem_cons_self
    have hne : p.key ≠ k := fun he => keyBefore_irrefl k (he ▸ hk)
    have hnb : ¬ keyBefore p.key k := fun hb => keyBefore_irrefl k (keyBefore_trans hk hb)
    rw [add, if_neg hne, if_neg hnb, ih fun e he => h e (List.mem_cons_of_mem _ he)]
    rfl

/-- Files that come in the order of their keys all stay, in that order. -/
theorem addAll_of_pairwise {files : List Path}
    (h : files.Pairwise fun p q => keyBefore p.key q.key) :
    addAll [] files = files.map fun p => (p.key, p) := by
  induction files using List.reverseRecOn with
  | nil => rfl
  | append_singleton l p ih =>
    obtain ⟨hl, -, hlt⟩ := List.pairwise_append.1 h
    rw [addAll_append, ih hl, List.map_append]
    apply add_of_after
    intro e he
    obtain ⟨q, hq, rfl⟩ := List.mem_map.1 he
    exact hlt q hq p (List.mem_singleton_self p)

end Found

end SyntaxSweep
