import SyntaxSweep.Text.Blank
import Mathlib.Data.List.TakeWhile

namespace SyntaxSweep.Text

variable {text : List Char}

/-- No white space at either end. -/
structure IsUnpadded (text : List Char) : Prop where
  head : ∀ c ∈ text.head?, isBlank c = false
  last : ∀ c ∈ text.getLast?, isBlank c = false

theorem takeWhile_of_head? {p : Char → Bool} (h : ∀ c ∈ text.head?, p c = false) :
    text.takeWhile p = [] := by
  cases text with
  | nil => rfl
  | cons c rest => exact List.takeWhile_cons_of_neg (by simp [h c rfl])

theorem trimStart_eq_self (h : ∀ c ∈ text.head?, isBlank c = false) : trimStart text = text := by
  cases text with
  | nil => rfl
  | cons c rest => exact List.dropWhile_cons_of_neg (by simp [h c rfl])

theorem trim_eq_self (h : IsUnpadded text) : trim text = text := by
  have hlast : trimStart text.reverse = text.reverse := by
    apply trimStart_eq_self
    rw [List.head?_reverse]
    exact h.last
  rw [trim, trimStart_eq_self h.head, trimEnd, hlast, List.reverse_reverse]

theorem trim_eq_nil_iff : trim text = [] ↔ ∀ c ∈ text, isBlank c := by
  rw [trim, trimEnd, List.reverse_eq_nil_iff, trimStart, List.dropWhile_eq_nil_iff]
  simp only [List.mem_reverse, trimStart]
  constructor
  · intro h
    by_contra hnot
    have hne : text.dropWhile isBlank ≠ [] := fun hnil => hnot (List.dropWhile_eq_nil_iff.1 hnil)
    have hhead := List.head_dropWhile_not isBlank hne
    rw [h _ (List.head_mem hne)] at hhead
    cases hhead
  · intro h c hc
    exact h c (List.dropWhile_subset _ hc)

end SyntaxSweep.Text
