import Mathlib.Data.Nat.Digits.Defs
import SyntaxSweep.Proofs.Check.NamedLine

namespace SyntaxSweep

def spelled (digits : List Char) : Nat :=
  Nat.ofDigits 10 (digits.map fun d => d.toNat - '0'.toNat).reverse

variable {digits : List Char}

theorem foldl_eq_spelled (digits : List Char) :
    digits.foldl (fun n d => n * 10 + (d.toNat - '0'.toNat)) 0 = spelled digits := by
  rw [spelled, Nat.ofDigits_eq_foldr, List.foldr_reverse, List.foldl_map]
  congr
  funext n d
  rw [Nat.add_comm, Nat.mul_comm]
  rfl

theorem lineNumber?_eq_some {line : Nat} : lineNumber? digits = some line ↔
    (∀ c ∈ digits, c.isDigit) ∧ spelled digits = line ∧ line < 2 ^ 32 := by
  rw [lineNumber?, foldl_eq_spelled]
  constructor
  · intro h
    split at h
    · next hall =>
      dsimp only at h
      split at h
      · next hlt =>
        obtain rfl := Option.some.inj h
        exact ⟨List.all_eq_true.1 hall, rfl, hlt⟩
      · cases h
    · cases h
  · rintro ⟨hall, rfl, hlt⟩
    rw [if_pos (List.all_eq_true.2 hall)]
    exact if_pos hlt

theorem isDigit_iff_ascii {c : Char} (h : Unicode.isDigit c) : c.isDigit ↔ c.toNat < 0x80 := by
  rw [Char.isDigit_iff_toNat]
  constructor
  · intro hdigit
    exact Nat.lt_of_le_of_lt hdigit.2 (by decide)
  · intro hascii
    obtain ⟨r, hr, hlow, hhigh⟩ := Unicode.inRanges_iff.1 h
    have honly : ∀ r ∈ Unicode.digitRanges, r.1 < 0x80 → r = (0x30, 0x39) := by decide
    obtain rfl := honly r hr (Nat.lt_of_le_of_lt hlow hascii)
    exact ⟨hlow, hhigh⟩

theorem NamesFirst.isDigit {inWord : Bool} {text : List Char} (h : NamesFirst inWord text digits) :
    ∀ c ∈ digits, Unicode.isDigit c := by
  obtain ⟨before, after, hnames, -⟩ := h
  exact hnames.all

/-- Either the output has no mark with digits behind it, and names no line, or the digits behind the first
such mark decide alone. -/
theorem namedLine?_of_first_mark (output : String) :
    (namedLine? output = none ∧
      ∀ before digits after, ¬Names false output.toList before digits after) ∨
    ∃ digits, NamesFirst false output.toList digits ∧
      ∀ line, namedLine? output = some line ↔
        (∀ c ∈ digits, c.toNat < 0x80) ∧ spelled digits = line ∧ line ≤ 2 ^ 32 - 1 := by
  have hnamed : namedLine? output = (foundDigits? false output.toList).bind lineNumber? := rfl
  cases hfound : foundDigits? false output.toList with
  | none =>
    refine .inl ⟨by rw [hnamed, hfound, Option.bind_none], fun before digits after hnames => ?_⟩
    obtain ⟨first, hfirst⟩ := found_of_names hnames
    cases hfound.symm.trans hfirst
  | some digits =>
    have hfirst := namesFirst_iff.2 hfound
    refine .inr ⟨digits, hfirst, fun line => ?_⟩
    have hascii : (∀ c ∈ digits, c.isDigit) ↔ ∀ c ∈ digits, c.toNat < 0x80 :=
      forall₂_congr fun c hc => isDigit_iff_ascii (hfirst.isDigit c hc)
    rw [hnamed, hfound, Option.bind_some, lineNumber?_eq_some, hascii, Nat.le_sub_one_iff_lt (by decide)]

example : namedLine? "upon line 3, on line x, on line 007" = some 7 ∧
    namedLine? "on line 4294967296 on line 7" = none := by
  decide +kernel

end SyntaxSweep
