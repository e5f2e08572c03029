import Mathlib.Tactic.ByContra
import SyntaxSweep.Proofs.Text.Utf8

namespace SyntaxSweep.Utf8

def Begins (octets : Bytes) : Prop :=
  ∃ c, octets <+: String.utf8EncodeChar c

/-- Octets where no character stands, taken as far as one could have gone. -/
structure Spoiled (piece rest : Bytes) : Prop where
  ne_nil : piece ≠ []
  no_char : ∀ c, ¬String.utf8EncodeChar c <+: piece ++ rest
  begins : Begins piece ∨ piece.length = 1
  longest : ∀ more, more <+: piece ++ rest → Begins more → more.length ≤ piece.length

inductive ReadAs : Bytes → List Char → Prop
  | nil : ReadAs [] []
  | char (c : Char) {rest : Bytes} {text : List Char} (hrest : ReadAs rest text) :
      ReadAs (String.utf8EncodeChar c ++ rest) (c :: text)
  | spoiled {piece rest : Bytes} {text : List Char} (hpiece : Spoiled piece rest)
      (hrest : ReadAs rest text) : ReadAs (piece ++ rest) ('\ufffd' :: text)

section Spoiled

variable {piece rest piece' rest' : Bytes}

/-- A piece is spoiled if reading finds no character at its start, whatever follows the octet that
stands behind it. -/
theorem spoiled_of_scan (hne : piece ≠ []) (hbegins : Begins piece ∨ piece.length = 1)
    (hscan : ∀ more, more.head? = rest.head? →
      ∃ pieces, scanFrom none (piece ++ more) = none :: pieces) : Spoiled piece rest := by
  refine ⟨hne, ?_, hbegins, ?_⟩
  · rintro c ⟨after, hafter⟩
    obtain ⟨pieces, hpieces⟩ := hscan rest rfl
    rw [← hafter, scan_encodeChar] at hpieces
    cases hpieces
  · rintro more hmore ⟨c, hc⟩
    by_contra hlonger
    obtain ⟨longer, rfl⟩ := List.prefix_of_prefix_length_le (List.prefix_append piece rest) hmore
      (Nat.le_of_not_le hlonger)
    obtain ⟨b, longer, rfl⟩ := List.exists_cons_of_ne_nil (l := longer) (by rintro rfl; simp at hlonger)
    obtain ⟨after, rfl⟩ := (List.prefix_append_right_inj piece).1 hmore
    obtain ⟨before, hbefore⟩ := hc
    obtain ⟨pieces, hpieces⟩ := hscan (b :: longer ++ before) rfl
    rw [← List.append_assoc, hbefore, ← List.append_nil (String.utf8EncodeChar c),
      scan_encodeChar] at hpieces
    cases hpieces

theorem Spoiled.length_le (h : Spoiled piece rest) (h' : Spoiled piece' rest')
    (heq : piece ++ rest = piece' ++ rest') : piece.length ≤ piece'.length := by
  obtain hbegins | hone := h.begins
  · exact h'.longest piece (heq ▸ List.prefix_append piece rest) hbegins
  · rw [hone]
    exact List.length_pos_iff.2 h'.ne_nil

theorem Spoiled.unique (h : Spoiled piece rest) (h' : Spoiled piece' rest')
    (heq : piece ++ rest = piece' ++ rest') : piece = piece' ∧ rest = rest' :=
  List.append_inj heq (Nat.le_antisymm (h.length_le h' heq) (h'.length_le h heq.symm))

end Spoiled

/-- Behind these octets a character is open, and nothing has been read of them yet. -/
structure LeavesOpen (piece : Bytes) (s : Begun) : Prop where
  scan_eq : ∀ more, scanFrom none (piece ++ more) = scanFrom (some s) more
  low_le : s.low ≤ s.high
  high_lt : s.high < 0x100

def Splits (octets : Bytes) : Prop :=
  (∃ c rest, octets = String.utf8EncodeChar c ++ rest ∧
    scanFrom none octets = some c :: scanFrom none rest) ∨
  ∃ piece rest, octets = piece ++ rest ∧ Spoiled piece rest ∧
    scanFrom none octets = none :: scanFrom none rest

section Open

variable {piece rest : Bytes} {s : Begun} {b : UInt8} {k : Nat}

theorem leavesOpen_of_first (h : Start.ofOctet b = .begun s) : LeavesOpen [b] s := by
  have hbounds : s.low ≤ s.high ∧ s.high < 0x100 := by
    unfold Start.ofOctet at h
    grind
  exact ⟨scanFrom_first h, hbounds.1, hbounds.2⟩

theorem LeavesOpen.ne_nil (h : LeavesOpen piece s) : piece ≠ [] := by
  rintro rfl
  cases h.scan_eq []

theorem LeavesOpen.next (h : LeavesOpen piece s) (hs : s.owed = k + 1) (hlow : s.low ≤ b.toNat)
    (hhigh : b.toNat ≤ s.high) :
    LeavesOpen (piece ++ [b]) ⟨s.number * 64 + (b.toNat - 0x80), k, 0x80, 0xBF⟩ := by
  refine ⟨fun more => ?_, Nat.le_of_ble_eq_true rfl, Nat.le_of_ble_eq_true rfl⟩
  rw [List.append_assoc, h.scan_eq, List.singleton_append, scanFrom_next hs hlow hhigh]

theorem splits_of_some {octets : Bytes} {c : Char} {pieces : List (Option Char)}
    (h : scanFrom none octets = some c :: pieces) : Splits octets := by
  obtain ⟨rest, rfl, rfl⟩ := eq_encodeChar_of_scan h
  exact .inl ⟨c, rest, rfl, h⟩

theorem LeavesOpen.exists_octet (h : LeavesOpen piece s) :
    ∃ b : UInt8, s.low ≤ b.toNat ∧ b.toNat ≤ s.high := by
  have hlow : (UInt8.ofNat s.low).toNat = s.low :=
    UInt8.toNat_ofNat_of_lt' (Nat.lt_of_le_of_lt h.low_le h.high_lt)
  exact ⟨UInt8.ofNat s.low, Nat.le_of_eq hlow.symm, Nat.le_trans (Nat.le_of_eq hlow) h.low_le⟩

theorem LeavesOpen.begins (h : LeavesOpen piece s) : Begins piece := by
  obtain ⟨b, hlow, hhigh⟩ := h.exists_octet
  obtain ⟨number, owed, low, high⟩ := s
  induction owed generalizing piece number low high b with
  | zero =>
    have hscan := (h.scan_eq [b]).trans (scanFrom_last rfl hlow hhigh rfl [])
    obtain ⟨rest, hrest, hnil⟩ := eq_encodeChar_of_scan hscan
    obtain rfl : rest = [] := by
      by_contra hne
      exact scanFrom_ne_nil (.inr hne) hnil
    rw [List.append_nil] at hrest
    exact ⟨_, hrest ▸ List.prefix_append piece [b]⟩
  | succ k ih =>
    have hnext := h.next rfl hlow hhigh
    obtain ⟨next, hnextLow, hnextHigh⟩ := hnext.exists_octet
    obtain ⟨c, hc⟩ := ih next _ _ _ hnext hnextLow hnextHigh
    exact ⟨c, (List.prefix_append piece [b]).trans hc⟩

theorem LeavesOpen.scan_spoiled (h : LeavesOpen piece s)
    (hrest : ∀ b ∈ rest.head?, ¬(s.low ≤ b.toNat ∧ b.toNat ≤ s.high)) :
    scanFrom none (piece ++ rest) = none :: scanFrom none rest := by
  rw [h.scan_eq]
  cases rest with
  | nil => rfl
  | cons b rest => simp [scanFrom_cons, step, hrest b rfl]

theorem LeavesOpen.splits_of_stop (h : LeavesOpen piece s)
    (hrest : ∀ b ∈ rest.head?, ¬(s.low ≤ b.toNat ∧ b.toNat ≤ s.high)) :
    Splits (piece ++ rest) := by
  have hspoiled : Spoiled piece rest :=
    spoiled_of_scan h.ne_nil (.inl h.begins) fun more hmore =>
      ⟨_, h.scan_spoiled (hmore ▸ hrest)⟩
  exact .inr ⟨piece, rest, rfl, hspoiled, h.scan_spoiled hrest⟩

theorem LeavesOpen.splits (h : LeavesOpen piece s) (rest : Bytes) : Splits (piece ++ rest) := by
  obtain ⟨number, owed, low, high⟩ := s
  induction owed generalizing piece number low high rest with
  | zero =>
    cases rest with
    | nil => exact h.splits_of_stop (by simp)
    | cons b rest =>
      by_cases hb : low ≤ b.toNat ∧ b.toNat ≤ high
      · exact splits_of_some ((h.scan_eq _).trans (scanFrom_last rfl hb.1 hb.2 rfl rest))
      · exact h.splits_of_stop (by simpa using hb)
  | succ k ih =>
    cases rest with
    | nil => exact h.splits_of_stop (by simp)
    | cons b rest =>
      by_cases hb : low ≤ b.toNat ∧ b.toNat ≤ high
      · have hnext := ih rest _ _ _ (h.next rfl hb.1 hb.2)
        rwa [List.append_assoc] at hnext
      · exact h.splits_of_stop (by simpa using hb)

theorem splits_of_ne_nil {octets : Bytes} (hne : octets ≠ []) : Splits octets := by
  obtain ⟨b, rest, rfl⟩ := List.exists_cons_of_ne_nil hne
  cases hb : Start.ofOctet b with
  | whole c => exact splits_of_some (scanFrom_whole hb rest)
  | begun s => exact (leavesOpen_of_first hb).splits rest
  | stray =>
    have hscan (more : Bytes) : scanFrom none ([b] ++ more) = none :: scanFrom none more := by
      simp [scanFrom_cons, step, hb]
    have hspoiled : Spoiled [b] rest :=
      spoiled_of_scan (List.cons_ne_nil b []) (.inr rfl) fun more _ => ⟨_, hscan more⟩
    exact .inr ⟨[b], rest, rfl, hspoiled, hscan rest⟩

end Open

theorem readAs_decodeLossy (octets : Bytes) : ReadAs octets (decodeLossy octets) := by
  by_cases hne : octets = []
  · rw [hne]
    exact .nil
  · obtain ⟨c, rest, heq, hscan⟩ | ⟨piece, rest, heq, hpiece, hscan⟩ := splits_of_ne_nil hne
    · have hshorter : rest.length < octets.length := by
        rw [heq, List.length_append, String.length_utf8EncodeChar]
        exact Nat.lt_add_of_pos_left c.utf8Size_pos
      rw [decodeLossy, scan, hscan, heq]
      exact .char c (readAs_decodeLossy rest)
    · have hshorter : rest.length < octets.length := by
        rw [heq, List.length_append]
        exact Nat.lt_add_of_pos_left (List.length_pos_iff.2 hpiece.ne_nil)
      rw [decodeLossy, scan, hscan, heq]
      exact .spoiled hpiece (readAs_decodeLossy rest)
termination_by octets.length

theorem readAs_iff {octets : Bytes} {text : List Char} :
    ReadAs octets text ↔ decodeLossy octets = text := by
  refine ⟨fun h => ?_, fun h => h ▸ readAs_decodeLossy octets⟩
  induction h with
  | nil => rfl
  | char c _ ih => rw [decodeLossy, scan, scan_encodeChar, ← ih]; rfl
  | @spoiled piece rest text hpiece _ ih =>
    have hne : piece ++ rest ≠ [] := List.append_ne_nil_of_left_ne_nil hpiece.ne_nil rest
    obtain ⟨c, after, hafter, -⟩ | ⟨piece', rest', heq, hpiece', hscan⟩ := splits_of_ne_nil hne
    · exact absurd ⟨after, hafter.symm⟩ (hpiece.no_char c)
    · obtain ⟨-, rfl⟩ := hpiece.unique hpiece' heq
      rw [decodeLossy, scan, hscan, ← ih]
      rfl

/-- A character of ASCII is read only from its own octet. -/
theorem mem_of_mem_decodeLossy {octets : Bytes} {c : Char} (hc : c.toNat < 0x80)
    (h : c ∈ decodeLossy octets) : UInt8.ofNat c.toNat ∈ octets := by
  have hread := readAs_decodeLossy octets
  generalize decodeLossy octets = text at h hread
  induction hread with
  | nil => cases h
  | char d _ ih =>
    obtain rfl | h := List.mem_cons.1 h
    · have hone := encodeChar_ofNat (v := c.toNat) (.inl (by omega))
      rw [Char.ofNat_toNat, if_pos hc] at hone
      exact List.mem_append_left _ (hone ▸ List.mem_singleton_self _)
    · exact List.mem_append_right _ (ih h)
  | spoiled _ _ ih =>
    obtain rfl | h := List.mem_cons.1 h
    · exact absurd hc (by decide)
    · exact List.mem_append_right _ (ih h)

end SyntaxSweep.Utf8
