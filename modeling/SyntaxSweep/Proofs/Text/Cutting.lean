import SyntaxSweep.Proofs.Text.Utf8

namespace SyntaxSweep.Utf8

theorem exists_encodeChar (c : Char) : ∃ b more, String.utf8EncodeChar c = b :: more ∧
    goesOn b = false ∧ ∀ m ∈ more, goesOn m = true := by
  have hoctets := encodeChar_ofNat (v := c.toNat) c.valid
  rw [Char.ofNat_toNat] at hoctets
  have hlt : c.toNat < 0x110000 := c.valid.elim (fun h => Nat.lt_trans h (by decide)) And.right
  have htoNat {k : Nat} (hk : k < 256) : (UInt8.ofNat k).toNat = k := UInt8.toNat_ofNat_of_lt' hk
  have hfirst {k : Nat} (hk : k < 0x80 ∨ 0xC0 ≤ k ∧ k < 256) : goesOn (UInt8.ofNat k) = false := by
    simp only [goesOn, Bool.and_eq_false_iff, decide_eq_false_iff_not, htoNat (show k < 256 by omega)]
    omega
  have hnext (k : Nat) : goesOn (UInt8.ofNat (k % 64 + 0x80)) = true := by
    simp only [goesOn, Bool.and_eq_true, decide_eq_true_iff, htoNat (show k % 64 + 0x80 < 256 by omega)]
    omega
  have hend : ∀ m ∈ ([] : Bytes), goesOn m = true := List.forall_mem_nil _
  rw [hoctets]
  split
  · exact ⟨_, _, rfl, hfirst (by omega), hend⟩
  · split
    · exact ⟨_, _, rfl, hfirst (by omega), List.forall_mem_cons.2 ⟨hnext _, hend⟩⟩
    · have htwo (k l : Nat) :
          ∀ m ∈ [UInt8.ofNat (k % 64 + 0x80), UInt8.ofNat (l % 64 + 0x80)], goesOn m = true :=
        List.forall_mem_cons.2 ⟨hnext k, List.forall_mem_cons.2 ⟨hnext l, hend⟩⟩
      split
      · exact ⟨_, _, rfl, hfirst (by omega), htwo _ _⟩
      · exact ⟨_, _, rfl, hfirst (by omega), List.forall_mem_cons.2 ⟨hnext _, htwo _ _⟩⟩

theorem encode_cons (c : Char) (text : List Char) :
    encode (c :: text) = String.utf8EncodeChar c ++ encode text :=
  List.flatMap_cons

theorem encode_inj {a b : List Char} (h : encode a = encode b) : a = b := by
  have hdecode := congrArg decode? h
  rw [decode?_encode, decode?_encode] at hdecode
  exact Option.some.inj hdecode

theorem goesOn_head (text : List Char) : ∀ b ∈ (encode text).head?, goesOn b = false := by
  cases text with
  | nil => exact fun b hb => by cases hb
  | cons c text =>
    obtain ⟨first, others, hc, hfirst, -⟩ := exists_encodeChar c
    rw [encode_cons, hc, List.cons_append]
    rintro b ⟨⟩
    exact hfirst

/-- Octets of a text that end in some which go on with no character split the text. -/
theorem exists_split {text : List Char} {lead last : Bytes} (h : encode text = lead ++ last)
    (hlast : ∀ b ∈ last.head?, goesOn b = false) :
    ∃ before after, text = before ++ after ∧ lead = encode before ∧ last = encode after := by
  induction text generalizing lead with
  | nil =>
    obtain ⟨rfl, rfl⟩ := List.append_eq_nil_iff.1 h.symm
    exact ⟨[], [], rfl, rfl, rfl⟩
  | cons c text ih =>
    rw [encode_cons] at h
    obtain ⟨more, hlead, hmore⟩ | ⟨more, hchar, hmore⟩ := List.append_eq_append_iff.1 h
    · obtain ⟨before, after, rfl, rfl, rfl⟩ := ih hmore
      exact ⟨c :: before, after, rfl, hlead, rfl⟩
    · cases lead with
      | nil => exact ⟨[], c :: text, rfl, rfl, by rw [encode_cons, h, List.nil_append]⟩
      | cons b lead =>
        cases more with
        | nil => exact ⟨[c], text, rfl, by simpa [encode] using hchar.symm, hmore⟩
        | cons m more =>
          -- The split would be within the octets of `c`.
          obtain ⟨first, others, hc, -, hothers⟩ := exists_encodeChar c
          obtain ⟨-, rfl⟩ := List.cons.inj (hc.symm.trans hchar)
          have hgoesOn := hothers m (List.mem_append_right lead List.mem_cons_self)
          rw [hlast m (by rw [hmore]; rfl)] at hgoesOn
          cases hgoesOn

theorem suffix_of_encode {text last : List Char} (h : encode last <:+ encode text) :
    last <:+ text := by
  obtain ⟨lead, hlead⟩ := h
  obtain ⟨before, after, rfl, -, hafter⟩ := exists_split hlead.symm (goesOn_head last)
  rw [encode_inj hafter]
  exact List.suffix_append before after

/-- A text can be cut at a place if and only if characters of it fill the octets up to there. -/
theorem upTo?_encode {text : List Char} {place : Nat} {octets : Bytes} :
    upTo? (encode text) place = some octets ↔
      ∃ before after, text = before ++ after ∧ encode before = octets ∧ octets.length = place := by
  rw [upTo?]
  constructor
  · intro h
    split at h
    · cases h
    · next hcut =>
      rw [not_or, Nat.not_lt] at hcut
      have hhead : ∀ b ∈ ((encode text).drop place).head?, goesOn b = false := by
        intro b hb
        by_cases hzero : place = 0
        · rw [hzero] at hb
          exact goesOn_head text b hb
        · rw [List.head?_drop, Option.mem_def] at hb
          simpa [hzero, hb] using hcut.2
      obtain ⟨before, after, rfl, hbefore, -⟩ :=
        exists_split (List.take_append_drop place (encode text)).symm hhead
      refine ⟨before, after, rfl, hbefore.symm.trans (Option.some.inj h), ?_⟩
      rw [← Option.some.inj h, List.length_take, Nat.min_eq_left hcut.1]
  · rintro ⟨before, after, rfl, rfl, rfl⟩
    have hnext : (encode before ++ encode after)[(encode before).length]? = (encode after).head? := by
      rw [List.getElem?_append_right (Nat.le_refl _), Nat.sub_self, List.head?_eq_getElem?]
    have hfree : ((encode after).head?).any goesOn = false :=
      (Option.any_eq_false _ _).2 (goesOn_head after)
    rw [encode_append, hnext, hfree, if_neg, List.take_left]
    simp

end SyntaxSweep.Utf8
