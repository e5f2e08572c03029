import SyntaxSweep.Proofs.Text.Splitting

namespace SyntaxSweep.Utf8

theorem scanFrom_whole {b : UInt8} {c : Char} (h : Start.ofOctet b = .whole c) (rest : Bytes) :
    scanFrom none (b :: rest) = some c :: scanFrom none rest := by
  simp [scanFrom_cons, step, h]

theorem scanFrom_first {b : UInt8} {s : Begun} (h : Start.ofOctet b = .begun s) (rest : Bytes) :
    scanFrom none (b :: rest) = scanFrom (some s) rest := by
  simp [scanFrom_cons, step, h]

theorem scanFrom_next {s : Begun} {k : Nat} (hs : s.owed = k + 1) {b : UInt8}
    (hlow : s.low ≤ b.toNat) (hhigh : b.toNat ≤ s.high) (rest : Bytes) :
    scanFrom (some s) (b :: rest) =
      scanFrom (some ⟨s.number * 64 + (b.toNat - 0x80), k, 0x80, 0xBF⟩) rest := by
  simp [scanFrom_cons, step, hs, hlow, hhigh]

theorem scanFrom_last {s : Begun} (hs : s.owed = 0) {b : UInt8} (hlow : s.low ≤ b.toNat)
    (hhigh : b.toNat ≤ s.high) {v : Nat} (hv : s.number * 64 + (b.toNat - 0x80) = v)
    (rest : Bytes) :
    scanFrom (some s) (b :: rest) = some (Char.ofNat v) :: scanFrom none rest := by
  simp [scanFrom_cons, step, hs, hlow, hhigh, hv]

theorem ofOctet_one {b : UInt8} (h : b.toNat < 0x80) :
    Start.ofOctet b = .whole (Char.ofNat b.toNat) := by
  simp only [Start.ofOctet, if_pos h]

theorem ofOctet_two {b : UInt8} (hlow : 0xC2 ≤ b.toNat) (hhigh : b.toNat < 0xE0) :
    Start.ofOctet b = .begun ⟨b.toNat - 0xC0, 0, 0x80, 0xBF⟩ := by
  simp only [Start.ofOctet]
  rw [if_neg (by omega), if_neg (by omega), if_pos hhigh]

theorem ofOctet_three {b : UInt8} (hlow : 0xE0 ≤ b.toNat) (hhigh : b.toNat < 0xF0) :
    Start.ofOctet b = .begun ⟨b.toNat - 0xE0, 1, if b.toNat = 0xE0 then 0xA0 else 0x80,
      if b.toNat = 0xED then 0x9F else 0xBF⟩ := by
  simp only [Start.ofOctet]
  rw [if_neg (by omega), if_neg (by omega), if_neg (by omega), if_pos hhigh]

theorem ofOctet_four {b : UInt8} (hlow : 0xF0 ≤ b.toNat) (hhigh : b.toNat < 0xF5) :
    Start.ofOctet b = .begun ⟨b.toNat - 0xF0, 2, if b.toNat = 0xF0 then 0x90 else 0x80,
      if b.toNat = 0xF4 then 0x8F else 0xBF⟩ := by
  simp only [Start.ofOctet]
  rw [if_neg (by omega), if_neg (by omega), if_neg (by omega), if_neg (by omega), if_pos hhigh]

theorem ofOctet_cases (b : UInt8) :
    b.toNat < 0x80 ∨ 0xC2 ≤ b.toNat ∧ b.toNat < 0xE0 ∨ 0xE0 ≤ b.toNat ∧ b.toNat < 0xF0 ∨
      0xF0 ≤ b.toNat ∧ b.toNat < 0xF5 ∨ Start.ofOctet b = .stray := by
  simp only [Start.ofOctet]
  by_cases h : 0x80 ≤ b.toNat ∧ b.toNat < 0xC2 ∨ 0xF5 ≤ b.toNat
  · refine .inr (.inr (.inr (.inr ?_)))
    rw [if_neg (by omega)]
    by_cases hlow : b.toNat < 0xC2
    · rw [if_pos hlow]
    · rw [if_neg hlow, if_neg (by omega), if_neg (by omega), if_neg (by omega)]
  · omega

section Writing

variable {v : Nat}

theorem val_ofNat (h : v < 0xD800 ∨ 0xDFFF < v ∧ v < 0x110000) :
    (Char.ofNat v).val.toNat = v := by
  rw [Char.ofNat, dif_pos h]
  rfl

theorem encodeChar_ofNat (h : v < 0xD800 ∨ 0xDFFF < v ∧ v < 0x110000) :
    String.utf8EncodeChar (Char.ofNat v) =
      if v < 0x80 then [UInt8.ofNat v]
      else if v < 0x800 then [UInt8.ofNat (v / 64 + 0xC0), UInt8.ofNat (v % 64 + 0x80)]
      else if v < 0x10000 then [UInt8.ofNat (v / 4096 + 0xE0), UInt8.ofNat (v / 64 % 64 + 0x80),
        UInt8.ofNat (v % 64 + 0x80)]
      else [UInt8.ofNat (v / 262144 + 0xF0), UInt8.ofNat (v / 4096 % 64 + 0x80),
        UInt8.ofNat (v / 64 % 64 + 0x80), UInt8.ofNat (v % 64 + 0x80)] := by
  simp only [String.utf8EncodeChar, val_ofNat h]
  by_cases h1 : v < 0x80
  · rw [if_pos (by omega), if_pos h1]
  rw [if_neg (by omega), if_neg h1]
  by_cases h2 : v < 0x800
  · rw [if_pos (by omega), if_pos h2, Nat.mod_eq_of_lt (a := v / 64) (by omega)]
  rw [if_neg (by omega), if_neg h2]
  by_cases h3 : v < 0x10000
  · rw [if_pos (by omega), if_pos h3, Nat.mod_eq_of_lt (a := v / 4096) (by omega)]
  rw [if_neg (by omega), if_neg h3, Nat.mod_eq_of_lt (a := v / 262144) (by omega)]

theorem scan_ofNat (h : v < 0xD800 ∨ 0xDFFF < v ∧ v < 0x110000) (rest : Bytes) :
    scanFrom none (String.utf8EncodeChar (Char.ofNat v) ++ rest) =
      some (Char.ofNat v) :: scanFrom none rest := by
  have hoctet {k : Nat} (hk : k < 256) : (UInt8.ofNat k).toNat = k := UInt8.toNat_ofNat_of_lt' hk
  have hnext (n : Nat) : (UInt8.ofNat (n % 64 + 0x80)).toNat = n % 64 + 0x80 := hoctet (by omega)
  have hlow (n : Nat) : 0x80 ≤ (UInt8.ofNat (n % 64 + 0x80)).toNat := by have := hnext n; omega
  have hhigh (n : Nat) : (UInt8.ofNat (n % 64 + 0x80)).toNat ≤ 0xBF := by have := hnext n; omega
  rw [encodeChar_ofNat h]
  by_cases h1 : v < 0x80
  · rw [if_pos h1]
    have hv : (UInt8.ofNat v).toNat = v := hoctet (by omega)
    rw [List.singleton_append, scanFrom_whole (ofOctet_one (by rw [hv]; exact h1)), hv]
  rw [if_neg h1]
  by_cases h2 : v < 0x800
  · rw [if_pos h2]
    have hv : (UInt8.ofNat (v / 64 + 0xC0)).toNat = v / 64 + 0xC0 := hoctet (by omega)
    have hfirst := ofOctet_two (b := UInt8.ofNat (v / 64 + 0xC0)) (by omega) (by omega)
    rw [List.cons_append, scanFrom_first hfirst, List.singleton_append]
    exact scanFrom_last rfl (hlow v) (hhigh v) (by simp only [hv, hnext]; omega) rest
  rw [if_neg h2]
  by_cases h3 : v < 0x10000
  · rw [if_pos h3]
    have hv : (UInt8.ofNat (v / 4096 + 0xE0)).toNat = v / 4096 + 0xE0 := hoctet (by omega)
    have hfirst := ofOctet_three (b := UInt8.ofNat (v / 4096 + 0xE0)) (by omega) (by omega)
    simp only [hv] at hfirst
    rw [List.cons_append, scanFrom_first hfirst, List.cons_append,
      scanFrom_next rfl (by simp only [hnext]; split <;> omega)
        (by simp only [hnext]; split <;> omega), List.singleton_append]
    exact scanFrom_last rfl (hlow v) (hhigh v) (by simp only [hnext]; omega) rest
  · rw [if_neg h3]
    have hv : (UInt8.ofNat (v / 262144 + 0xF0)).toNat = v / 262144 + 0xF0 := hoctet (by omega)
    have hfirst := ofOctet_four (b := UInt8.ofNat (v / 262144 + 0xF0)) (by omega) (by omega)
    simp only [hv] at hfirst
    rw [List.cons_append, scanFrom_first hfirst, List.cons_append,
      scanFrom_next rfl (by simp only [hnext]; split <;> omega)
        (by simp only [hnext]; split <;> omega), List.cons_append,
      scanFrom_next rfl (hlow _) (hhigh _), List.singleton_append]
    exact scanFrom_last rfl (hlow v) (hhigh v) (by simp only [hnext]; omega) rest

/-- A character is read back from what it is written with, whatever follows. -/
theorem scan_encodeChar (c : Char) (rest : Bytes) :
    scanFrom none (String.utf8EncodeChar c ++ rest) = some c :: scanFrom none rest := by
  have h := scan_ofNat (v := c.toNat) c.valid rest
  rwa [Char.ofNat_toNat] at h

theorem scan_encode (text : List Char) : scan (encode text) = text.map some := by
  induction text with
  | nil => rfl
  | cons c text ih => exact (scan_encodeChar c (encode text)).trans (congrArg (some c :: ·) ih)

end Writing

section Reading

variable {s : Begun} {c : Char} {octets : Bytes} {more : List (Option Char)}

/-- A character that is open is spelled only if the next octet is within its bounds. -/
theorem scanFrom_begun (h : scanFrom (some s) octets = some c :: more) :
    ∃ b rest, octets = b :: rest ∧ s.low ≤ b.toNat ∧ b.toNat ≤ s.high ∧
      (s.owed = 0 ∧ c = Char.ofNat (s.number * 64 + (b.toNat - 0x80)) ∧
          scanFrom none rest = more ∨
        ∃ k, s.owed = k + 1 ∧
          scanFrom (some ⟨s.number * 64 + (b.toNat - 0x80), k, 0x80, 0xBF⟩) rest =
            some c :: more) := by
  cases octets with
  | nil => simp [scanFrom] at h
  | cons b rest =>
    refine ⟨b, rest, rfl, ?_⟩
    by_cases hb : s.low ≤ b.toNat ∧ b.toNat ≤ s.high
    · refine ⟨hb.1, hb.2, ?_⟩
      cases hs : s.owed with
      | zero =>
        rw [scanFrom_last hs hb.1 hb.2 rfl] at h
        obtain ⟨hc, hmore⟩ := List.cons.inj h
        exact .inl ⟨rfl, (Option.some.inj hc).symm, hmore⟩
      | succ k =>
        rw [scanFrom_next hs hb.1 hb.2] at h
        exact .inr ⟨k, rfl, h⟩
    · simp [scanFrom_cons, step, hb] at h

theorem scanFrom_begun_last (h : scanFrom (some s) octets = some c :: more) (hs : s.owed = 0) :
    ∃ b rest, octets = b :: rest ∧ s.low ≤ b.toNat ∧ b.toNat ≤ s.high ∧
      c = Char.ofNat (s.number * 64 + (b.toNat - 0x80)) ∧ scanFrom none rest = more := by
  obtain ⟨b, rest, ho, hlow, hhigh, ⟨-, hc, hmore⟩ | ⟨k, hk, -⟩⟩ := scanFrom_begun h
  · exact ⟨b, rest, ho, hlow, hhigh, hc, hmore⟩
  · exact absurd (hs.symm.trans hk) (Nat.zero_ne_add_one k)

theorem scanFrom_begun_next {k : Nat} (h : scanFrom (some s) octets = some c :: more)
    (hs : s.owed = k + 1) :
    ∃ b rest, octets = b :: rest ∧ s.low ≤ b.toNat ∧ b.toNat ≤ s.high ∧
      scanFrom (some ⟨s.number * 64 + (b.toNat - 0x80), k, 0x80, 0xBF⟩) rest = some c :: more := by
  obtain ⟨b, rest, ho, hlow, hhigh, ⟨h0, -, -⟩ | ⟨j, hj, hmore⟩⟩ := scanFrom_begun h
  · exact absurd (h0.symm.trans hs) (Nat.zero_ne_add_one k)
  · obtain rfl : j = k := Nat.succ.inj (hj.symm.trans hs)
    exact ⟨b, rest, ho, hlow, hhigh, hmore⟩

/-- A character is read only from the octets that it is written with. -/
theorem eq_encodeChar_of_scan (h : scanFrom none octets = some c :: more) :
    ∃ rest, octets = String.utf8EncodeChar c ++ rest ∧ scanFrom none rest = more := by
  have hoctet {k : Nat} (b : UInt8) (hk : k = b.toNat) : UInt8.ofNat k = b := by
    rw [hk, UInt8.ofNat_toNat]
  cases octets with
  | nil => simp [scanFrom] at h
  | cons b₀ octets =>
    obtain h0 | h0 | h0 | h0 | h0 := ofOctet_cases b₀
    · rw [scanFrom_whole (ofOctet_one h0)] at h
      obtain ⟨hc, hmore⟩ := List.cons.inj h
      refine ⟨octets, ?_, hmore⟩
      rw [← Option.some.inj hc, encodeChar_ofNat (by omega), if_pos h0, UInt8.ofNat_toNat]
      rfl
    · rw [scanFrom_first (ofOctet_two h0.1 h0.2)] at h
      obtain ⟨b₁, rest, rfl, hl₁, hh₁, hc, hmore⟩ := scanFrom_begun_last h rfl
      refine ⟨rest, ?_, hmore⟩
      dsimp only at hl₁ hh₁ hc
      rw [hc, encodeChar_ofNat (by omega), if_neg (by omega), if_pos (by omega),
        hoctet b₀ (by omega), hoctet b₁ (by omega)]
      rfl
    · rw [scanFrom_first (ofOctet_three h0.1 h0.2)] at h
      obtain ⟨b₁, rest₁, rfl, hl₁, hh₁, h₁⟩ := scanFrom_begun_next h rfl
      obtain ⟨b₂, rest, rfl, hl₂, hh₂, hc, hmore⟩ := scanFrom_begun_last h₁ rfl
      refine ⟨rest, ?_, hmore⟩
      dsimp only at hl₁ hh₁ hl₂ hh₂ hc
      -- The second octet keeps off what fewer octets could spell, and off surrogates.
      have hlow : b₀.toNat = 0xE0 → 0xA0 ≤ b₁.toNat := fun h => by rwa [if_pos h] at hl₁
      have hhigh : b₀.toNat = 0xED → b₁.toNat ≤ 0x9F := fun h => by rwa [if_pos h] at hh₁
      have hnext : 0x80 ≤ b₁.toNat ∧ b₁.toNat ≤ 0xBF := by split at hl₁ <;> split at hh₁ <;> omega
      clear hl₁ hh₁
      rw [hc, encodeChar_ofNat (by omega), if_neg (by omega), if_neg (by omega), if_pos (by omega),
        hoctet b₀ (by omega), hoctet b₁ (by omega), hoctet b₂ (by omega)]
      rfl
    · rw [scanFrom_first (ofOctet_four h0.1 h0.2)] at h
      obtain ⟨b₁, rest₁, rfl, hl₁, hh₁, h₁⟩ := scanFrom_begun_next h rfl
      obtain ⟨b₂, rest₂, rfl, hl₂, hh₂, h₂⟩ := scanFrom_begun_next h₁ rfl
      obtain ⟨b₃, rest, rfl, hl₃, hh₃, hc, hmore⟩ := scanFrom_begun_last h₂ rfl
      refine ⟨rest, ?_, hmore⟩
      dsimp only at hl₁ hh₁ hl₂ hh₂ hl₃ hh₃ hc
      have hlow : b₀.toNat = 0xF0 → 0x90 ≤ b₁.toNat := fun h => by rwa [if_pos h] at hl₁
      have hhigh : b₀.toNat = 0xF4 → b₁.toNat ≤ 0x8F := fun h => by rwa [if_pos h] at hh₁
      have hnext : 0x80 ≤ b₁.toNat ∧ b₁.toNat ≤ 0xBF := by split at hl₁ <;> split at hh₁ <;> omega
      clear hl₁ hh₁
      rw [hc, encodeChar_ofNat (by omega), if_neg (by omega), if_neg (by omega), if_neg (by omega),
        hoctet b₀ (by omega), hoctet b₁ (by omega), hoctet b₂ (by omega), hoctet b₃ (by omega)]
      rfl
    · simp [scanFrom_cons, step, h0] at h

theorem eq_encode_of_scan {text : List Char} (h : scan octets = text.map some) :
    octets = encode text := by
  induction text generalizing octets with
  | nil =>
    cases octets with
    | nil => rfl
    | cons b octets => exact absurd h (scanFrom_ne_nil (.inr (List.cons_ne_nil b octets)))
  | cons c text ih =>
    obtain ⟨rest, rfl, hrest⟩ := eq_encodeChar_of_scan h
    rw [ih hrest]
    rfl

end Reading

theorem mapM_id_eq_some {α : Type} {pieces : List (Option α)} {text : List α} :
    pieces.mapM id = some text ↔ pieces = text.map some := by
  induction pieces generalizing text with
  | nil => cases text <;> simp
  | cons p pieces ih =>
    cases p with
    | none => cases text <;> simp
    | some a =>
      cases text with
      | nil => simp [Option.bind_eq_some_iff]
      | cons b text =>
        simpa [Option.bind_eq_some_iff, ih] using and_comm

/-- Octets spell a text if and only if they are the ones that the text is written with. -/
theorem decode?_eq_some_iff {octets : Bytes} {text : List Char} :
    decode? octets = some text ↔ octets = encode text := by
  rw [decode?, mapM_id_eq_some]
  exact ⟨eq_encode_of_scan, fun h => h ▸ scan_encode text⟩

theorem decode?_encode (text : List Char) : decode? (encode text) = some text :=
  decode?_eq_some_iff.2 rfl

theorem decodeLossy_encode (text : List Char) : decodeLossy (encode text) = text := by
  simp [decodeLossy, scan_encode, Function.comp_def]

/-- The text that stands for octets is written with these octets only if they spell it. -/
theorem encode_decodeLossy_eq_iff {octets : Bytes} :
    encode (decodeLossy octets) = octets ↔ (decode? octets).isSome := by
  constructor
  · intro h
    rw [decode?_eq_some_iff.2 h.symm]
    rfl
  · intro h
    obtain ⟨text, htext⟩ := Option.isSome_iff_exists.1 h
    obtain rfl := decode?_eq_some_iff.1 htext
    rw [decodeLossy_encode]

end SyntaxSweep.Utf8

namespace SyntaxSweep

theorem lossyText_bytesOf (text : String) : lossyText (bytesOf text) = text := by
  rw [lossyText, bytesOf, Utf8.decodeLossy_encode, String.ofList_toList]

theorem strictText?_eq_some {octets : Bytes} {t : String} (h : strictText? octets = some t) :
    octets = bytesOf t := by
  obtain ⟨text, htext, rfl⟩ := Option.map_eq_some_iff.1 h
  rw [bytesOf, String.toList_ofList, Utf8.decode?_eq_some_iff.1 htext]

theorem bytesOf_inj {s t : String} (h : bytesOf s = bytesOf t) : s = t := by
  rw [← lossyText_bytesOf s, h, lossyText_bytesOf]

end SyntaxSweep
