import Mathlib.Data.List.TakeWhile
import SyntaxSweep.Report.Summary
import SyntaxSweep.Text.Occurs
import SyntaxSweep.Proofs.Text.Lossy

namespace SyntaxSweep

def IsSequence (text : List Char) : Prop :=
  ∃ digits, (∀ c ∈ digits, c.isDigit) ∧ text = '\x1b' :: '[' :: (digits ++ ['m'])

def afterSequence? (text : List Char) : Option (List Char) :=
  (after? ['\x1b', '['] text).bind fun more => after? ['m'] (more.dropWhile Char.isDigit)

section Sequences

variable {c : Char} {s text rest : List Char}

theorem afterSequence?_eq_some :
    afterSequence? text = some rest ↔ ∃ s, IsSequence s ∧ text = s ++ rest := by
  rw [afterSequence?, Option.bind_eq_some_iff]
  simp only [after?_eq_some]
  constructor
  · rintro ⟨more, rfl, hmore⟩
    refine ⟨_, ⟨more.takeWhile Char.isDigit, fun _ => List.mem_takeWhile_imp, rfl⟩, ?_⟩
    have hsplit := List.takeWhile_append_dropWhile (p := Char.isDigit) (l := more)
    rw [hmore] at hsplit
    exact congrArg (['\x1b', '['] ++ ·) (hsplit.symm.trans (List.append_assoc _ ['m'] rest).symm)
  · rintro ⟨s, ⟨digits, hdigits, rfl⟩, rfl⟩
    refine ⟨digits ++ 'm' :: rest, by simp, ?_⟩
    rw [List.dropWhile_append_of_pos hdigits]
    rfl

theorem length_afterSequence? (h : afterSequence? text = some rest) : rest.length < text.length := by
  obtain ⟨s, ⟨digits, -, rfl⟩, rfl⟩ := afterSequence?_eq_some.1 h
  simp only [List.length_append, List.length_cons]
  omega

def unstyled : List Char → List Char
  | [] => []
  | c :: more =>
    match _ : afterSequence? (c :: more) with
    | some rest => unstyled rest
    | none => c :: unstyled more
termination_by text => text.length
decreasing_by
  · exact length_afterSequence? ‹_›
  · exact Nat.lt_succ_self _

theorem unstyled_sequence (h : IsSequence s) (rest : List Char) :
    unstyled (s ++ rest) = unstyled rest := by
  have hafter : afterSequence? (s ++ rest) = some rest := afterSequence?_eq_some.2 ⟨s, h, rfl⟩
  obtain ⟨digits, -, rfl⟩ := h
  rw [List.cons_append] at hafter ⊢
  rw [unstyled]
  split
  · next hsome => rw [Option.some.inj (hsome.symm.trans hafter)]
  · next hnone => cases hnone.symm.trans hafter

theorem unstyled_cons (h : c ≠ '\x1b') (rest : List Char) :
    unstyled (c :: rest) = c :: unstyled rest := by
  rw [unstyled]
  split
  · next hsome =>
    obtain ⟨s, ⟨digits, -, rfl⟩, heq⟩ := afterSequence?_eq_some.1 hsome
    exact absurd (List.cons.inj heq).1 h
  · rfl

theorem unstyled_append (h : '\x1b' ∉ text) (rest : List Char) :
    unstyled (text ++ rest) = text ++ unstyled rest := by
  induction text with
  | nil => rfl
  | cons c text ih =>
    obtain ⟨hc, htext⟩ := not_or.1 (mt List.mem_cons.2 h)
    rw [List.cons_append, unstyled_cons (Ne.symm hc), ih htext]
    rfl

end Sequences

section Spans

theorem Style.isSequence_opening (style : Style) : IsSequence style.opening.toList := by
  cases style with
  | bold => exact ⟨['1'], by simp, rfl⟩
  | dim => exact ⟨['2'], by simp, rfl⟩
  | red => exact ⟨['3', '1'], by simp, rfl⟩
  | green => exact ⟨['3', '2'], by simp, rfl⟩
  | yellow => exact ⟨['3', '3'], by simp, rfl⟩

theorem Style.isSequence_closing (style : Style) : IsSequence style.closing.toList := by
  cases style with
  | bold | dim => exact ⟨['0'], by simp, rfl⟩
  | red | green | yellow => exact ⟨['3', '9'], by simp, rfl⟩

/-- The text has no sequence of its own, and none can begin in it. -/
def Free (text : String) : Prop :=
  '\x1b' ∉ text.toList

instance : DecidablePred Free := fun text => inferInstanceAs (Decidable ('\x1b' ∉ text.toList))

theorem unstyled_span {s : Span} (h : Free s.text) (rest : List Char) :
    unstyled ((s.render true).toList ++ rest) = (s.render false).toList ++ unstyled rest := by
  obtain ⟨style, text⟩ := s
  cases style with
  | none => exact unstyled_append h rest
  | some style =>
    simp only [Span.render, ↓reduceIte, Bool.false_eq_true, String.toList_append, List.append_assoc]
    rw [unstyled_sequence style.isSequence_opening, unstyled_append h,
      unstyled_sequence style.isSequence_closing]

theorem unstyled_renderSpans {spans : List Span} (h : ∀ s ∈ spans, Free s.text) :
    unstyled (renderSpans true spans).toList = (renderSpans false spans).toList := by
  simp only [renderSpans, String.toList_join, List.flatMap_map]
  induction spans with
  | nil => rw [List.flatMap_nil, List.flatMap_nil, unstyled]
  | cons s spans ih =>
    obtain ⟨hs, hspans⟩ := List.forall_mem_cons.1 h
    rw [List.flatMap_cons, List.flatMap_cons, unstyled_span hs, ih hspans]

theorem Free.append {a b : String} (ha : Free a) (hb : Free b) : Free (a ++ b) := by
  intro h
  rw [String.toList_append] at h
  exact (List.mem_append.1 h).elim ha hb

theorem free_repr (n : Nat) : Free n.repr := by
  intro h
  rw [Nat.toList_repr] at h
  exact absurd (Nat.isDigit_of_mem_toDigits (by decide) (by decide) h) (by decide)

theorem free_text {p : Path} (h : 0x1B ∉ p.bytes) : Free p.text := by
  intro hmem
  rw [Path.text, lossyText, String.toList_ofList] at hmem
  exact h (Utf8.mem_of_mem_decodeLossy (by decide) hmem)

theorem free_secondsText (ms : Nat) : Free (secondsText ms) :=
  ((free_repr _).append (by decide)).append (free_repr _)

end Spans

theorem Outcome.free_place {o : Outcome} (h : 0x1B ∉ o.path.bytes) : Free o.place := by
  unfold Outcome.place
  cases o.line with
  | none => exact free_text h
  | some line => exact ((free_text h).append (by decide : Free ":")).append (free_repr line)

namespace Result

variable {r : Result}

theorem free_line {style : Style} {mark text : String} {time : Option String} (hmark : Free mark)
    (htext : Free text) (htime : ∀ t ∈ time, Free t) :
    ∀ s ∈ line style mark text time, Free s.text := by
  have hend : Free (Span.plain "\n").text := by decide
  unfold line
  rw [List.forall_mem_append, List.forall_mem_append, List.forall_mem_singleton]
  refine ⟨⟨?_, ?_⟩, hend⟩
  · simp only [List.forall_mem_cons]
    exact ⟨by decide, hmark, by decide, htext, List.forall_mem_nil _⟩
  · cases time with
    | none => exact List.forall_mem_nil _
    | some t =>
      rw [List.forall_mem_cons, List.forall_mem_singleton]
      exact ⟨by decide, htime t rfl⟩

theorem free_summary (hpaths : ∀ o ∈ r.outcomes, 0x1B ∉ o.path.bytes) :
    ∀ s ∈ r.summary, Free s.text := by
  have htime : ∀ t ∈ some s!"({secondsText r.elapsedMs}s)", Free t := by
    rintro t ⟨⟩
    exact ((by decide : Free "(").append (free_secondsText _)).append (by decide)
  have hnone : ∀ t ∈ (none : Option String), Free t := by simp
  unfold summary
  cases r.status with
  | skipped => exact free_line (by decide) (by decide) hnone
  | passed => exact free_line (by decide) ((free_repr r.files).append (by decide)) htime
  | failed =>
    rw [List.forall_mem_append]
    constructor
    · refine free_line (by decide) ?_ htime
      exact (((free_repr _).append (by decide)).append (free_repr _)).append (by decide)
    · intro s hs
      obtain ⟨o, ho, hs⟩ := List.mem_flatMap.1 hs
      have hplace : Free o.place := Outcome.free_place (hpaths o (List.mem_filter.1 ho).1)
      simp only [List.mem_cons, List.not_mem_nil, or_false] at hs
      obtain rfl | rfl | rfl := hs
      · decide
      · exact hplace
      · decide
  | aborted =>
    refine free_line (by decide) ?_ hnone
    have hcount := (by decide : Free "aborted after ").append (free_repr r.outcomes.length)
    exact ((hcount.append (by decide)).append (free_repr _)).append (by decide)

theorem free_details (hreport : Free r.report) : ∀ s ∈ r.details, Free s.text := by
  unfold details
  split
  · exact List.forall_mem_nil _
  · simp only [List.forall_mem_cons]
    exact ⟨by decide, by decide, by decide, hreport, by decide, List.forall_mem_nil _⟩

theorem details_eq_empty (colour : Bool) : renderSpans colour r.details = "" ↔ r.report = "" := by
  unfold details
  split
  · next hnone => exact iff_of_true rfl hnone
  · next hsome =>
    refine iff_of_false (fun hempty => ?_) hsome
    have hfirst : Span.render colour (.plain "\n") = "\n" := rfl
    rw [← String.toList_inj, renderSpans, String.toList_join, List.map_cons, List.flatMap_cons,
      hfirst] at hempty
    exact absurd (List.append_eq_nil_iff.1 hempty).1 (by decide)

theorem details_plain (h : r.report ≠ "") :
    renderSpans false r.details = "\nSyntax errors:\n" ++ r.report ++ "\n" := by
  rw [details, if_neg h, ← String.toList_inj]
  simp [renderSpans, Span.render, Span.plain, Span.styled]

/-- A report in colours is the report without them but for sequences that set a style. Diagnostics are
written if and only if there are any, and end what is written. -/
theorem unstyled_report (r : Result) (hreport : '\x1b' ∉ r.report.toList)
    (hpaths : ∀ o ∈ r.outcomes, 0x1B ∉ o.path.bytes) :
    unstyled (renderSpans true r.summary).toList = (renderSpans false r.summary).toList ∧
    unstyled (renderSpans true r.details).toList = (renderSpans false r.details).toList ∧
    (∀ colour, renderSpans colour r.details ≠ "" ↔ r.report ≠ "") ∧
    (r.report ≠ "" → ∃ heading, renderSpans false r.details = heading ++ r.report ++ "\n") :=
  ⟨unstyled_renderSpans (free_summary hpaths), unstyled_renderSpans (free_details hreport),
    fun colour => not_congr (details_eq_empty colour), fun h => ⟨_, details_plain h⟩⟩

/-- Of three files two have failed. Their paths and the report look like sequences, but for the `ESC`. -/
def lookalike : Result :=
  ⟨.failed, "[31m.php:\n[0m", 3,
    [⟨⟨[0x5B, 0x33, 0x31, 0x6D, 0xFF]⟩, false, "[31m.php:\n[0m", some 7⟩,
      ⟨.ofText "fine.php", true, "", none⟩, ⟨.ofText "6[0m", false, "", none⟩], 1250⟩

theorem unstyled_lookalike :
    unstyled (renderSpans true lookalike.summary).toList =
        (renderSpans false lookalike.summary).toList ∧
      unstyled (renderSpans true lookalike.details).toList =
        "\nSyntax errors:\n[31m.php:\n[0m\n".toList := by
  obtain ⟨hsummary, hdetails, -, -⟩ := unstyled_report lookalike (by decide) (by decide)
  exact ⟨hsummary, hdetails.trans (by rw [details_plain (by decide)]; decide)⟩

end Result

end SyntaxSweep
