import SyntaxSweep.Proofs.Report.Layout
import SyntaxSweep.Proofs.Run.Formats

namespace SyntaxSweep

theorem Outcome.line_inj {a b : Option Nat}
    (h : (match a with | some n => Json.number n | none => .null) =
      match b with | some n => Json.number n | none => .null) : a = b := by
  cases a <;> cases b <;> cases h <;> rfl

theorem Outcome.json?_inj {o p : Outcome} {j : Json} (ho : o.json? = some j)
    (hp : p.json? = some j) : o = p := by
  obtain ⟨other, hother, ⟨⟩⟩ := Option.bind_eq_some_iff.1 hp
  obtain ⟨path, hpath, heq⟩ := Option.bind_eq_some_iff.1 ho
  simp only [Option.pure_def, Option.some.injEq, Json.object.injEq, List.cons.injEq, Prod.mk.injEq,
    Json.string.injEq, Json.boolean.injEq, true_and, and_true] at heq
  obtain ⟨hdiagnostic, hline, rfl, hsucceeded⟩ := heq
  have hbytes : o.path.bytes = p.path.bytes := by
    rw [strictText?_eq_some hpath, strictText?_eq_some hother]
  obtain ⟨⟨_⟩, _, _, _⟩ := o
  obtain ⟨⟨_⟩, _, _, _⟩ := p
  exact (mk.injEq ..).mpr
    ⟨congrArg Path.mk hbytes, hsucceeded, hdiagnostic, line_inj hline⟩

theorem Status.name_inj {a b : Status} (h : a.name = b.name) : a = b := by
  cases a <;> cases b <;> first | rfl | exact absurd h (by decide)

namespace Result

theorem json?_inj {r r' : Result} {j : Json} (hr : r.json? = some j) (hr' : r'.json? = some j) :
    r = r' := by
  obtain ⟨others, hothers, ⟨⟩⟩ := Option.bind_eq_some_iff.1 hr'
  obtain ⟨outcomes, houts, heq⟩ := Option.bind_eq_some_iff.1 hr
  simp only [Option.pure_def, Option.some.injEq, Json.object.injEq, List.cons.injEq, Prod.mk.injEq,
    Json.string.injEq, Json.number.injEq, Json.array.injEq, true_and, and_true] at heq
  obtain ⟨helapsed, hfiles, rfl, hreport, hstatus⟩ := heq
  have houtcomes := mapM_inj Outcome.json?_inj houts hothers
  cases r
  cases r'
  exact (mk.injEq ..).mpr ⟨Status.name_inj hstatus, hreport, hfiles, houtcomes, helapsed⟩

theorem json?_of_document {r : Result} {text : String} (h : r.document = .ok text) :
    ∃ j, r.json? = some j ∧ j.text = text := by
  rw [document] at h
  split at h
  case h_1 j hj => exact ⟨j, hj, Except.ok.inj h⟩
  case h_2 => cases h

theorem document_fails_iff {r : Result} : (∃ e, r.document = .error e) ↔ ¬r.IsText := by
  constructor
  · rintro ⟨e, he⟩ htext
    obtain ⟨text, hok⟩ := document_of_text htext
    rw [hok] at he
    cases he
  · exact fun h => ⟨_, document_of_not_text h⟩

/-- There is no document just if the octets of some path spell no text. A document tells all of its
result: the status, the diagnostics together, the number of files, the time, and every outcome in
order with its path, whether it passed, its diagnostic and its line. -/
theorem document_determines (r : Result) :
    ((∃ e, r.document = .error e) ↔ ∃ o ∈ r.outcomes, ∀ t, o.path ≠ .ofText t) ∧
    ∀ r' text, r.document = .ok text → r'.document = .ok text → r = r' := by
  constructor
  · simp only [document_fails_iff, IsText, Path.isText_iff, not_forall, not_exists, exists_prop,
      ne_eq]
  · intro r' text hr hr'
    obtain ⟨j, hj, hjtext⟩ := json?_of_document hr
    obtain ⟨k, hk, hktext⟩ := json?_of_document hr'
    obtain rfl := Json.text_inj (hjtext.trans hktext.symm)
    exact json?_inj hj hk

/-- A path and a diagnostic with characters of all kinds that are escaped. -/
def awkward : Result where
  status := .failed
  report := "\"\\\n\x1b"
  files := 1
  outcomes := [⟨.ofText "a\n\"b", false, "\"\\\n\x1b", none⟩]
  elapsedMs := 12

def awkwardText : String :=
  "\n".intercalate
    ["\x7b",
      "  \"elapsed_ms\": 12,",
      "  \"files\": 1,",
      "  \"outcomes\": [",
      "    \x7b",
      "      \"diagnostic\": \"\\\"\\\\\\n\\u001b\",",
      "      \"line\": null,",
      "      \"path\": \"a\\n\\\"b\",",
      "      \"succeeded\": false",
      "    \x7d",
      "  ],",
      "  \"report\": \"\\\"\\\\\\n\\u001b\",",
      "  \"status\": \"failed\"",
      "\x7d"]

theorem document_awkward : awkward.document = .ok awkwardText ∧
    ∀ r, r.document = .ok awkwardText → awkward = r := by
  have htext : awkward.document = .ok awkwardText := by
    decide +kernel
  exact ⟨htext, fun r => (document_determines awkward).2 r awkwardText htext⟩

end Result

end SyntaxSweep
