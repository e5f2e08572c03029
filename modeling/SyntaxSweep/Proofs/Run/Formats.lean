import SyntaxSweep.Program
import SyntaxSweep.Proofs.Steps
import SyntaxSweep.Proofs.Check.Naming

namespace SyntaxSweep

open CommandLine (Arguments Format)

variable {σ : Type}

theorem Outcome.json?_isSome (o : Outcome) : o.json?.isSome ↔ o.path.IsText := by
  unfold Outcome.json? strictText? Path.IsText
  cases Utf8.decode? o.path.bytes <;> simp

theorem Status.exitCode_ne_two (status : Status) : status.exitCode ≠ 2 := by
  cases status <;> decide

namespace Result

def IsText (r : Result) : Prop :=
  ∀ o ∈ r.outcomes, o.path.IsText

variable {r : Result}

theorem json?_isSome : r.json?.isSome ↔ r.IsText := by
  have hall : r.IsText ↔ (r.outcomes.mapM Outcome.json?).isSome := by
    rw [mapM_isSome]
    exact forall₂_congr fun o _ => o.json?_isSome.symm
  rw [hall, json?]
  cases r.outcomes.mapM Outcome.json? <;> simp

theorem document_of_text (h : r.IsText) : ∃ text, r.document = .ok text := by
  obtain ⟨j, hj⟩ := Option.isSome_iff_exists.1 (json?_isSome.2 h)
  exact ⟨j.text, by rw [document, hj]⟩

theorem document_of_not_text (h : ¬r.IsText) : r.document = .error .unspeakablePath := by
  rw [← json?_isSome, Option.not_isSome_iff_eq_none] at h
  rw [document, h]

end Result

namespace Surroundings

section Concluding

variable {args : Arguments} {colours : Colours} {r : Result}

/-- The exit code of a result that is printed is that of its status. -/
theorem code_of_printed {printed : String × String}
    (h : r.printed colours args.format = .ok printed) :
    (conclude args colours (.ok r)).code = r.status.exitCode := by
  simp only [conclude, h]

theorem conclude_human (h : args.format = .human) :
    (conclude args colours (.ok r)).code = r.status.exitCode := by
  apply code_of_printed
  rw [h]
  rfl

theorem conclude_json (h : args.format = .json) (hr : r.IsText) :
    (conclude args colours (.ok r)).code = r.status.exitCode := by
  obtain ⟨text, htext⟩ := Result.document_of_text hr
  apply code_of_printed
  rw [h, Result.printed, htext]
  rfl

theorem conclude_unspeakable (h : args.format = .json) (hr : ¬r.IsText) :
    conclude args colours (.ok r) = .ofFailure (.io .unspeakablePath) colours := by
  simp only [conclude, h, Result.printed, Result.document_of_not_text hr]
  rfl

end Concluding

def inFormat (args : Arguments) (format : Format) : Arguments :=
  { args with output := some format }

/-- The format decides over nothing but what is printed, and over the exit code just if a result tells
of a path that is no text. -/
theorem formats_agree_iff (around : Surroundings σ) (args : Arguments) (colours : Colours) (state : σ) :
    (∀ format, around.result (inFormat args format) state = around.result args state ∧
      (around.run (inFormat args format) colours state).2 = (around.result args state).2) ∧
    ((around.run (inFormat args .json) colours state).1.code =
        (around.run (inFormat args .human) colours state).1.code ↔
      ∀ r, (around.result args state).1 = .ok r → r.IsText) ∧
    ∀ r, (around.result args state).1 = .ok r → ¬r.IsText →
      (around.run (inFormat args .json) colours state).1 =
        .ofFailure (.io .unspeakablePath) colours := by
  have hsame (format : Format) :
      around.result (inFormat args format) state = around.result args state := rfl
  have hrun (format : Format) : (around.run (inFormat args format) colours state).1 =
      conclude (inFormat args format) colours (around.result args state).1 := rfl
  refine ⟨fun format => ⟨hsame format, rfl⟩, ?_, ?_⟩
  · rw [hrun, hrun]
    cases (around.result args state).1 with
    | error halt => cases halt <;> simp [conclude, Ending.ofHalt, Ending.ofFailure, Ending.ofPanic]
    | ok r =>
      have hhuman : (conclude (inFormat args .human) colours (.ok r)).code = r.status.exitCode :=
        conclude_human rfl
      rw [hhuman]
      constructor
      · rintro hcode r' ⟨⟩
        by_contra hr
        rw [conclude_unspeakable rfl hr] at hcode
        exact r.status.exitCode_ne_two hcode.symm
      · intro h
        exact conclude_json rfl (h r rfl)
  · intro r hr hodd
    rw [hrun, hr, conclude_unspeakable rfl hodd]

/-- No settings file, no repository, and a checker that passes everything. -/
def bare : Surroundings Unit where
  directory := .ok (.ofText "/")
  files := ⟨fun _ => false, fun _ => false, fun _ => .error .noEntry⟩
  stdin := ⟨[], none⟩
  git _ := .error .noEntry
  root? _ := none
  began := 0
  stopped _ := false
  workers _ := .ok ()
  checker _ _ := fun state _ => (.ok ⟨0, ""⟩, state)
  clock _ _ := 0

theorem formats_disagree :
    (bare.run { files := [⟨[0xFF]⟩], output := some .human } false ()).1.code = 0 ∧
      (bare.run { files := [⟨[0xFF]⟩], output := some .json } false ()).1.code = 2 := by
  constructor <;> rfl

end Surroundings

end SyntaxSweep
