import Mathlib.Data.Set.Function
import SyntaxSweep.Scan
import SyntaxSweep.Proofs.Check.Exchanges
import SyntaxSweep.Proofs.Text.Utf8

namespace SyntaxSweep

namespace Path

def IsText (p : Path) : Prop :=
  (Utf8.decode? p.bytes).isSome

theorem bytesOf_text (p : Path) : bytesOf p.text = p.bytes ↔ p.IsText := by
  rw [text, lossyText, bytesOf, String.toList_ofList]
  exact Utf8.encode_decodeLossy_eq_iff

theorem isText_iff {p : Path} : p.IsText ↔ ∃ t, p = .ofText t := by
  constructor
  · intro h
    refine ⟨p.text, ?_⟩
    rw [ofText, p.bytesOf_text.2 h]
  · rintro ⟨t, rfl⟩
    exact Option.isSome_iff_exists.2 ⟨_, Utf8.decode?_encode t.toList⟩

theorem eq_of_text_eq {p q : Path} (hp : p.IsText) (hq : q.IsText) (h : p.text = q.text) :
    p = q := by
  have hbytes : p.bytes = q.bytes := by
    rw [← p.bytesOf_text.2 hp, ← q.bytesOf_text.2 hq, h]
  cases p
  cases q
  exact congrArg Path.mk hbytes

end Path

theorem Settings.callFor_inj {s : Settings} {p q : Path} :
    s.callFor p = s.callFor q ↔ p.text = q.text := by
  simp [callFor]

theorem Conduct.answered {s : Settings} {t : Schedule} {files : List Path} {log : List Exchange}
    {result : Except Failure Result} (h : Conduct s t files log result) {r : Result}
    (hr : result = .ok r) {o : Outcome} (ho : o ∈ r.outcomes) :
    ∃ a, o = .ofAnswer o.path a ∧ (s.callFor o.path, .ok a) ∈ log := by
  cases h with
  | skipped =>
    cases hr
    cases ho
  | @ended given _ _ _ hlog =>
    cases hr
    obtain ⟨d, hd, rfl⟩ := List.mem_map.1 ho
    rw [path_ofAnswer]
    exact ⟨d.2, rfl, (Settings.mem_log_iff hlog).2 ⟨d, hd, rfl⟩⟩
  | @stopped e outcomes _ _ _ houts =>
    cases e with
    | interrupted =>
      cases hr
      exact houts o ho
    | _ => cases hr

/-- A call names its file just if the path is a text, and tells apart what the texts of paths tell
apart. The outcome of a file is what its call was answered. -/
theorem calls_name_texts (s : Settings) :
    (∀ p, ∃ name, s.callFor p = ⟨s.checker, s.checkerArgs ++ [name]⟩ ∧
      (bytesOf name = p.bytes ↔ p.IsText)) ∧
    (∀ p q, s.callFor p = s.callFor q ↔ p.text = q.text) ∧
    Set.InjOn s.callFor {p | p.IsText} ∧
    ∀ {σ : Type} (t : Schedule) (checker : Checker σ) (files : List Path) (state : σ)
      (clock : σ → σ → Nat) (r : Result),
      (s.check t checker files state clock).1 = .ok r → ∀ o ∈ r.outcomes,
        ∃ a, o = .ofAnswer o.path a ∧
          (s.callFor o.path, .ok a) ∈ s.exchanges t checker files state := by
  refine ⟨fun p => ⟨p.text, rfl, p.bytesOf_text⟩, fun p q => s.callFor_inj, ?_, ?_⟩
  · intro p hp q hq h
    exact Path.eq_of_text_eq hp hq (s.callFor_inj.1 h)
  · intro σ t checker files state clock r hr o ho
    exact (conduct_of_check s t checker files state clock).answered hr ho

def anyName : Settings :=
  ⟨[], ["p"], [.ofText "."], "c", ["-l"], 1, none⟩

/-- The name of one directory is no text; that of the other is what stands for it. -/
def lookalikes : Node :=
  .directory true
    [(bytesOf "\ufffd", .directory true [(bytesOf "a.p", .file [] false)]),
      ([0xFF], .directory true [(bytesOf "a.p", .file [] false)])]

def refusesOnly (p : Path) : Checker Unit := fun _ call =>
  (.ok ⟨if call.args.getLast?.map bytesOf = some p.bytes then 1 else 0, ""⟩, ())

/-- A scan finds a file in each directory. One call is made for both and names the first, so the second
passes with a checker that would refuse it. -/
theorem lookalikes_share_call :
    ∃ plain odd : Path,
      scan (fun _ => some lookalikes) anyName.filter anyName.roots = .ok [plain, odd] ∧
      plain ≠ odd ∧ anyName.callFor plain = anyName.callFor odd ∧
      (anyName.callFor odd).args.getLast?.map bytesOf ≠ some odd.bytes ∧
      (anyName.check {} (refusesOnly odd) [odd] ()).1 =
        .ok ⟨.passed, "", 1, [⟨odd, true, "", none⟩], 0⟩ := by
  refine ⟨⟨bytesOf "./\ufffd/a.p"⟩, ⟨bytesOf "./" ++ [0xFF] ++ bytesOf "/a.p"⟩, ?_, ?_, ?_, ?_, ?_⟩
  · rfl
  · decide
  · rfl
  · decide
  · rfl

end SyntaxSweep
