import Mathlib.Data.List.Forall2
import SyntaxSweep.Settings.Discovery
import SyntaxSweep.Proofs.Settings.NormalForms
import SyntaxSweep.Proofs.Steps
import SyntaxSweep.Proofs.Text.Trimming

namespace SyntaxSweep

namespace SettingsProblem

def all : List SettingsProblem :=
  [.emptyPattern, .noExtension, .emptyExtension, .noRoot, .emptyRoot, .noChecker, .noCheckerArg,
    .noJobs, .noTimeout]

def key : SettingsProblem → Key
  | .emptyPattern => .ignored
  | .noExtension | .emptyExtension => .extensions
  | .noRoot | .emptyRoot => .roots
  | .noChecker => .checker
  | .noCheckerArg => .checkerArgs
  | .noJobs => .jobs
  | .noTimeout => .timeout

theorem mem_all (p : SettingsProblem) : p ∈ all := by
  cases p <;> decide

theorem firstOccurrences_map_key : firstOccurrences (all.map key) = Key.all := by
  decide

theorem name_prefix_message (p : SettingsProblem) : p.key.name.toList <+: p.message.toList := by
  cases p <;> decide

end SettingsProblem

theorem trimmed_eq_empty {t : String} : trimmed t = "" ↔ t.toList.all isBlank := by
  rw [List.all_eq_true, trimmed, String.ofList_eq_empty_iff, Text.trim_eq_nil_iff]

namespace Layer

/-- The layer says something that settings may not have, for the reason given. -/
def Breaks (l : Layer) : SettingsProblem → Prop
  | .emptyPattern => ∃ patterns ∈ l.ignored, "" ∈ patterns
  | .noExtension => l.extensions = some []
  | .emptyExtension => ∃ extensions ∈ l.extensions, "" ∈ extensions ∨ "." ∈ extensions
  | .noRoot => l.roots = some []
  | .emptyRoot => ∃ roots ∈ l.roots, "" ∈ roots
  | .noChecker => ∃ checker ∈ l.checker, checker.toList.all isBlank
  | .noCheckerArg => l.checkerArgs = some []
  | .noJobs => l.jobs = some 0
  | .noTimeout => l.timeout = some 0

instance (l : Layer) : DecidablePred l.Breaks
  | .emptyPattern | .noExtension | .emptyExtension | .noRoot | .emptyRoot | .noChecker
  | .noCheckerArg | .noJobs | .noTimeout => by unfold Breaks; infer_instance

/-- The first of the requirements that the layer breaks. -/
def BreaksFirst (l : Layer) (p : SettingsProblem) : Prop :=
  ∃ before after, SettingsProblem.all = before ++ p :: after ∧ l.Breaks p ∧
    ∀ q ∈ before, ¬l.Breaks q

/-- The settings have what the layer says: the patterns in strict order, the extensions less a point
before them and each where it first occurs, and all else as it stands. -/
structure Gives (l : Layer) (s : Settings) : Prop where
  ignored : ∃ patterns ∈ l.ignored, s.ignored.Pairwise (· < ·) ∧ ∀ t, t ∈ s.ignored ↔ t ∈ patterns
  extensions : ∃ extensions ∈ l.extensions, ∃ bare, List.Forall₂ LosesPoint extensions bare ∧
    (s.extensions.Pairwise fun a b => bare.idxOf a < bare.idxOf b) ∧
      ∀ e, e ∈ s.extensions ↔ e ∈ bare
  roots : ∃ roots ∈ l.roots, s.roots = roots.map Path.ofText
  checker : l.checker = some s.checker
  checkerArgs : l.checkerArgs = some s.checkerArgs
  jobs : l.jobs = some s.jobs
  timeout : l.timeout = s.timeout

structure Complete (l : Layer) : Prop where
  ignored : l.ignored.isSome
  extensions : l.extensions.isSome
  roots : l.roots.isSome
  checker : l.checker.isSome
  checkerArgs : l.checkerArgs.isSome
  jobs : l.jobs.isSome

variable {l : Layer} {s : Settings}

theorem complete_onTopOf_defaults (l : Layer) : (l.onTopOf Settings.defaults).Complete := by
  constructor <;> simp [onTopOf, Settings.defaults]

theorem Complete.onTopOf_defaults (h : l.Complete) : l.onTopOf Settings.defaults = l := by
  obtain ⟨ignored, extensions, roots, checker, args, jobs, timeout⟩ := l
  obtain ⟨hignored, hextensions, hroots, hchecker, hargs, hjobs⟩ := h
  simp_all [onTopOf, Settings.defaults, Option.orElse_eq_or, Option.or_of_isSome]

def completed (l : Layer) : Settings where
  ignored := sortedTexts (l.ignored.getD [])
  extensions := firstOccurrences ((l.extensions.getD []).map withoutPoint)
  roots := (l.roots.getD []).map Path.ofText
  checker := l.checker.getD ""
  checkerArgs := l.checkerArgs.getD []
  jobs := l.jobs.getD 0
  timeout := l.timeout

def Meets (l : Layer) : SettingsProblem → Prop
  | .emptyPattern => "" ∉ l.ignored.getD []
  | .noExtension => (l.extensions.getD []).map withoutPoint ≠ []
  | .emptyExtension => "" ∉ (l.extensions.getD []).map withoutPoint
  | .noRoot => l.roots.getD [] ≠ []
  | .emptyRoot => "" ∉ l.roots.getD []
  | .noChecker => trimmed (l.checker.getD "") ≠ ""
  | .noCheckerArg => l.checkerArgs.getD [] ≠ []
  | .noJobs => l.jobs.getD 0 ≠ 0
  | .noTimeout => l.timeout ≠ some 0

instance (l : Layer) : DecidablePred l.Meets
  | .emptyPattern | .noExtension | .emptyExtension | .noRoot | .emptyRoot | .noChecker
  | .noCheckerArg | .noJobs | .noTimeout => by unfold Meets; infer_instance

theorem Complete.meets_iff (h : l.Complete) (p : SettingsProblem) : l.Meets p ↔ ¬l.Breaks p := by
  obtain ⟨patterns, hignored⟩ := Option.isSome_iff_exists.1 h.ignored
  obtain ⟨extensions, hextensions⟩ := Option.isSome_iff_exists.1 h.extensions
  obtain ⟨roots, hroots⟩ := Option.isSome_iff_exists.1 h.roots
  obtain ⟨checker, hchecker⟩ := Option.isSome_iff_exists.1 h.checker
  obtain ⟨args, hargs⟩ := Option.isSome_iff_exists.1 h.checkerArgs
  obtain ⟨jobs, hjobs⟩ := Option.isSome_iff_exists.1 h.jobs
  cases p with
  | emptyPattern => simp [Meets, Breaks, hignored]
  | noExtension => simp [Meets, Breaks, hextensions]
  | emptyExtension =>
    simp only [Meets, Breaks, hextensions, Option.getD_some, Option.mem_some_iff, exists_eq_left',
      empty_mem_map_withoutPoint]
  | noRoot => simp [Meets, Breaks, hroots]
  | emptyRoot => simp [Meets, Breaks, hroots]
  | noChecker => simp [Meets, Breaks, hchecker, trimmed_eq_empty]
  | noCheckerArg => simp [Meets, Breaks, hargs]
  | noJobs => simp [Meets, Breaks, hjobs]
  | noTimeout => exact Iff.rfl

theorem eq_some_getD {α : Type} {o : Option α} (h : o.isSome) (a : α) : o = some (o.getD a) := by
  obtain ⟨b, rfl⟩ := Option.isSome_iff_exists.1 h
  rfl

theorem Complete.gives_completed (h : l.Complete) : l.Gives l.completed where
  ignored := by
    obtain ⟨patterns, hpatterns⟩ := Option.isSome_iff_exists.1 h.ignored
    refine ⟨patterns, hpatterns, pairwise_sortedTexts _, fun t => ?_⟩
    rw [completed, hpatterns]
    exact mem_sortedTexts
  extensions := by
    obtain ⟨extensions, hextensions⟩ := Option.isSome_iff_exists.1 h.extensions
    refine ⟨extensions, hextensions, extensions.map withoutPoint, forall₂_losesPoint.2 rfl, ?_, ?_⟩
    · rw [completed, hextensions]
      exact pairwise_firstOccurrences _
    · intro e
      rw [completed, hextensions]
      exact mem_firstOccurrences
  roots := by
    obtain ⟨roots, hroots⟩ := Option.isSome_iff_exists.1 h.roots
    refine ⟨roots, hroots, ?_⟩
    rw [completed, hroots]
    rfl
  checker := eq_some_getD h.checker ""
  checkerArgs := eq_some_getD h.checkerArgs []
  jobs := eq_some_getD h.jobs 0
  timeout := rfl

theorem Gives.eq_completed (h : l.Gives s) : s = l.completed := by
  obtain ⟨patterns, hpatterns, hsorted, hsame⟩ := h.ignored
  obtain ⟨extensions, hextensions, bare, hbare, hfirsts, hmem⟩ := h.extensions
  obtain ⟨roots, hroots, hpaths⟩ := h.roots
  obtain ⟨ignored, kept, paths, checker, args, jobs, timeout⟩ := s
  rw [forall₂_losesPoint.1 hbare] at hfirsts hmem
  rw [completed, hpatterns, hextensions, hroots, h.checker, h.checkerArgs, h.jobs, h.timeout,
    Settings.mk.injEq]
  exact ⟨eq_sortedTexts hsorted hsame, eq_firstOccurrences hfirsts hmem, hpaths, rfl, rfl, rfl, rfl⟩

end Layer

namespace Settings

theorem ensure_ok_iff {a : Prop} [Decidable a] {p : SettingsProblem} :
    (∃ u, ensure a p = .ok u) ↔ a := by
  by_cases h : a <;> simp [ensure, h]

theorem ensure_error_iff {a : Prop} [Decidable a] {p q : SettingsProblem} :
    ensure a p = .error q ↔ ¬a ∧ p = q := by
  by_cases h : a <;> simp [ensure, h]

/-- The requirements looked at one after the other, up to the first that is not met. -/
def inspect (l : Layer) : Except SettingsProblem Unit :=
  SettingsProblem.all.foldlM (fun _ p => ensure (l.Meets p) p) ()

theorem ofLayer_eq (l : Layer) :
    ofLayer l = do
      inspect (l.onTopOf defaults)
      return (l.onTopOf defaults).completed := by
  simp only [ofLayer, inspect, SettingsProblem.all, List.foldlM_cons, List.foldlM_nil, bind_assoc,
    pure_bind, Layer.Meets, Layer.completed]

variable {l : Layer} {s : Settings} {p : SettingsProblem}

theorem inspect_outcome (h : l.Complete) :
    ((∃ u, inspect l = .ok u) ↔ ∀ p, ¬l.Breaks p) ∧
      ∀ p, inspect l = .error p ↔ l.BreaksFirst p := by
  have hgood : ∀ p ∈ SettingsProblem.all, ∀ _ : Unit,
      (∃ u, ensure (l.Meets p) p = .ok u) ↔ ¬l.Breaks p :=
    fun p _ _ => ensure_ok_iff.trans (h.meets_iff p)
  have hbad : ∀ p ∈ SettingsProblem.all, ∀ _ : Unit, ∀ q,
      ensure (l.Meets p) p = .error q ↔ l.Breaks p ∧ p = q := by
    intro p _ _ q
    rw [ensure_error_iff, h.meets_iff, not_not]
  obtain ⟨hok, herror⟩ := foldlM_outcome hgood hbad ()
  refine ⟨hok.trans ⟨fun h p => h p p.mem_all, fun h p _ => h p⟩, fun p => (herror p).trans ⟨?_, ?_⟩⟩
  · rintro ⟨before, p, after, hall, hbefore, hbreaks, rfl⟩
    exact ⟨before, after, hall, hbreaks, hbefore⟩
  · rintro ⟨before, after, hall, hbreaks, hbefore⟩
    exact ⟨before, p, after, hall, hbefore, hbreaks, rfl⟩

theorem ofLayer_ok_iff : ofLayer l = .ok s ↔
    (∀ p, ¬(l.onTopOf defaults).Breaks p) ∧ (l.onTopOf defaults).Gives s := by
  have hfull := l.complete_onTopOf_defaults
  rw [ofLayer_eq, bind_ok_iff, ← (inspect_outcome hfull).1]
  constructor
  · rintro ⟨u, hu, ⟨⟩⟩
    exact ⟨⟨u, hu⟩, hfull.gives_completed⟩
  · rintro ⟨⟨u, hu⟩, hgives⟩
    exact ⟨u, hu, congrArg Except.ok hgives.eq_completed.symm⟩

theorem ofLayer_error_iff : ofLayer l = .error p ↔ (l.onTopOf defaults).BreaksFirst p := by
  rw [ofLayer_eq, ← (inspect_outcome l.complete_onTopOf_defaults).2]
  constructor
  · intro h
    obtain h | ⟨u, -, h⟩ := bind_error h
    · exact h
    · cases h
  · intro h
    rw [h]
    rfl

theorem extensions_of_ofLayer (h : ofLayer l = .ok s) :
    s.extensions ≠ [] ∧ s.extensions.Nodup ∧ "" ∉ s.extensions := by
  have hfull := l.complete_onTopOf_defaults
  obtain ⟨hmeets, hgives⟩ := ofLayer_ok_iff.1 h
  obtain rfl := hgives.eq_completed
  refine ⟨fun hnil => ?_, nodup_firstOccurrences _, fun hempty => ?_⟩
  · apply (hfull.meets_iff .noExtension).2 (hmeets _)
    refine List.eq_nil_iff_forall_not_mem.2 fun e he => ?_
    have hkept : e ∈ (l.onTopOf defaults).completed.extensions := mem_firstOccurrences.2 he
    rw [hnil] at hkept
    cases hkept
  · exact (hfull.meets_iff .emptyExtension).2 (hmeets _) (mem_firstOccurrences.1 hempty)

end Settings

namespace Layer

variable {l : Layer} {s : Settings} {e : Failure}

theorem settings_ok_iff : l.settings = .ok s ↔ Settings.ofLayer l = .ok s := by
  rw [Layer.settings]
  split <;> simp_all

theorem settings_error_iff :
    l.settings = .error e ↔ ∃ p, e = .settings (.refused p) ∧ Settings.ofLayer l = .error p := by
  rw [Layer.settings]
  split
  · simp_all
  · next p hp => simp [hp, eq_comm]

end Layer

/-- A layer, completed by the defaults, is accepted just if it breaks no requirement, and gives the
settings that it says. Else it is refused for the first one that it breaks, in the order of the fields,
and the message begins with the name of the field. -/
theorem settings_of_layer (l : Layer) :
    ((∃ s, l.settings = .ok s) ↔ ∀ p, ¬(l.onTopOf Settings.defaults).Breaks p) ∧
    (∀ s, l.settings = .ok s ↔ (∀ p, ¬(l.onTopOf Settings.defaults).Breaks p) ∧
      (l.onTopOf Settings.defaults).Gives s) ∧
    (∀ s, l.settings = .ok s →
      s.extensions ≠ [] ∧ s.extensions.Nodup ∧ "" ∉ s.extensions) ∧
    (∀ e, l.settings = .error e ↔
      ∃ p, e = .settings (.refused p) ∧ (l.onTopOf Settings.defaults).BreaksFirst p) ∧
    (∀ p : SettingsProblem, p.key.name.toList <+: p.message.toList) ∧
    firstOccurrences (SettingsProblem.all.map SettingsProblem.key) = Key.all := by
  have hfull := l.complete_onTopOf_defaults
  refine ⟨⟨?_, fun h => ?_⟩, fun s => Layer.settings_ok_iff.trans Settings.ofLayer_ok_iff,
    fun s h => Settings.extensions_of_ofLayer (Layer.settings_ok_iff.1 h), fun e => ?_,
    SettingsProblem.name_prefix_message, SettingsProblem.firstOccurrences_map_key⟩
  · rintro ⟨s, hs⟩
    exact (Settings.ofLayer_ok_iff.1 (Layer.settings_ok_iff.1 hs)).1
  · exact ⟨_, Layer.settings_ok_iff.2 (Settings.ofLayer_ok_iff.2 ⟨h, hfull.gives_completed⟩)⟩
  · rw [Layer.settings_error_iff]
    simp only [Settings.ofLayer_error_iff]

/-- Says the same more than once, and in another order than it is kept. -/
def untidyLayer : Layer where
  ignored := some ["b", "a", "b"]
  extensions := some [".php", "..x", "php", "inc", ".inc"]
  roots := some ["./web/", "."]
  jobs := some 2

def faultyLayer : Layer where
  extensions := some ["php", ".."]
  roots := some ["web", ""]
  checker := some "\t\u3000"
  timeout := some 0

theorem untidy_layer_accepted :
    untidyLayer.settings = .ok ⟨["a", "b"], ["php", ".x", "inc"], [.ofText "./web/", .ofText "."],
      "php", ["-l"], 2, none⟩ ∧
    faultyLayer.settings = .error (.settings (.refused .emptyRoot)) := by
  refine ⟨((settings_of_layer untidyLayer).2.1 _).2 ⟨?_, ?_⟩,
    ((settings_of_layer faultyLayer).2.2.2.1 _).2 ⟨.emptyRoot, rfl, ?_⟩⟩
  · intro p
    cases p <;> decide
  · exact {
      ignored := ⟨_, rfl, by decide, fun t => by simp; tauto⟩
      extensions := by
        refine ⟨_, rfl, ["php", ".x", "php", "inc", "inc"], ?_, by decide, fun e => by simp; tauto⟩
        simp [LosesPoint]
      roots := ⟨_, rfl, rfl⟩
      checker := rfl
      checkerArgs := rfl
      jobs := rfl
      timeout := rfl }
  · exact ⟨[.emptyPattern, .noExtension, .emptyExtension, .noRoot], _, rfl, by decide, by decide⟩

end SyntaxSweep
