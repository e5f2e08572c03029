import SyntaxSweep.Settings.Basic
import SyntaxSweep.Settings.Reading
import SyntaxSweep.CommandLine.Arguments

namespace SyntaxSweep

open CommandLine (Arguments)

def Key.Content : Key → Type
  | .ignored | .extensions | .roots | .checkerArgs => List String
  | .checker => String
  | .jobs | .timeout => Nat

namespace Layer

def said? (l : Layer) : (key : Key) → Option key.Content
  | .ignored => l.ignored
  | .extensions => l.extensions
  | .roots => l.roots
  | .checker => l.checker
  | .checkerArgs => l.checkerArgs
  | .jobs => l.jobs
  | .timeout => l.timeout

/-- The layer with something else said for a key, or nothing. -/
def saying (l : Layer) : (key : Key) → Option key.Content → Layer
  | .ignored, v => { l with ignored := v }
  | .extensions, v => { l with extensions := v }
  | .roots, v => { l with roots := v }
  | .checker, v => { l with checker := v }
  | .checkerArgs, v => { l with checkerArgs := v }
  | .jobs, v => { l with jobs := v }
  | .timeout, v => { l with timeout := v }

variable {a b : Layer}

theorem eq_of_said (h : ∀ key, a.said? key = b.said? key) : a = b := by
  cases a with
  | mk =>
    cases b with
    | mk =>
      congr
      · exact h .ignored
      · exact h .extensions
      · exact h .roots
      · exact h .checker
      · exact h .checkerArgs
      · exact h .jobs
      · exact h .timeout

theorem said?_empty (key : Key) : empty.said? key = none := by
  cases key <;> rfl

theorem said?_onTopOf (high low : Layer) (key : Key) :
    (high.onTopOf low).said? key = (high.said? key).or (low.said? key) := by
  cases key <;> exact Option.orElse_eq_or

theorem stacked_append (high low : List Layer) :
    stacked (high ++ low) = (stacked high).onTopOf (stacked low) := by
  induction high with
  | nil => exact (empty_onTopOf _).symm
  | cons l high ih =>
    change l.onTopOf (stacked (high ++ low)) = _
    rw [ih, ← onTopOf_assoc]
    rfl

theorem said?_saying (l : Layer) (key : Key) (v : Option key.Content) :
    (l.saying key v).said? key = v := by
  cases key <;> rfl

theorem said?_saying_of_ne (l : Layer) {key other : Key} (h : other ≠ key)
    (v : Option key.Content) : (l.saying key v).said? other = l.said? other := by
  cases key <;> cases other
  any_goals rfl
  all_goals exact absurd rfl h

theorem onTopOf_saying {high : Layer} {key : Key} (h : (high.said? key).isSome) (low : Layer)
    (v : Option key.Content) : high.onTopOf (low.saying key v) = high.onTopOf low := by
  obtain ⟨w, hw⟩ := Option.isSome_iff_exists.1 h
  apply eq_of_said
  intro other
  rw [said?_onTopOf, said?_onTopOf]
  by_cases ho : other = key
  · subst ho
    rw [hw, Option.some_or, Option.some_or]
  · rw [said?_saying_of_ne low ho]

end Layer

/-- Of the layers, the highest first, the first that says something for the key says this. -/
def SaidHighest (layers : List Layer) (key : Key) (v : key.Content) : Prop :=
  ∃ before l after, layers = before ++ l :: after ∧ l.said? key = some v ∧
    ∀ m ∈ before, m.said? key = none

theorem saidHighest_iff {layers : List Layer} {key : Key} {v : key.Content} :
    SaidHighest layers key v ↔ layers.findSome? (·.said? key) = some v := by
  rw [List.findSome?_eq_some_iff]
  rfl

/-- Layers put over each other two at a time, in some grouping. -/
inductive Pile where
  | one (l : Layer)
  | two (high low : Pile)

namespace Pile

def layers : Pile → List Layer
  | one l => [l]
  | two high low => high.layers ++ low.layers

def merged : Pile → Layer
  | one l => l
  | two high low => high.merged.onTopOf low.merged

theorem said?_merged (p : Pile) (key : Key) :
    p.merged.said? key = p.layers.findSome? (·.said? key) := by
  induction p with
  | one l => simp [merged, layers]
  | two high low ihhigh ihlow =>
    rw [merged, Layer.said?_onTopOf, ihhigh, ihlow, layers, List.findSome?_append]

theorem merged_eq_stacked (p : Pile) : p.merged = Layer.stacked p.layers := by
  induction p with
  | one l => exact l.onTopOf_empty.symm
  | two high low ihhigh ihlow =>
    rw [merged, ihhigh, ihlow, layers, Layer.stacked_append]

theorem merged_congr {p q : Pile}
    (h : ∀ key v, SaidHighest p.layers key v ↔ SaidHighest q.layers key v) :
    p.merged = q.merged := by
  apply Layer.eq_of_said
  intro key
  rw [p.said?_merged, q.said?_merged]
  apply Option.ext
  intro v
  rw [← saidHighest_iff, ← saidHighest_iff]
  exact h key v

end Pile

theorem given_or (l : List String) (lower : Option (List String)) :
    (Arguments.given l).or lower = if l = [] then lower else some l := by
  unfold Arguments.given
  split
  · exact Option.none_or
  · exact Option.some_or

/-- Layers over each other, however they are grouped, say for each key what the highest of them says
that speaks of it. So settings do not change with what is said for a key below a layer that speaks of
it, even where that would be refused. A list of the command line takes the place of the one in the
settings file, unless it was not given. -/
theorem highest_layer_decides :
    (∀ (p : Pile) key v, p.merged.said? key = some v ↔ SaidHighest p.layers key v) ∧
    (∀ p : Pile, p.merged = Layer.stacked p.layers) ∧
    (∀ l : Layer, Layer.empty.onTopOf l = l ∧ l.onTopOf .empty = l) ∧
    (∀ p q : Pile, (∀ key v, SaidHighest p.layers key v ↔ SaidHighest q.layers key v) →
      Settings.ofLayer p.merged = Settings.ofLayer q.merged) ∧
    (∀ (high low : Layer) key v, (high.said? key).isSome →
      Settings.ofLayer (high.onTopOf (low.saying key v)) = Settings.ofLayer (high.onTopOf low)) ∧
    ∀ (args : Arguments) (file : Layer),
      (args.layer.onTopOf file).roots = (if args.roots = [] then file.roots else some args.roots) ∧
      (args.layer.onTopOf file).extensions =
        (if args.extensions = [] then file.extensions else some args.extensions) ∧
      (args.layer.onTopOf file).ignored =
        (if args.patterns = [] then file.ignored else some args.patterns) := by
  refine ⟨fun p key v => ?_, Pile.merged_eq_stacked, fun l => ⟨l.empty_onTopOf, l.onTopOf_empty⟩,
    fun p q h => ?_, fun high low key v h => ?_, fun args file => ⟨?_, ?_, ?_⟩⟩
  · rw [p.said?_merged, saidHighest_iff]
  · rw [Pile.merged_congr h]
  · rw [Layer.onTopOf_saying h]
  · exact (args.layer.said?_onTopOf file .roots).trans (given_or args.roots file.roots)
  · exact (args.layer.said?_onTopOf file .extensions).trans
      (given_or args.extensions file.extensions)
  · exact (args.layer.said?_onTopOf file .ignored).trans (given_or args.patterns file.ignored)

def upperLayer : Layer where
  jobs := some 2
  checkerArgs := some ["-l"]
  extensions := some [".inc"]

/-- Would be refused for its extensions, and then for its jobs. -/
def refusedLayer : Layer where
  jobs := some 0
  extensions := some []
  roots := some ["web"]

def otherRefusedLayer : Layer where
  checkerArgs := some []
  extensions := some ["php"]
  roots := some ["web"]

theorem refused_layers_covered :
    Settings.ofLayer refusedLayer = .error .noExtension ∧
      Settings.ofLayer otherRefusedLayer = .error .noCheckerArg ∧
      Settings.ofLayer (Pile.merged (.two (.one upperLayer) (.one refusedLayer))) =
        Settings.ofLayer (Pile.merged (.two (.two (.one .empty) (.one upperLayer))
          (.one otherRefusedLayer))) := by
  refine ⟨rfl, rfl, highest_layer_decides.2.2.2.1 _ _ fun key v => ?_⟩
  rw [saidHighest_iff, saidHighest_iff]
  cases key <;> rfl

end SyntaxSweep
