import SyntaxSweep.Proofs.Settings.Acceptance
import SyntaxSweep.Proofs.Text.Utf8

namespace SyntaxSweep

theorem Path.text_ofText (t : String) : (Path.ofText t).text = t :=
  lossyText_bytesOf t

namespace Settings

def layer (s : Settings) : Layer where
  ignored := some s.ignored
  extensions := some s.extensions
  roots := some (s.roots.map Path.text)
  checker := some s.checker
  checkerArgs := some s.checkerArgs
  jobs := some s.jobs
  timeout := s.timeout

theorem complete_layer (s : Settings) : s.layer.Complete := by
  constructor <;> rfl

/-- The settings with one more point dropped from each extension. -/
def barer (s : Settings) : Settings :=
  { s with extensions := firstOccurrences (s.extensions.map withoutPoint) }

variable {l : Layer} {s : Settings}

theorem roots_layer (h : l.Gives s) : s.layer.roots = l.roots := by
  obtain ⟨roots, hsaid, hroots⟩ := h.roots
  have hspelled : Path.text ∘ Path.ofText = id := funext Path.text_ofText
  rw [Option.mem_def.1 hsaid, layer, hroots, List.map_map, hspelled, List.map_id]

theorem completed_layer (h : l.Gives s) : s.layer.completed = s.barer := by
  obtain ⟨_, _, hsorted, _⟩ := h.ignored
  obtain ⟨roots, hsaid, hroots⟩ := h.roots
  have hignored : sortedTexts s.ignored = s.ignored := (eq_sortedTexts hsorted fun _ => Iff.rfl).symm
  have hpaths : (s.layer.roots.getD []).map Path.ofText = s.roots := by
    rw [roots_layer h, hsaid, hroots]
    rfl
  rw [Layer.completed, hpaths, barer]
  congr

/-- Of what was accepted, nothing but an extension that is only a point can be refused. -/
theorem breaks_layer (h : ofLayer l = .ok s) {p : SettingsProblem} :
    s.layer.Breaks p ↔ p = .emptyExtension ∧ "." ∈ s.extensions := by
  obtain ⟨hmeets, hgives⟩ := ofLayer_ok_iff.1 h
  obtain ⟨hsome, -, hnonempty⟩ := extensions_of_ofLayer h
  have hnot : ¬(l.onTopOf defaults).Breaks p := hmeets p
  cases p with
  | emptyExtension => simp [Layer.Breaks, layer, hnonempty]
  | noExtension => simp [Layer.Breaks, layer, hsome]
  | emptyPattern =>
    obtain ⟨patterns, hsaid, -, hsame⟩ := hgives.ignored
    simpa [Layer.Breaks, layer, hsame, Option.mem_def.1 hsaid] using hnot
  | noRoot | emptyRoot => simpa [Layer.Breaks, roots_layer hgives] using hnot
  | noChecker => simpa [Layer.Breaks, layer, hgives.checker] using hnot
  | noCheckerArg => simpa [Layer.Breaks, layer, hgives.checkerArgs] using hnot
  | noJobs => simpa [Layer.Breaks, layer, hgives.jobs] using hnot
  | noTimeout => simpa [Layer.Breaks, layer, hgives.timeout] using hnot

/-- What was accepted is refused only for an extension that is a point, and else loses more points. -/
theorem ofLayer_layer (h : ofLayer l = .ok s) :
    ofLayer s.layer = if "." ∈ s.extensions then .error .emptyExtension else .ok s.barer := by
  have hfull := s.complete_layer.onTopOf_defaults
  split
  · next hpoint =>
    rw [ofLayer_error_iff, hfull]
    refine ⟨[.emptyPattern, .noExtension], _, rfl, (breaks_layer h).2 ⟨rfl, hpoint⟩,
      fun q hq hbreaks => ?_⟩
    obtain rfl := ((breaks_layer h).1 hbreaks).1
    simp at hq
  · next hpoint =>
    rw [ofLayer_ok_iff, hfull, ← completed_layer (ofLayer_ok_iff.1 h).2]
    exact ⟨fun p hbreaks => hpoint ((breaks_layer h).1 hbreaks).2, s.complete_layer.gives_completed⟩

theorem ofLayer_layer_iff (h : ofLayer l = .ok s) :
    ofLayer s.layer = .ok s ↔ ∀ e ∈ s.extensions, e.toList.head? ≠ some '.' := by
  have hself : s.barer = s ↔ ∀ e ∈ s.extensions, e.toList.head? ≠ some '.' := by
    have hkept := firstOccurrences_map_eq_self (extensions_of_ofLayer h).2.1 (f := withoutPoint)
    simp only [withoutPoint_eq_self] at hkept
    rw [← hkept, barer]
    exact ⟨fun heq => congrArg extensions heq, fun heq => by rw [heq]⟩
  rw [ofLayer_layer h, ← hself]
  split
  · next hpoint =>
    refine ⟨nofun, fun heq => ?_⟩
    exact absurd rfl (hself.1 heq "." hpoint)
  · rw [Except.ok.injEq]

theorem head?_extensions (h : l.Gives s) :
    (∃ e ∈ s.extensions, e.toList.head? = some '.') ↔
      ∃ extensions ∈ l.extensions, ∃ e ∈ extensions, ['.', '.'] <+: e.toList := by
  obtain ⟨extensions, hsaid, bare, hbare, -, hmem⟩ := h.extensions
  rw [forall₂_losesPoint.1 hbare] at hmem
  simp only [hmem, List.mem_map, Option.mem_def.1 hsaid, Option.mem_some_iff, exists_eq_left',
    exists_exists_and_eq_and, head?_withoutPoint]

end Settings

/-- What was accepted stays as it is when it is said again just if none of its extensions begins with a
point, and those that do were given with two. Said again, they lose one more point; only an extension
that is nothing else is refused. -/
theorem settings_restated {l : Layer} {s : Settings} (h : l.settings = .ok s) :
    (s.layer.settings = .ok s ↔ ∀ e ∈ s.extensions, e.toList.head? ≠ some '.') ∧
    ((∃ e ∈ s.extensions, e.toList.head? = some '.') ↔
      ∃ extensions ∈ (l.onTopOf Settings.defaults).extensions,
        ∃ e ∈ extensions, ['.', '.'] <+: e.toList) ∧
    s.layer.settings =
      if "." ∈ s.extensions then .error (.settings (.refused .emptyExtension)) else .ok s.barer := by
  rw [Layer.settings_ok_iff] at h ⊢
  refine ⟨Settings.ofLayer_layer_iff h,
    Settings.head?_extensions (Settings.ofLayer_ok_iff.1 h).2, ?_⟩
  have hagain := Settings.ofLayer_layer h
  split at hagain
  · next hpoint => rw [if_pos hpoint, Layer.settings, hagain]
  · next hpoint => rw [if_neg hpoint, Layer.settings, hagain]

def pointedLayer : Layer where
  extensions := some [".php", "tar.gz", "php"]
  ignored := some ["b", "a", "b"]
  roots := some ["./web/"]

theorem pointed_layer_restated :
    ∃ s, pointedLayer.settings = .ok s ∧ s.extensions = ["php", "tar.gz"] ∧
      s.layer.settings = .ok s :=
  ⟨_, rfl, rfl, (@settings_restated pointedLayer _ rfl).1.2 (by decide)⟩

def doubledLayer : Layer where
  extensions := some ["..php"]

/-- The settings have an extension that begins with a point, and lose it when they are said again. -/
theorem doubled_point_kept :
    ∃ s, doubledLayer.settings = .ok s ∧ s.extensions = [".php"] ∧
      s.layer.settings ≠ .ok s ∧ s.layer.settings = .ok { s with extensions := ["php"] } := by
  refine ⟨_, rfl, rfl, fun hsame => ?_, rfl⟩
  exact absurd (Except.ok.inj hsame) (by decide)

end SyntaxSweep
