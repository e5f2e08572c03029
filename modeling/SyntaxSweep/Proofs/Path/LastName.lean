import Mathlib.Data.List.Induction
import SyntaxSweep.Proofs.Path.Below

namespace SyntaxSweep.Path

/-- The path ends in the name. It stands at the start or behind a slash, and nothing stands behind it but
slashes and slashes with a dot. -/
structure EndsInName (p : Path) (name : Bytes) : Prop where
  isName : IsName name
  bytes_eq : ∃ (lead : Bytes) (marks : List Bytes), p.bytes = lead ++ name ++ marks.flatten ∧
    (lead = [] ∨ lead.getLast? = some slash) ∧ ∀ m ∈ marks, m = [slash] ∨ m = [slash, dot]

section Marks

variable {p : Path} {name : Bytes} {l marks fillers : List Bytes}

theorem pieces_marks (hmarks : ∀ m ∈ marks, m = [slash] ∨ m = [slash, dot]) (l : Bytes) :
    pieces slash (l ++ marks.flatten) = pieces slash l ++ marks.map List.tail := by
  induction marks generalizing l with
  | nil => simp
  | cons m marks ih =>
    obtain ⟨hm, hmore⟩ := List.forall_mem_cons.1 hmarks
    obtain ⟨filler, rfl, hfiller⟩ : ∃ filler, m = slash :: filler ∧ pieces slash filler = [filler] := by
      obtain rfl | rfl := hm
      · exact ⟨[], rfl, rfl⟩
      · exact ⟨[dot], rfl, rfl⟩
    rw [List.flatten_cons, List.cons_append, pieces_append_cons, ih hmore, hfiller]
    rfl

theorem joined_fillers (name : Bytes) (fillers : List Bytes) :
    joined slash (name :: fillers) = name ++ (fillers.map (slash :: ·)).flatten := by
  induction fillers generalizing name with
  | nil => simp [joined]
  | cons filler fillers ih =>
    rw [joined_cons name (List.cons_ne_nil _ _), ih, List.map_cons, List.flatten_cons]
    rfl

theorem stepsOf_fillers (h : ∀ f ∈ fillers, isFiller f) : stepsOf fillers = [] := by
  have hnone : fillers.filter (!isFiller ·) = [] :=
    List.filter_eq_nil_iff.2 fun f hf => by simp [h f hf]
  rw [stepsOf, hnone]
  rfl

theorem exists_last_piece {c : Component} (h : (stepsOf l).getLast? = some c) :
    ∃ before a fillers, l = before ++ a :: fillers ∧ isFiller a = false ∧ stepOf a = c ∧
      ∀ f ∈ fillers, isFiller f := by
  induction l using List.reverseRecOn with
  | nil => cases h
  | append_singleton l b ih =>
    cases hb : isFiller b with
    | true =>
      rw [stepsOf_append, stepsOf_fillers (List.forall_mem_singleton.2 hb), List.append_nil] at h
      obtain ⟨before, a, fillers, rfl, ha, hc, hfillers⟩ := ih h
      refine ⟨before, a, fillers ++ [b], by simp, ha, hc, ?_⟩
      exact List.forall_mem_append.2 ⟨hfillers, List.forall_mem_singleton.2 hb⟩
    | false =>
      have hone : stepsOf [b] = [stepOf b] := by simp [stepsOf, hb]
      rw [stepsOf_append, hone, List.getLast?_concat] at h
      exact ⟨l, b, [], rfl, hb, Option.some.inj h, List.forall_mem_nil _⟩

theorem EndsInName.fileName?_eq (h : p.EndsInName name) : p.fileName? = some name := by
  obtain ⟨lead, marks, hbytes, hlead, hmarks⟩ := h.bytes_eq
  have hname : pieces slash name = [name] := pieces_of_not_mem h.isName.no_slash
  obtain ⟨before, hbefore⟩ : ∃ before, pieces slash (lead ++ name) = before ++ [name] := by
    obtain rfl | hlast := hlead
    · exact ⟨[], hname⟩
    · obtain ⟨more, rfl⟩ := List.getLast?_eq_some_iff.1 hlast
      refine ⟨pieces slash more, ?_⟩
      rw [List.append_assoc, List.singleton_append, pieces_append_cons, hname]
  have hfillers : stepsOf (marks.map List.tail) = [] := by
    refine stepsOf_fillers fun f hf => ?_
    obtain ⟨m, hm, rfl⟩ := List.mem_map.1 hf
    obtain rfl | rfl := hmarks m hm
    · rfl
    · rfl
  have hstep : stepsOf [name] = [.name name] :=
    stepsOf_names (List.forall_mem_singleton.2 h.isName)
  rw [fileName?, components_eq, segments, hbytes, pieces_marks hmarks, hbefore, stepsOf_append,
    hfillers, List.append_nil, stepsOf_append, hstep, ← List.append_assoc, List.getLast?_concat]

theorem getLast?_stepsOf (h : p.fileName? = some name) :
    (stepsOf p.segments).getLast? = some (.name name) := by
  have hlast : p.components.getLast? = some (.name name) := by
    unfold fileName? at h
    split at h
    · next hname => rw [hname, Option.some.inj h]
    · cases h
  rw [components_eq, List.getLast?_append] at hlast
  cases hsteps : (stepsOf p.segments).getLast? with
  | some c => simpa [hsteps] using hlast
  | none =>
    -- The mark of a path is the root or the place itself.
    rw [hsteps, Option.none_or] at hlast
    have hmark := List.mem_of_getLast? hlast
    unfold mark at hmark
    split at hmark
    · simp at hmark
    · split at hmark <;> simp at hmark
    · simp at hmark

theorem fileName?_eq_some_iff : p.fileName? = some name ↔ p.EndsInName name := by
  refine ⟨fun h => ?_, EndsInName.fileName?_eq⟩
  obtain ⟨before, a, fillers, hsegments, ha, hstep, hfillers⟩ :=
    exists_last_piece (getLast?_stepsOf h)
  unfold stepOf at hstep
  split at hstep
  · cases hstep
  · next hdots =>
    obtain rfl := Component.name.inj hstep
    have hnil : a ≠ [] := fun he => by simp [he, isFiller] at ha
    have hdot : a ≠ [dot] := fun he => by simp [he, isFiller] at ha
    have hmem : a ∈ p.segments := by simp [hsegments]
    have hmarks : ∀ m ∈ fillers.map (slash :: ·), m = [slash] ∨ m = [slash, dot] := by
      intro m hm
      obtain ⟨filler, hfiller, rfl⟩ := List.mem_map.1 hm
      simpa [isFiller] using hfillers filler hfiller
    refine ⟨⟨hnil, hdot, hdots, not_mem_of_mem_pieces hmem⟩, ?_⟩
    rw [← p.joined_segments, hsegments]
    by_cases hbefore : before = []
    · refine ⟨[], fillers.map (slash :: ·), ?_, .inl rfl, hmarks⟩
      rw [hbefore, List.nil_append, joined_fillers, List.nil_append]
    · refine ⟨joined slash before ++ [slash], fillers.map (slash :: ·), ?_, .inr (by simp), hmarks⟩
      rw [joined_append hbefore (List.cons_ne_nil _ _), joined_fillers]
      simp

end Marks

end SyntaxSweep.Path
