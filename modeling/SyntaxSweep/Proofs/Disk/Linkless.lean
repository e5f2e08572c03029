import SyntaxSweep.Disk.Resolution
import SyntaxSweep.Proofs.Disk.Tree
import SyntaxSweep.Proofs.Path.Shown
import Mathlib.Data.Set.List

namespace SyntaxSweep

namespace Node

mutual

def linkless : Node → Bool
  | .file _ _ | .special => true
  | .link _ => false
  | .directory _ entries => linklessEntries entries

def linklessEntries : List (Bytes × Node) → Bool
  | [] => true
  | (_, node) :: rest => node.linkless && linklessEntries rest

end

theorem linklessEntries_cons {name : Bytes} {node : Node} {rest : List (Bytes × Node)} :
    linklessEntries ((name, node) :: rest) ↔ node.linkless ∧ linklessEntries rest := by
  rw [linklessEntries, Bool.and_eq_true]

theorem linkless_named? {entries : List (Bytes × Node)} (h : linklessEntries entries) {name : Bytes}
    {node : Node} (hn : named? name entries = some node) : node.linkless := by
  induction entries with
  | nil => cases hn
  | cons d rest ih =>
    obtain ⟨m, other⟩ := d
    obtain ⟨hother, hrest⟩ := linklessEntries_cons.1 h
    rw [named?] at hn
    split at hn
    · cases hn
      exact hother
    · exact ih hrest hn

theorem linkless_at? {node child : Node} (h : node.linkless) {names : List Bytes}
    (hc : node.at? names = some child) : child.linkless := by
  induction names generalizing node with
  | nil =>
    cases hc
    exact h
  | cons n rest ih =>
    obtain ⟨next, hn, hrest⟩ := Option.bind_eq_some_iff.1 hc
    cases node with
    | directory readable entries => exact ih (linkless_named? h hn) hrest
    | _ => cases hn

theorem at?_append (l r : List Bytes) (node : Node) :
    node.at? (l ++ r) = (node.at? l).bind (at? r) := by
  induction l generalizing node with
  | nil => rfl
  | cons n rest ih =>
    rw [List.cons_append, at?, at?, Option.bind_assoc]
    exact congrArg _ (funext ih)

end Node

/-- Where a step leads from a place, as it is written. -/
def Component.lead (place : List Bytes) : Component → List Bytes
  | .root => []
  | .here => place
  | .up => place.dropLast
  | .name n => place ++ [n]

/-- Where steps lead from the working directory, as they are written. -/
def Disk.lead (d : Disk) (steps : List Component) : List Bytes :=
  steps.foldl Component.lead d.directory

theorem foldl_lead_names (place names : List Bytes) :
    (names.map Component.name).foldl Component.lead place = place ++ names := by
  induction names generalizing place with
  | nil => exact (List.append_nil place).symm
  | cons n rest ih =>
    rw [List.map_cons, List.foldl_cons, ih, Component.lead, List.append_assoc]
    rfl

namespace Path

theorem stepsOf_cons_up (segments : List Bytes) :
    stepsOf ([dot, dot] :: segments) = .up :: stepsOf segments := by
  rfl

theorem stepsOf_cons_name {segment : Bytes} (hfiller : isFiller segment = false)
    (hup : segment ≠ [dot, dot]) (segments : List Bytes) :
    stepsOf (segment :: segments) = .name segment :: stepsOf segments := by
  rw [stepsOf, List.filter_cons_of_pos (by rw [hfiller]; rfl), List.map_cons, stepOf, if_neg hup]
  rfl

theorem stepsOf_cases {segments : List Bytes} {step : Component} (h : step ∈ stepsOf segments) :
    step = .up ∨ ∃ n, step = .name n := by
  obtain ⟨segment, -, rfl⟩ := List.mem_map.1 h
  rw [stepOf]
  split
  · exact .inl rfl
  · exact .inr ⟨segment, rfl⟩

theorem mark_segments (p : Path) : mark p.segments =
    if p.isAbsolute then [.root] else if p.segments.head? = some [dot] then [.here] else [] := by
  obtain ⟨bytes⟩ := p
  cases bytes with
  | nil => rfl
  | cons b rest =>
    by_cases hb : b = slash
    · have habsolute : (⟨b :: rest⟩ : Path).isAbsolute := by rw [isAbsolute, hb]; rfl
      rw [if_pos habsolute, segments, pieces, if_pos hb, mark_root (pieces_ne_nil slash rest)]
    · have habsolute : ¬(⟨b :: rest⟩ : Path).isAbsolute := by simp [isAbsolute, hb]
      obtain ⟨first, more, hfirst⟩ := List.exists_cons_of_ne_nil (pieces_ne_nil slash rest)
      rw [if_neg habsolute, segments, pieces, if_neg hb, hfirst, mark_cons (List.cons_ne_nil b first)]
      simp

theorem key_eq (p : Path) :
    p.key = (if p.isAbsolute then [.root] else []) ++ stepsOf p.segments := by
  have hsteps : (stepsOf p.segments).filter (· ≠ .here) = stepsOf p.segments := by
    apply List.filter_eq_self.2
    intro step hstep
    obtain rfl | ⟨n, rfl⟩ := stepsOf_cases hstep <;> rfl
  rw [key, components_eq, List.filter_append, hsteps, mark_segments]
  split
  · rfl
  · split <;> rfl

/-- The steps of a path that does not go upwards are names, after the root if it is absolute. -/
theorem exists_names_of_key {p : Path} (h : .up ∉ p.components) :
    ∃ names : List Bytes, p.key = (if p.isAbsolute then [.root] else []) ++ names.map .name := by
  rw [components_eq, List.mem_append, not_or] at h
  have hrange : stepsOf p.segments ∈ Set.range (List.map Component.name) := by
    rw [Set.range_list_map]
    intro step hstep
    obtain rfl | ⟨n, rfl⟩ := stepsOf_cases hstep
    · exact absurd hstep h.2
    · exact ⟨n, rfl⟩
  obtain ⟨names, hnames⟩ := hrange
  exact ⟨names, by rw [key_eq, hnames]⟩

end Path

namespace Disk

variable {d : Disk} {tree : Node} {follow : Bool} {links : Nat} {p : Path}
  {place todo way : List Bytes}

theorem ne_link_of_named? (hl : tree.linkless) {readable : Bool} {entries : List (Bytes × Node)}
    (hplace : tree.at? place = some (.directory readable entries)) {name : Bytes} {target : Path} :
    Node.named? name entries ≠ some (.link target) := by
  intro hlink
  cases Node.linkless_named? (Node.linkless_at? hl hplace) hlink

theorem lead_of_walk (hl : tree.linkless) (h : walk tree follow links place todo = .ok way) :
    way = (Path.stepsOf todo).foldl Component.lead place := by
  induction todo generalizing place with
  | nil =>
    rw [walk] at h
    cases h
    rfl
  | cons segment rest ih =>
    rw [walk] at h
    split at h
    · next hplace =>
      split at h
      · next hfiller =>
        rw [Path.stepsOf_cons_filler hfiller]
        exact ih h
      next hfiller =>
      split at h
      · next hup =>
        rw [hup, Path.stepsOf_cons_up]
        exact ih h
      next hup =>
      rw [Path.stepsOf_cons_name (Bool.not_eq_true _ ▸ hfiller) hup, List.foldl_cons]
      split at h
      · cases h
      split at h
      · split at h
        · next hrest =>
          cases h
          rw [hrest]
          rfl
        · cases h
      · next hlink => exact absurd hlink (ne_link_of_named? hl hplace)
      · exact ih h
    · cases h
    · cases h

theorem lead_of_place? (hl : d.tree.linkless) (h : d.place? follow p = .ok way) :
    way = d.lead p.key := by
  rw [place?] at h
  split at h
  · cases h
  split at h
  · cases h
  split at h
  · cases h
  rw [lead_of_walk hl h, lead, Path.key_eq, List.foldl_append]
  split <;> rfl

theorem lead_append_names (d : Disk) (steps : List Component) (names : List Bytes) :
    d.lead (steps ++ names.map .name) = d.lead steps ++ names := by
  rw [lead, List.foldl_append, foldl_lead_names]
  rfl

theorem at?_of_node? (hl : d.tree.linkless) {node : Node} (h : d.node? follow p = .ok node) :
    d.tree.at? (d.lead p.key) = some node := by
  rw [node?] at h
  split at h
  · cases h
  · next hplace =>
    rw [← lead_of_place? hl hplace]
    split at h
    · next hnode =>
      cases h
      exact hnode
    · cases h

theorem at?_of_root? (hl : d.tree.linkless) {node : Node} (h : d.root? p = some node) :
    d.tree.at? (d.lead p.key) = some node := by
  rw [root?] at h
  split at h
  · next target other htarget hother =>
    have hat := at?_of_node? hl htarget
    cases hat.symm.trans (at?_of_node? hl hother)
    rw [ite_self] at h
    cases h
    exact hat
  · cases h

end Disk

end SyntaxSweep
