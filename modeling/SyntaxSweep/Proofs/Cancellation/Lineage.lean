import SyntaxSweep.Cancellation
import Mathlib.Data.List.Induction

namespace SyntaxSweep.Cancellation

inductive Lineage where
  -- Made new by the action at this place of the history.
  | made (place : Nat)
  | copied (source : Lineage)
  -- Copied, and told to stop at this time.
  | limited (source : Lineage) (deadline : Nat)

namespace Lineage

/-- The place of the action that the first token of the lineage was made by. -/
def origin : Lineage → Nat
  | made place => place
  | copied source => source.origin
  | limited source _ => source.origin

def deadline? : Lineage → Option Nat
  | made _ => none
  | copied source => source.deadline?
  | limited _ deadline => some deadline

end Lineage

def Action.span : Action → Nat
  | .wait ms => ms
  | _ => 0

def clock : List Action → Nat
  | [] => 0
  | a :: rest => a.span + clock rest

/-- The lineage of the token that a name stands for, with the latest action first. -/
def lineageIn : List Action → String → Option Lineage
  | [], _ => none
  | .create as :: past, name => if name = as then some (.made past.length) else lineageIn past name
  | .copy on as :: past, name =>
    if name = as then ((lineageIn past on).map .copied).or (lineageIn past name)
    else lineageIn past name
  | .limit on as ms :: past, name =>
    if name = as then
      ((lineageIn past on).map (.limited · (clock past + ms))).or (lineageIn past name)
    else lineageIn past name
  | _ :: past, name => lineageIn past name

/-- The lineage of the token that a name stands for after a history. -/
def lineage? (history : List Action) (name : String) : Option Lineage :=
  lineageIn history.reverse name

/-- A token of the family that began at this place has been cancelled. -/
def Cancelled (history : List Action) (origin : Nat) : Prop :=
  ∃ before on after lineage, history = before ++ .cancel on :: after ∧
    lineage? before on = some lineage ∧ lineage.origin = origin

theorem after_concat (history : List Action) (a : Action) :
    after (history ++ [a]) = ((after history).act a).1 := by
  rw [after, List.foldl_append]
  rfl

theorem clock_append (history more : List Action) :
    clock (history ++ more) = clock history + clock more := by
  induction history with
  | nil => exact (Nat.zero_add _).symm
  | cons a rest ih => rw [List.cons_append, clock, clock, ih, Nat.add_assoc]

theorem clock_reverse (history : List Action) : clock history.reverse = clock history := by
  induction history with
  | nil => rfl
  | cons a rest ih =>
    rw [List.reverse_cons, clock_append, ih, Nat.add_comm]
    rfl

namespace State

variable {s : State} {name other on as : String} {t : Token} {ms family : Nat}

theorem find?_put : (s.put name t).find? other = if other = name then some t else s.find? other := by
  rw [find?, put, List.lookup_cons]
  by_cases h : other = name
  · rw [if_pos h, beq_iff_eq.2 h]
  · rw [if_neg h, beq_eq_false_iff_ne.2 h]
    rfl

theorem find?_create : (s.act (.create as)).1.find? name =
    if name = as then some ⟨s.families, none⟩ else s.find? name :=
  find?_put

theorem find?_copy : (s.act (.copy on as)).1.find? name =
    if name = as then (s.find? on).or (s.find? name) else s.find? name := by
  rw [act]
  cases s.find? on with
  | none => exact (ite_self _).symm
  | some t => exact find?_put

theorem find?_limit : (s.act (.limit on as ms)).1.find? name =
    if name = as then
      ((s.find? on).map fun t => ⟨t.family, some (s.now + ms)⟩).or (s.find? name)
    else s.find? name := by
  rw [act]
  cases s.find? on with
  | none => exact (ite_self _).symm
  | some t => exact find?_put

theorem find?_cancel : (s.act (.cancel on)).1.find? name = s.find? name := by
  rw [act]
  cases s.find? on <;> rfl

theorem now_act (s : State) (a : Action) : (s.act a).1.now = s.now + a.span := by
  cases a with
  | create as => rfl
  | ask on => rfl
  | wait ms => rfl
  | copy on as | limit on as ms | cancel on =>
    rw [act]
    cases s.find? on <;> rfl

theorem mem_flags_act (s : State) (a : Action) : family ∈ (s.act a).1.flags ↔
    family ∈ s.flags ∨ ∃ on t, a = .cancel on ∧ s.find? on = some t ∧ t.family = family := by
  cases a with
  | cancel on =>
    rw [act]
    cases hon : s.find? on with
    | none => simp [hon]
    | some t => simp [hon, or_comm, eq_comm]
  | create as => simp [act, put]
  | ask on => simp [act]
  | wait ms => simp [act]
  | copy on as | limit on as ms =>
    rw [act]
    cases s.find? on <;> simp [put]

end State

section Lineages

variable {history : List Action} {name on as : String} {lineage : Lineage} {ms origin : Nat}

theorem lineage?_create : lineage? (history ++ [.create as]) name =
    if name = as then some (.made history.length) else lineage? history name := by
  rw [lineage?, List.reverse_concat, lineageIn, List.length_reverse]
  rfl

theorem lineage?_copy : lineage? (history ++ [.copy on as]) name =
    if name = as then ((lineage? history on).map .copied).or (lineage? history name)
    else lineage? history name := by
  rw [lineage?, List.reverse_concat]
  rfl

theorem lineage?_limit : lineage? (history ++ [.limit on as ms]) name =
    if name = as then
      ((lineage? history on).map (.limited · (clock history + ms))).or (lineage? history name)
    else lineage? history name := by
  rw [lineage?, List.reverse_concat, lineageIn, clock_reverse]
  rfl

theorem lineage?_cancel : lineage? (history ++ [.cancel on]) name = lineage? history name := by
  rw [lineage?, List.reverse_concat]
  rfl

theorem lineage?_ask : lineage? (history ++ [.ask on]) name = lineage? history name := by
  rw [lineage?, List.reverse_concat]
  rfl

theorem lineage?_wait : lineage? (history ++ [.wait ms]) name = lineage? history name := by
  rw [lineage?, List.reverse_concat]
  rfl

theorem lineage?_concat {a : Action} (h : lineage? (history ++ [a]) name = some lineage) :
    lineage? history name = some lineage ∨
      (a = .create name ∧ lineage = .made history.length) ∨
      (∃ on source, a = .copy on name ∧ lineage? history on = some source ∧
        lineage = .copied source) ∨
      ∃ on ms source, a = .limit on name ms ∧ lineage? history on = some source ∧
        lineage = .limited source (clock history + ms) := by
  cases a with
  | create as =>
    rw [lineage?_create] at h
    split at h
    · next hname =>
      cases h
      exact .inr (.inl ⟨by rw [hname], rfl⟩)
    · exact .inl h
  | copy on as =>
    rw [lineage?_copy] at h
    split at h
    · next hname =>
      obtain h | ⟨-, h⟩ := Option.or_eq_some_iff.1 h
      · obtain ⟨source, hsource, rfl⟩ := Option.map_eq_some_iff.1 h
        exact .inr (.inr (.inl ⟨on, source, by rw [hname], hsource, rfl⟩))
      · exact .inl h
    · exact .inl h
  | limit on as ms =>
    rw [lineage?_limit] at h
    split at h
    · next hname =>
      obtain h | ⟨-, h⟩ := Option.or_eq_some_iff.1 h
      · obtain ⟨source, hsource, rfl⟩ := Option.map_eq_some_iff.1 h
        exact .inr (.inr (.inr ⟨on, ms, source, by rw [hname], hsource, rfl⟩))
      · exact .inl h
    · exact .inl h
  | cancel on => exact .inl (lineage?_cancel.symm.trans h)
  | ask on => exact .inl (lineage?_ask.symm.trans h)
  | wait ms => exact .inl (lineage?_wait.symm.trans h)

/-- The first token of a lineage was made by an action of the history. -/
theorem exists_create (h : lineage? history name = some lineage) :
    ∃ as, history[lineage.origin]? = some (.create as) := by
  induction history using List.reverseRecOn generalizing name lineage with
  | nil => cases h
  | append_singleton history a ih =>
    have hkeep {name : String} {source : Lineage} (hsource : lineage? history name = some source) :
        ∃ as, (history ++ [a])[source.origin]? = some (.create as) := by
      obtain ⟨as, has⟩ := ih hsource
      have hlt := (List.getElem?_eq_some_iff.1 has).1
      exact ⟨as, (List.getElem?_append_left hlt).trans has⟩
    obtain h | ⟨rfl, rfl⟩ | ⟨on, source, -, hsource, rfl⟩ | ⟨on, ms, source, -, hsource, rfl⟩ :=
      lineage?_concat h
    · exact hkeep h
    · exact ⟨name, List.getElem?_concat_length⟩
    · have hsame := hkeep hsource
      exact hsame
    · have hsame := hkeep hsource
      exact hsame

theorem origin_lt (h : lineage? history name = some lineage) :
    lineage.origin < history.length := by
  obtain ⟨as, has⟩ := exists_create h
  exact (List.getElem?_eq_some_iff.1 has).1

end Lineages

section Cancelling

variable {history more : List Action} {on : String} {lineage : Lineage} {origin : Nat}

theorem Cancelled.append (h : Cancelled history origin) (more : List Action) :
    Cancelled (history ++ more) origin := by
  obtain ⟨before, on, after, lineage, rfl, hlineage, horigin⟩ := h
  exact ⟨before, on, after ++ more, lineage, by simp, hlineage, horigin⟩

theorem cancelled_concat {a : Action} : Cancelled (history ++ [a]) origin ↔
    Cancelled history origin ∨ ∃ on lineage, a = .cancel on ∧ lineage? history on = some lineage ∧
      lineage.origin = origin := by
  constructor
  · -- The cancelling action is the last one, or it is one of those before.
    rintro ⟨before, on, after, lineage, heq, hlineage, horigin⟩
    obtain rfl | ⟨after, b, rfl⟩ := List.eq_nil_or_concat after
    · obtain ⟨rfl, ha⟩ := List.append_inj' heq rfl
      cases ha
      exact .inr ⟨on, lineage, rfl, hlineage, horigin⟩
    · rw [List.concat_eq_append, ← List.cons_append, ← List.append_assoc] at heq
      exact .inl ⟨before, on, after, lineage, (List.append_inj' heq rfl).1, hlineage, horigin⟩
  · rintro (h | ⟨on, lineage, rfl, hlineage, horigin⟩)
    · exact h.append [a]
    · exact ⟨history, on, [], lineage, rfl, hlineage, horigin⟩

theorem Cancelled.exists_create (h : Cancelled history origin) :
    ∃ as, history[origin]? = some (.create as) := by
  obtain ⟨before, on, after, lineage, rfl, hlineage, rfl⟩ := h
  obtain ⟨as, has⟩ := Cancellation.exists_create hlineage
  exact ⟨as, (List.getElem?_append_left (origin_lt hlineage)).trans has⟩

theorem Cancelled.lt (h : Cancelled history origin) : origin < history.length := by
  obtain ⟨as, has⟩ := h.exists_create
  exact (List.getElem?_eq_some_iff.1 has).1

end Cancelling

section Families

def created (history : List Action) : Nat :=
  history.countP fun
    | .create _ => true
    | _ => false

/-- The token of a lineage. Its family is told by the number of tokens made new before its origin. -/
def tokenOf (history : List Action) (lineage : Lineage) : Token :=
  ⟨created (history.take lineage.origin), lineage.deadline?⟩

variable {history : List Action} {name on : String} {lineage other : Lineage} {a : Action}
  {origin origin' : Nat}

theorem take_concat (h : origin < history.length) (a : Action) :
    (history ++ [a]).take origin = history.take origin :=
  List.take_append_of_le_length (Nat.le_of_lt h)

theorem tokenOf_concat (h : lineage? history name = some lineage) (a : Action) :
    tokenOf (history ++ [a]) lineage = tokenOf history lineage := by
  rw [tokenOf, take_concat (origin_lt h), tokenOf]

/-- Families that began at different places have different numbers. -/
theorem created_lt {as : String} (h : history[origin]? = some (.create as)) (hlt : origin < origin') :
    created (history.take origin) < created (history.take origin') := by
  have htake : history.take (origin + 1) = history.take origin ++ [.create as] := by
    rw [List.take_add_one, h]
    rfl
  have hle : created (history.take (origin + 1)) ≤ created (history.take origin') :=
    List.Sublist.countP_le (List.take_sublist_take_left hlt)
  have hsucc : created (history.take (origin + 1)) = created (history.take origin) + 1 := by
    rw [htake, created, List.countP_append]
    rfl
  omega

theorem origin_inj {as as' : String} (h : history[origin]? = some (.create as))
    (h' : history[origin']? = some (.create as'))
    (hsame : created (history.take origin) = created (history.take origin')) : origin = origin' := by
  obtain hlt | heq | hlt := Nat.lt_trichotomy origin origin'
  · exact absurd hsame (Nat.ne_of_lt (created_lt h hlt))
  · exact heq
  · exact absurd hsame.symm (Nat.ne_of_lt (created_lt h' hlt))

end Families

section Tracking

variable {history : List Action} {name : String} {family : Nat}

theorem now_after (history : List Action) : (after history).now = clock history := by
  induction history using List.reverseRecOn with
  | nil => rfl
  | append_singleton history a ih =>
    rw [after_concat, State.now_act, ih, clock_append]
    rfl

theorem families_after (history : List Action) : (after history).families = created history := by
  induction history using List.reverseRecOn with
  | nil => rfl
  | append_singleton history a ih =>
    rw [after_concat, created, List.countP_append, ← created, ← ih]
    cases a with
    | create as => rfl
    | ask on => rfl
    | wait ms => rfl
    | copy on as | limit on as ms | cancel on =>
      rw [State.act]
      cases (after history).find? on <;> rfl

theorem map_tokenOf_concat (history : List Action) (a : Action) (name : String) :
    (lineage? history name).map (tokenOf (history ++ [a])) =
      (lineage? history name).map (tokenOf history) := by
  apply Option.map_congr
  intro lineage hlineage
  exact tokenOf_concat hlineage a

theorem find?_after (history : List Action) (name : String) :
    (after history).find? name = (lineage? history name).map (tokenOf history) := by
  induction history using List.reverseRecOn generalizing name with
  | nil => rfl
  | append_singleton history a ih =>
    rw [after_concat]
    cases a with
    | create as =>
      have hnew : tokenOf (history ++ [.create as]) (.made history.length) =
          ⟨created history, none⟩ := by
        simp [tokenOf, Lineage.origin, Lineage.deadline?]
      rw [State.find?_create, lineage?_create, families_after, ih]
      split
      · rw [Option.map_some, hnew]
      · rw [map_tokenOf_concat]
    | copy on as =>
      have hcopied : (lineage? history on).map (tokenOf (history ++ [.copy on as]) ∘ .copied) =
          (lineage? history on).map (tokenOf history) :=
        map_tokenOf_concat history (.copy on as) on
      rw [State.find?_copy, lineage?_copy, ih, ih]
      split
      · rw [Option.map_or, Option.map_map, hcopied, map_tokenOf_concat]
      · rw [map_tokenOf_concat]
    | limit on as ms =>
      have hlimited : (lineage? history on).map
          (tokenOf (history ++ [.limit on as ms]) ∘ (.limited · (clock history + ms))) =
            (lineage? history on).map
              ((fun t => ⟨t.family, some (clock history + ms)⟩) ∘ tokenOf history) := by
        apply Option.map_congr
        intro source hsource
        rw [Function.comp_apply, Function.comp_apply, ← tokenOf_concat hsource (.limit on as ms)]
        rfl
      rw [State.find?_limit, lineage?_limit, ih, ih, now_after]
      split
      · rw [Option.map_or, Option.map_map, Option.map_map, hlimited, map_tokenOf_concat]
      · rw [map_tokenOf_concat]
    | cancel on => rw [State.find?_cancel, lineage?_cancel, map_tokenOf_concat, ih]
    | ask on => rw [lineage?_ask, map_tokenOf_concat, ← ih]; rfl
    | wait ms => rw [lineage?_wait, map_tokenOf_concat, ← ih]; rfl

/-- The families that are raised are those of tokens that have been cancelled. -/
theorem mem_flags_after (history : List Action) (family : Nat) : family ∈ (after history).flags ↔
    ∃ origin, Cancelled history origin ∧ created (history.take origin) = family := by
  induction history using List.reverseRecOn with
  | nil =>
    refine ⟨nofun, ?_⟩
    rintro ⟨origin, ⟨before, on, after, lineage, hnil, -⟩, -⟩
    simp at hnil
  | append_singleton history a ih =>
    rw [after_concat, State.mem_flags_act, ih]
    -- A family keeps its number when the history goes on, for it began before.
    constructor
    · rintro (⟨origin, hcancelled, hfamily⟩ | ⟨on, t, rfl, ht, hfamily⟩)
      · refine ⟨origin, hcancelled.append [a], ?_⟩
        rw [take_concat hcancelled.lt, hfamily]
      · rw [find?_after] at ht
        obtain ⟨lineage, hlineage, rfl⟩ := Option.map_eq_some_iff.1 ht
        refine ⟨lineage.origin, cancelled_concat.2 (.inr ⟨on, lineage, rfl, hlineage, rfl⟩), ?_⟩
        rw [take_concat (origin_lt hlineage), ← hfamily]
        rfl
    · rintro ⟨origin, hcancelled, hfamily⟩
      obtain hbefore | ⟨on, lineage, rfl, hlineage, rfl⟩ := cancelled_concat.1 hcancelled
      · rw [take_concat hbefore.lt] at hfamily
        exact .inl ⟨origin, hbefore, hfamily⟩
      · rw [take_concat (origin_lt hlineage)] at hfamily
        refine .inr ⟨on, tokenOf history lineage, rfl, ?_, hfamily⟩
        rw [find?_after, hlineage]
        rfl

/-- The family of a token is raised just if a token of the same origin has been cancelled. -/
theorem family_mem_flags_iff {lineage : Lineage} (h : lineage? history name = some lineage) :
    (tokenOf history lineage).family ∈ (after history).flags ↔ Cancelled history lineage.origin := by
  rw [mem_flags_after]
  constructor
  · -- The lineage that was cancelled need not be one of this history any more, but its origin is.
    rintro ⟨origin, hcancelled, hfamily⟩
    obtain ⟨as, has⟩ := hcancelled.exists_create
    obtain ⟨as', has'⟩ := exists_create h
    rwa [← origin_inj has has' hfamily]
  · intro hcancelled
    exact ⟨lineage.origin, hcancelled, rfl⟩

end Tracking

end SyntaxSweep.Cancellation
