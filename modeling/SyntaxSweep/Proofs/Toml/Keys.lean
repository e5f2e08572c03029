import SyntaxSweep.Toml.Reading
import Mathlib.Data.List.Nodup

namespace SyntaxSweep.Toml

namespace Slots

variable {slots slots' : Slots} {key : String}

def keys (slots : Slots) : List String :=
  slots.map (·.1)

theorem not_mem_keys (h : slots.find? key = none) : key ∉ slots.keys := by
  induction slots with
  | nil => exact List.not_mem_nil
  | cons e rest ih =>
    obtain ⟨k, slot⟩ := e
    rw [find?] at h
    split at h
    · cases h
    · next hne =>
      rw [keys, List.map_cons, List.mem_cons, not_or]
      exact ⟨Ne.symm hne, ih h⟩

theorem keys_set (key : String) (slot : Slot) (slots : Slots) :
    (slots.set key slot).keys = slots.keys := by
  rw [keys, keys, set, List.map_map]
  apply List.map_congr_left
  intro e _
  by_cases he : e.1 = key
  · simp [he]
  · simp [he]

theorem nodup_set (h : slots.keys.Nodup) (key : String) (slot : Slot) :
    (slots.set key slot).keys.Nodup := by
  rw [keys_set]
  exact h

theorem nodup_concat (h : slots.keys.Nodup) (hnew : slots.find? key = none) (slot : Slot) :
    (keys (slots ++ [(key, slot)])).Nodup := by
  rw [keys, List.map_append, List.map_singleton, ← List.concat_eq_append]
  exact List.Nodup.concat (not_mem_keys hnew) h

theorem nodup_erase_concat (h : slots.keys.Nodup) (key : String) (slot : Slot) :
    (keys (slots.erase key ++ [(key, slot)])).Nodup := by
  rw [keys, List.map_append, List.map_singleton, ← List.concat_eq_append]
  refine List.Nodup.concat ?_ (h.sublist (List.filter_sublist.map _))
  rintro hmem
  obtain ⟨e, he, rfl⟩ := List.mem_map.1 hmem
  simpa using (List.mem_filter.1 he).2

theorem nodup_assign {last : String} {v : Value} {outer : List String} (h : slots.keys.Nodup)
    (ha : assign last v outer slots = some slots') : slots'.keys.Nodup := by
  cases outer with
  | nil =>
    rw [assign] at ha
    split at ha
    · next hnone =>
      cases ha
      exact nodup_concat h hnone _
    · cases ha
  | cons key outer =>
    rw [assign] at ha
    split at ha
    · next hnone =>
      obtain ⟨inner, -, ha⟩ := Option.bind_eq_some_iff.1 ha
      cases ha
      exact nodup_concat h hnone _
    · split at ha
      · cases ha
      · obtain ⟨inner, -, ha⟩ := Option.bind_eq_some_iff.1 ha
        cases ha
        exact nodup_set h key _
    · split at ha
      · cases ha
      · obtain ⟨inner, -, ha⟩ := Option.bind_eq_some_iff.1 ha
        cases ha
        exact nodup_set h key _
    · cases ha

theorem nodup_assignAll {pairs : List Pair} (h : slots.keys.Nodup)
    (ha : assignAll pairs slots = some slots') : slots'.keys.Nodup := by
  induction pairs generalizing slots with
  | nil =>
    cases ha
    exact h
  | cons p pairs ih =>
    obtain ⟨next, hnext, ha⟩ := Option.bind_eq_some_iff.1 ha
    exact ih (nodup_assign h hnext) ha

/-- A change at the end of a way keeps the keys different if it does so where the way ends. -/
theorem nodup_within {f : Slots → Option Slots} {outer : List String}
    (hf : ∀ slots slots', slots.keys.Nodup → f slots = some slots' → slots'.keys.Nodup)
    (h : slots.keys.Nodup) (hw : within f outer slots = some slots') : slots'.keys.Nodup := by
  cases outer with
  | nil => exact hf slots slots' h hw
  | cons key outer =>
    rw [within] at hw
    split at hw
    · next hnone =>
      obtain ⟨inner, -, hw⟩ := Option.bind_eq_some_iff.1 hw
      cases hw
      exact nodup_concat h hnone _
    · obtain ⟨inner, -, hw⟩ := Option.bind_eq_some_iff.1 hw
      cases hw
      exact nodup_set h key _
    · obtain ⟨inner, -, hw⟩ := Option.bind_eq_some_iff.1 hw
      cases hw
      exact nodup_set h key _
    · cases hw

theorem nodup_define {header : KeyPath} {pairs : List Pair} (h : slots.keys.Nodup)
    (hd : slots.define header pairs = some slots') : slots'.keys.Nodup := by
  refine nodup_within (fun parent parent' hparent hp => ?_) h hd
  split at hp
  · next hnone =>
    obtain ⟨inner, -, hp⟩ := Option.bind_eq_some_iff.1 hp
    cases hp
    exact nodup_concat hparent hnone _
  · obtain ⟨inner, -, hp⟩ := Option.bind_eq_some_iff.1 hp
    cases hp
    exact nodup_erase_concat hparent _ _
  · cases hp

theorem nodup_append {header : KeyPath} {pairs : List Pair} (h : slots.keys.Nodup)
    (ha : slots.append header pairs = some slots') : slots'.keys.Nodup := by
  refine nodup_within (fun parent parent' hparent hp => ?_) h ha
  split at hp
  · next hnone =>
    obtain ⟨inner, -, hp⟩ := Option.bind_eq_some_iff.1 hp
    cases hp
    exact nodup_concat hparent hnone _
  · obtain ⟨inner, -, hp⟩ := Option.bind_eq_some_iff.1 hp
    cases hp
    exact nodup_set hparent _ _
  · cases hp

theorem nodup_sections {sections : List Section} (h : slots.keys.Nodup)
    (hs : sections.foldlM (fun slots s =>
      if s.repeated then slots.append s.key s.pairs else slots.define s.key s.pairs) slots =
        some slots') : slots'.keys.Nodup := by
  induction sections generalizing slots with
  | nil =>
    cases hs
    exact h
  | cons s sections ih =>
    obtain ⟨next, hnext, hs⟩ := Option.bind_eq_some_iff.1 hs
    refine ih ?_ hs
    beta_reduce at hnext
    split at hnext
    · exact nodup_append h hnext
    · exact nodup_define h hnext

end Slots

theorem keys_closeAll (slots : Slots) : (closeAll slots).map (·.1) = slots.keys := by
  induction slots with
  | nil => rfl
  | cons e rest ih =>
    obtain ⟨key, slot⟩ := e
    rw [closeAll, List.map_cons, ih]
    rfl

namespace Document

theorem nodup_assemble? {top : List Pair} {sections : List Section} {d : Document}
    (h : assemble? top sections = some d) : (d.map (·.1)).Nodup := by
  obtain ⟨start, hstart, h⟩ := Option.bind_eq_some_iff.1 h
  obtain ⟨all, hall, h⟩ := Option.bind_eq_some_iff.1 h
  cases h
  rw [keys_closeAll]
  have hnil : (Slots.keys []).Nodup := List.nodup_nil
  exact Slots.nodup_sections (Slots.nodup_assignAll hnil hstart) hall

theorem nodup_of_read? {s : List Char} {d : Document} (h : read? s = some d) :
    (d.map (·.1)).Nodup := by
  obtain ⟨all, -, h⟩ := Option.bind_eq_some_iff.1 h
  exact nodup_assemble? h

end Document

end SyntaxSweep.Toml
