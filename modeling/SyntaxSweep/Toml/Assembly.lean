import SyntaxSweep.Toml.Value

namespace SyntaxSweep.Toml

inductive Origin where
  | header
  | implied
  | dotted
  deriving DecidableEq, Repr

/-- Tables while their keys are still being collected. How a table came about decides what may still be
added to it: a header may complete a table that other headers only passed through, a dotted key may extend
a table that dotted keys began, and nothing reopens a table that a header has defined. -/
inductive Slot where
  | value (v : Value)
  | table (origin : Origin) (slots : List (String × Slot))
  | tables (all : List (List (String × Slot)))

structure KeyPath where
  outer : List String
  last : String
  deriving DecidableEq, Repr

structure Pair where
  key : KeyPath
  value : Value

abbrev Slots := List (String × Slot)

namespace Slots

def find? (key : String) : Slots → Option Slot
  | [] => none
  | (k, s) :: rest => if k = key then some s else find? key rest

def erase (key : String) (slots : Slots) : Slots :=
  slots.filter (·.1 ≠ key)

def set (key : String) (slot : Slot) (slots : Slots) : Slots :=
  slots.map fun e => if e.1 = key then (key, slot) else e

/-- A value put under the keys `outer`, then `last`. The tables on the way are made where they are
missing; the innermost one must be the table at hand or one that dotted keys began. -/
def assign (last : String) (v : Value) : List String → Slots → Option Slots
  | [], slots =>
    match slots.find? last with
    | none => some (slots ++ [(last, .value v)])
    | some _ => none
  | key :: outer, slots =>
    match slots.find? key with
    | none => do
      let inner ← assign last v outer []
      some (slots ++ [(key, .table .dotted inner)])
    | some (.table origin inner) =>
      if origin = .header ∨ (outer = [] ∧ origin ≠ .dotted) then none
      else do
        let inner ← assign last v outer inner
        some (slots.set key (.table origin inner))
    | some (.tables all) =>
      if outer = [] then none
      else do
        let inner ← assign last v outer (all.getLast?.getD [])
        some (slots.set key (.tables (all.dropLast ++ [inner])))
    | some (.value _) => none

def assignAll (pairs : List Pair) (slots : Slots) : Option Slots :=
  pairs.foldlM (fun slots p => assign p.key.last p.value p.key.outer slots) slots

/-- The table that a header's outer keys lead to, changed by `f`. A missing table is made, and an
array of tables leads to its last one. -/
def within (f : Slots → Option Slots) : List String → Slots → Option Slots
  | [], slots => f slots
  | key :: outer, slots =>
    match slots.find? key with
    | none => do
      let inner ← within f outer []
      some (slots ++ [(key, .table .implied inner)])
    | some (.table origin inner) => do
      let inner ← within f outer inner
      some (slots.set key (.table origin inner))
    | some (.tables all) => do
      let inner ← within f outer (all.getLast?.getD [])
      some (slots.set key (.tables (all.dropLast ++ [inner])))
    | some (.value _) => none

/-- A table with its own header. One that was only passed through so far moves to the end. -/
def define (key : KeyPath) (pairs : List Pair) (slots : Slots) : Option Slots :=
  slots.within (fun parent =>
    match parent.find? key.last with
    | none => do
      let inner ← assignAll pairs []
      some (parent ++ [(key.last, .table .header inner)])
    | some (.table .implied begun) => do
      let inner ← assignAll pairs begun
      some (parent.erase key.last ++ [(key.last, .table .header inner)])
    | some _ => none) key.outer

def append (key : KeyPath) (pairs : List Pair) (slots : Slots) : Option Slots :=
  slots.within (fun parent =>
    match parent.find? key.last with
    | none => do
      let inner ← assignAll pairs []
      some (parent ++ [(key.last, .tables [inner])])
    | some (.tables all) => do
      let inner ← assignAll pairs []
      some (parent.set key.last (.tables (all ++ [inner])))
    | some _ => none) key.outer

end Slots

mutual

def Slot.close : Slot → Value
  | .value v => v
  | .table _ slots => .table (closeAll slots)
  | .tables all => .array (closeEach all)

def closeAll : List (String × Slot) → List (String × Value)
  | [] => []
  | (key, slot) :: rest => (key, slot.close) :: closeAll rest

def closeEach : List (List (String × Slot)) → List Value
  | [] => []
  | slots :: rest => .table (closeAll slots) :: closeEach rest

end

def inlineTable? (pairs : List Pair) : Option Value :=
  (Slots.assignAll pairs []).map fun slots => .table (closeAll slots)

structure Section where
  repeated : Bool
  key : KeyPath
  pairs : List Pair

/-- The document of the pairs before the first header and of the sections. -/
def Document.assemble? (top : List Pair) (sections : List Section) : Option Document := do
  let start ← Slots.assignAll top []
  let all ← sections.foldlM (fun slots s =>
    if s.repeated then slots.append s.key s.pairs else slots.define s.key s.pairs) start
  some (closeAll all)

theorem Slots.assign_fresh {key : String} {slots : Slots} (v : Value) (h : slots.find? key = none) :
    assign key v [] slots = some (slots ++ [(key, .value v)]) := by
  simp [assign, h]

end SyntaxSweep.Toml
