import Mathlib.Data.Finset.Lattice.Lemmas
import Whitebox.Effect.Fallible
import Whitebox.Utils.StableJson

/-!
# NUMA topologies in the database

The migration tests read the NUMA topology of a server from the database,
normalise it, and collect the host CPUs that the virtual CPUs of its cells are
pinned to.  Normalisation does not change what they collect.  It sorts the list
of cells, though, and cells are objects, which cannot be compared: a topology
with two cells or more is never read.
-/

namespace Whitebox.Compute

open Whitebox.Python
open Whitebox.Utils
open Whitebox.Association
open Whitebox.Effect.Fallible
open Whitebox.PartialSort (Comparable)

inductive TopologyExn where
  | typeError
  | attributeError
  | keyError (key : Str)
deriving DecidableEq

/-- A JSON value that can be in a `set`.  Booleans are numbers there. -/
inductive Scalar where
  | null
  | number (value : Rat)
  | string (value : Str)
deriving DecidableEq

def scalar : Json → Except TopologyExn Scalar
  | .null => .ok .null
  | .bool flag => .ok (.number (if flag then 1 else 0))
  | .number value => .ok (.number value)
  | .string value => .ok (.string value)
  | .list _ => .error .typeError
  | .object _ => .error .typeError

/-- `value[key]`. -/
def itemAt (value : Json) (key : Str) : Except TopologyExn Json :=
  match value with
  | .object members =>
      match members.lookup key with
      | some found => .ok found
      | none => .error (.keyError key)
  | _ => .error .typeError

/-- The items of a loop over a value. -/
def iterate : Json → Except TopologyExn (List Json)
  | .list items => .ok items
  | .object members => .ok (members.map fun member => .string member.1)
  | .string text => .ok (text.map fun c => .string [c])
  | _ => .error .typeError

def objectData : Str := "nova_object.data".toList

def cellsKey : Str := "cells".toList

def pinningKey : Str := "cpu_pinning_raw".toList

/-- `cell['nova_object.data']['cpu_pinning_raw']`. -/
def cellPins (cell : Json) : Except TopologyExn Json := do
  let data ← itemAt cell objectData
  itemAt data pinningKey

/-- `_get_cpu_pins_from_db_topology`: the pins of the cells in their order. -/
def getCpuPinsFromDbTopology (dbTopology : Json) :
    Except TopologyExn (List Json) := do
  let data ← itemAt dbTopology objectData
  let cells ← itemAt data cellsKey
  let cells ← iterate cells
  cells.mapM cellPins

/-- One value that goes into a set. -/
def addValue (values : Finset Scalar) (member : Str × Json) :
    Except TopologyExn (Finset Scalar) := do
  let value ← scalar member.2
  pure (insert value values)

/-- `set(pins.values())`. -/
def pinValues : Json → Except TopologyExn (Finset Scalar)
  | .object members => members.foldlM addValue ∅
  | _ => .error .attributeError

/-- One turn of the loop over the pins of the cells. -/
def addPcpus (pcpus : Finset Scalar) (pins : Json) :
    Except TopologyExn (Finset Scalar) := do
  let values ← pinValues pins
  pure (pcpus ∪ values)

def getPcpusFromCpuPins (cpuPins : List Json) :
    Except TopologyExn (Finset Scalar) :=
  cpuPins.foldlM addPcpus ∅

/-- `_get_pcpus_from_cpu_pins(_get_cpu_pins_from_db_topology(db_topology))`. -/
def pcpusOf (dbTopology : Json) : Except TopologyExn (Finset Scalar) := do
  let cpuPins ← getCpuPinsFromDbTopology dbTopology
  getPcpusFromCpuPins cpuPins

/-- `_get_db_numa_topology` on the row of a server, which may be missing and
may have no topology. -/
def getDbNumaTopology : Option (Option JsonObject) → Except TopologyExn Json
  | some (some numaTopology) =>
      match normalizeJson numaTopology with
      | some normalized => .ok normalized
      | none => .error .typeError
  | _ => .error .typeError

section Lookup

theorem keys_normalisedMembers {members middle : List (Str × Json)}
    (each : NormalisedMembers members middle) :
    middle.map Prod.fst = members.map Prod.fst := by
  induction members generalizing middle with
  | nil =>
      cases each
      rfl
  | cons member members induction =>
      cases each with
      | cons head tail => rw [List.map_cons, List.map_cons, induction tail]

/-- A lookup finds nothing on both sides, or a value and its normal form. -/
theorem lookup_normalisedMembers {members middle : List (Str × Json)}
    (each : NormalisedMembers members middle) (key : Str) :
    Option.Rel Normalised (members.lookup key) (middle.lookup key) := by
  induction members generalizing middle with
  | nil =>
      cases each
      exact .none
  | cons member members induction =>
      cases each with
      | @cons name _ _ _ _ head tail =>
          by_cases found : key = name
          · subst found
            rw [List.lookup_cons_self, List.lookup_cons_self]
            exact .some head
          · rw [lookup_cons_of_ne found, lookup_cons_of_ne found]
            exact induction tail

theorem lookup_normalised {members others : List (Str × Json)}
    (normalised : Normalised (.object members) (.object others)) (key : Str) :
    Option.Rel Normalised (members.lookup key) (others.lookup key) := by
  cases normalised with
  | object distinct each perm =>
      have keys := distinct.1
      rw [← keys_normalisedMembers each] at keys
      rw [← lookup_perm keys perm]
      exact lookup_normalisedMembers each key

/-- A subscript raises the same on both sides, or gives a value and its normal
form. -/
theorem itemAt_normalised {value other : Json}
    (normalised : Normalised value other) (key : Str) :
    (∃ error, itemAt value key = .error error ∧
        itemAt other key = .error error) ∨
      ∃ found normal, itemAt value key = .ok found ∧
        itemAt other key = .ok normal ∧ Normalised found normal := by
  cases value with
  | object members =>
      obtain ⟨others, rfl⟩ : ∃ others, other = .object others := by
        cases normalised
        exact ⟨_, rfl⟩
      have related := lookup_normalised normalised key
      rw [itemAt, itemAt]
      generalize members.lookup key = found at related ⊢
      generalize others.lookup key = normal at related ⊢
      cases related with
      | none => exact .inl ⟨_, rfl, rfl⟩
      | some normalised => exact .inr ⟨_, _, rfl, rfl, normalised⟩
  | _ =>
      cases normalised
      exact .inl ⟨_, rfl, rfl⟩

/-- A value without repeated keys whose lists can be sorted. -/
structure Tame (value : Json) : Prop where
  distinct : value.Distinct
  sortable : Sortable value

theorem tame_of_lookup {members : List (Str × Json)} {key : Str}
    {value : Json} (distinct : DistinctMembers members)
    (sortable : SortableMembers members)
    (found : members.lookup key = some value) : Tame value := by
  induction members with
  | nil => cases found
  | cons member members induction =>
      obtain ⟨name, first⟩ := member
      by_cases same : key = name
      · subst same
        rw [List.lookup_cons_self] at found
        cases found
        exact ⟨distinct.1, sortable.1⟩
      · rw [lookup_cons_of_ne same] at found
        exact induction distinct.2 sortable.2 found

theorem tame_itemAt {value found : Json} {key : Str} (tame : Tame value)
    (read : itemAt value key = .ok found) : Tame found := by
  cases value with
  | object members =>
      rw [itemAt] at read
      split at read
      · next present =>
          cases read
          exact tame_of_lookup tame.distinct.2 tame.sortable present
      · cases read
  | _ => cases read

end Lookup

section Values

theorem scalar_normalised {value other : Json}
    (normalised : Normalised value other) : scalar value = scalar other := by
  cases normalised <;> rfl

theorem scalar_eq_error {value : Json} {error : TopologyExn}
    (raised : scalar value = .error error) : error = .typeError := by
  cases value <;> cases raised <;> rfl

theorem addValue_commutes (values : Finset Scalar)
    (first second : Str × Json) :
    (addValue values first >>= fun next => addValue next second) =
      (addValue values second >>= fun next => addValue next first) := by
  simp only [addValue]
  cases firstRead : scalar first.2 with
  | error error =>
      rw [scalar_eq_error firstRead]
      cases secondRead : scalar second.2 with
      | error other => rw [scalar_eq_error secondRead]
      | ok value => rfl
  | ok value =>
      cases secondRead : scalar second.2 with
      | error other => rfl
      | ok other =>
          change Except.ok _ = Except.ok _
          rw [Finset.insert_comm]

theorem foldlM_addValue_normalised {members middle : List (Str × Json)}
    (each : NormalisedMembers members middle) (values : Finset Scalar) :
    members.foldlM addValue values = middle.foldlM addValue values := by
  induction members generalizing middle values with
  | nil =>
      cases each
      rfl
  | cons member members induction =>
      cases each with
      | cons head tail =>
          rw [List.foldlM_cons, List.foldlM_cons, addValue, addValue,
            scalar_normalised head]
          congr 1
          funext next
          exact induction tail next

theorem pinValues_normalised {value other : Json}
    (normalised : Normalised value other) :
    pinValues value = pinValues other := by
  cases normalised with
  | object distinct each perm result =>
      rw [pinValues, pinValues, foldlM_addValue_normalised each]
      exact foldlM_perm perm addValue_commutes
  | _ => rfl

end Values

section Cells

/-- The host CPUs of the cells that are looped over. -/
def cellsPcpus (cells : Json) : Except TopologyExn (Finset Scalar) := do
  let cells ← iterate cells
  let pins ← cells.mapM cellPins
  getPcpusFromCpuPins pins

theorem pcpusOf_eq (dbTopology : Json) :
    pcpusOf dbTopology =
      (itemAt dbTopology objectData >>= fun data =>
        itemAt data cellsKey >>= cellsPcpus) := by
  simp only [pcpusOf, getCpuPinsFromDbTopology, bind_assoc]
  rfl

theorem cellPins_of_not_isObject {cell : Json}
    (plain : cell.isObject = false) : cellPins cell = .error .typeError := by
  cases cell with
  | object members => cases plain
  | _ => rfl

theorem mapM_cellPins_of_plain {items : List Json} (nonempty : items ≠ [])
    (plain : ∀ item ∈ items, item.isObject = false) :
    items.mapM cellPins = .error .typeError := by
  obtain ⟨item, others, rfl⟩ := List.exists_cons_of_ne_nil nonempty
  rw [List.mapM_cons, cellPins_of_not_isObject (plain item (by simp))]
  rfl

theorem cellPins_normalised {cell other : Json}
    (normalised : Normalised cell other) :
    (∃ error, cellPins cell = .error error ∧ cellPins other = .error error) ∨
      ∃ pins normal, cellPins cell = .ok pins ∧ cellPins other = .ok normal ∧
        Normalised pins normal := by
  rw [cellPins, cellPins]
  rcases itemAt_normalised normalised objectData with
    ⟨error, first, second⟩ | ⟨data, normal, first, second, dataNormalised⟩
  · rw [first, second]
    exact .inl ⟨error, rfl, rfl⟩
  · rw [first, second]
    exact itemAt_normalised dataNormalised pinningKey

/-- One cell has the CPUs of its normal form. -/
theorem singleCell_normalised {cell other : Json}
    (normalised : Normalised cell other) :
    ([cell].mapM cellPins >>= getPcpusFromCpuPins) =
      ([other].mapM cellPins >>= getPcpusFromCpuPins) := by
  rcases cellPins_normalised normalised with
    ⟨error, first, second⟩ | ⟨pins, normal, first, second, pinsNormalised⟩
  · rw [List.mapM_cons, List.mapM_cons, first, second]
  · rw [List.mapM_cons, List.mapM_cons, first, second]
    change addPcpus ∅ pins >>= _ = addPcpus ∅ normal >>= _
    rw [addPcpus, addPcpus, pinValues_normalised pinsNormalised]

/-- An object in a list that can be sorted is its only item. -/
theorem length_of_isObject {items : List Json} {item : Json}
    (tame : Tame (.list items)) (member : item ∈ items)
    (object : item.isObject = true) : items.length = 1 := by
  by_contra several
  obtain ⟨sorted, sorts⟩ :=
    (sort_lessThan_isSome_iff tame.distinct).mpr tame.sortable.1
  rw [sort_eq_none_of_object tame.distinct member object several] at sorts
  cases sorts

/-- Items of which none is an object have normal forms of the same kind. -/
theorem plain_normalisedItems {items middle : List Json}
    (each : NormalisedItems items middle)
    (plain : ∀ item ∈ items, item.isObject = false) :
    (∀ item ∈ middle, item.isObject = false) ∧
      middle.length = items.length := by
  induction items generalizing middle with
  | nil =>
      cases each
      exact ⟨List.forall_mem_nil _, rfl⟩
  | cons item items induction =>
      obtain ⟨first, others⟩ := List.forall_mem_cons.mp plain
      cases each with
      | object kind head tail =>
          rw [kind] at first
          cases first
      | plain kind head tail =>
          obtain ⟨kept, size⟩ := induction tail others
          refine ⟨List.forall_mem_cons.mpr ⟨?_, kept⟩, ?_⟩
          · rw [← head.isObject]
            exact kind
          · rw [List.length_cons, List.length_cons, size]

theorem list_normalised {items middle others : List Json}
    (each : NormalisedItems items middle) (perm : middle.Perm others)
    (tame : Tame (.list items)) :
    cellsPcpus (.list items) = cellsPcpus (.list others) := by
  change (items.mapM cellPins >>= getPcpusFromCpuPins) =
    (others.mapM cellPins >>= getPcpusFromCpuPins)
  by_cases plain : ∀ item ∈ items, item.isObject = false
  · obtain ⟨kept, size⟩ := plain_normalisedItems each plain
    have lengths : others.length = items.length := perm.length_eq ▸ size
    cases items with
    | nil => rw [List.length_eq_zero_iff.mp lengths]
    | cons item items =>
        have nonempty : others ≠ [] := by
          intro empty
          rw [empty] at lengths
          cases lengths
        rw [mapM_cellPins_of_plain (List.cons_ne_nil _ _) plain,
          mapM_cellPins_of_plain nonempty fun item member =>
            kept item (perm.mem_iff.mpr member)]
  · -- An object is alone in its list, so that there is nothing to reorder.
    obtain ⟨item, member, object⟩ : ∃ item ∈ items, item.isObject = true := by
      simpa using plain
    obtain ⟨only, rfl⟩ :=
      List.length_eq_one_iff.mp (length_of_isObject tame member object)
    rw [List.mem_singleton.mp member] at object
    cases each with
    | object kind head tail =>
        cases tail
        rw [List.perm_singleton.mp perm.symm]
        exact singleCell_normalised head
    | plain kind head tail =>
        rw [object] at kind
        cases kind

/-- The keys of an object are no cells. -/
theorem objectKeys_pcpus {members others : List (Str × Json)}
    (lengths : members.length = others.length) :
    cellsPcpus (.object members) = cellsPcpus (.object others) := by
  have raises : ∀ member (members : List (Str × Json)),
      cellsPcpus (.object (member :: members)) = .error .typeError := by
    intro member members
    rw [cellsPcpus, iterate, List.map_cons]
    change (List.mapM cellPins (.string member.1 ::
      members.map fun other => .string other.1) >>= getPcpusFromCpuPins) = _
    rw [List.mapM_cons]
    rfl
  cases members with
  | nil => rw [List.length_eq_zero_iff.mp lengths.symm]
  | cons member members =>
      cases others with
      | nil => cases lengths
      | cons other others => rw [raises, raises]

theorem cellsPcpus_normalised {cells other : Json}
    (normalised : Normalised cells other) (tame : Tame cells) :
    cellsPcpus cells = cellsPcpus other := by
  cases normalised with
  | list each perm => exact list_normalised each perm tame
  | @object members middle others distinct each perm result =>
      have keys : others.length = members.length := by
        rw [← perm.length_eq, ← List.length_map Prod.fst,
          keys_normalisedMembers each, List.length_map]
      exact objectKeys_pcpus keys.symm
  | _ => rfl

end Cells

section Database

variable {json : JsonObject}

theorem tame_of_normalizeJson {result : Json}
    (normalized : normalizeJson json = some result) :
    Tame (.object json.members) :=
  ⟨json.distinct, (normalizeJson_isSome_iff json).mp ⟨result, normalized⟩⟩

/-- Normalisation keeps the host CPUs that are read from a topology. -/
theorem pcpusOf_normalizeJson {result : Json}
    (normalized : normalizeJson json = some result) :
    pcpusOf result = pcpusOf (.object json.members) := by
  have tame := tame_of_normalizeJson normalized
  have normalised : Normalised (.object json.members) result :=
    normalised_of_sortValue json.distinct normalized
  rw [pcpusOf_eq, pcpusOf_eq]
  rcases itemAt_normalised normalised objectData with
    ⟨error, first, second⟩ | ⟨data, normalData, first, second, dataNormalised⟩
  · rw [first, second]
  · rw [first, second]
    have dataTame := tame_itemAt tame first
    change (itemAt normalData cellsKey >>= cellsPcpus) =
      (itemAt data cellsKey >>= cellsPcpus)
    rcases itemAt_normalised dataNormalised cellsKey with
      ⟨error, missing, again⟩ | ⟨cells, normalCells, found, again, related⟩
    · rw [missing, again]
    · rw [found, again]
      exact (cellsPcpus_normalised related (tame_itemAt dataTame found)).symm

/-- A topology with two cells or more cannot be normalised. -/
theorem normalizeJson_eq_none_of_cells {data : Json} {cells : List Json}
    (hasData : itemAt (.object json.members) objectData = .ok data)
    (hasCells : itemAt data cellsKey = .ok (.list cells))
    (several : 2 ≤ cells.length) {cell : Json} (member : cell ∈ cells)
    (object : cell.isObject = true) : normalizeJson json = none := by
  cases normalized : normalizeJson json with
  | none => rfl
  | some result =>
      have tame := tame_itemAt
        (tame_itemAt (tame_of_normalizeJson normalized) hasData) hasCells
      have one := length_of_isObject tame member object
      omega

theorem getDbNumaTopology_of_some {result : Json}
    (normalized : normalizeJson json = some result) :
    getDbNumaTopology (some (some json)) = .ok result := by
  rw [getDbNumaTopology, normalized]

/-- A topology that can be normalised is read with the host CPUs that the
database has for it.  One with two cells or more is not read at all. -/
theorem getDbNumaTopology_exact (json : JsonObject) :
    (Sortable (.object json.members) →
      (getDbNumaTopology (some (some json)) >>= pcpusOf) =
        pcpusOf (.object json.members)) ∧
    ∀ data cells, itemAt (.object json.members) objectData = .ok data →
      itemAt data cellsKey = .ok (.list cells) → 2 ≤ cells.length →
      (∃ cell ∈ cells, cell.isObject = true) →
      getDbNumaTopology (some (some json)) = .error .typeError := by
  constructor
  · intro sortable
    obtain ⟨result, normalized⟩ := (normalizeJson_isSome_iff json).mpr sortable
    rw [getDbNumaTopology_of_some normalized]
    exact pcpusOf_normalizeJson normalized
  · intro data cells hasData hasCells several object
    obtain ⟨cell, member, object⟩ := object
    rw [getDbNumaTopology,
      normalizeJson_eq_none_of_cells hasData hasCells several member object]

end Database

section CellTopologies

/-- A cell with one virtual CPU that is pinned to the host CPU. -/
def cellJson (cpu : Nat) : Json :=
  .object [(objectData, .object
    [(pinningKey, .object [("0".toList, .number cpu)])])]

def cellsMembers (cpus : List Nat) : List (Str × Json) :=
  [(objectData, .object [(cellsKey, .list (cpus.map cellJson))])]

theorem cellsMembers_distinct (cpus : List Nat) :
    (Json.object (cellsMembers cpus)).Distinct := by
  have items : DistinctItems (cpus.map cellJson) := by
    induction cpus with
    | nil => trivial
    | cons cpu cpus induction =>
        refine ⟨?_, induction⟩
        simp [cellJson, Json.Distinct, DistinctMembers]
  simpa [cellsMembers, Json.Distinct, DistinctMembers] using items

def cellsTopology (cpus : List Nat) : JsonObject :=
  ⟨cellsMembers cpus, cellsMembers_distinct cpus⟩

theorem getDbNumaTopology_cells :
    (getDbNumaTopology (some (some (cellsTopology [3]))) >>= pcpusOf) =
        .ok {.number 3} ∧
      getDbNumaTopology (some (some (cellsTopology [3, 4]))) =
        .error .typeError := by
  have sortable : Sortable (.object (cellsTopology [3]).members) :=
    (normalizeJson_isSome_iff _).mp ⟨_, rfl⟩
  refine ⟨((getDbNumaTopology_exact _).1 sortable).trans rfl, ?_⟩
  apply (getDbNumaTopology_exact (cellsTopology [3, 4])).2 _ _ rfl rfl
  · decide
  · exact ⟨_, List.mem_cons_self, rfl⟩

end CellTopologies

end Whitebox.Compute
