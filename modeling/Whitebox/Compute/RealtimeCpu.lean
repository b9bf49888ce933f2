import Mathlib.Data.Finset.Card
import Whitebox.Compute.ServerPinning
import Whitebox.Hardware.FormatCpuSpec

/-!
# Realtime CPUs

`test_realtime_cpu` gives a server a mask of realtime CPUs and compares the CPUs
that have a scheduler in its domain with the set that the mask stands for.  It
turns the set into a list first, so that the order in which the interpreter
lists a set takes part in the comparison.
-/

namespace Whitebox.Compute

open Whitebox.Python
open Whitebox.Hardware
open Whitebox.Effect.Fallible

/-- A `vcpusched` element with the attribute that is read. -/
structure SchedElement where
  vcpus : Option Str

inductive RealtimeExn where
  | raised (error : SpecError)
  /-- `assertEqual(expected, observed)`. -/
  | mismatchError (expected observed : List Int)
deriving DecidableEq

structure Flavor where
  vcpus : Nat
  extraSpecs : List (Str × Str)

def getCpusWithSched (scheds : List SchedElement) :
    Except SpecError (List Int) :=
  scheds.mapM fun each => intAttribute each.vcpus

/-- The flavor that `test_realtime_cpu` creates. -/
def realtimeFlavor (realtimeMask : Str) (realtimeSet : Finset Int) : Flavor where
  vcpus := realtimeSet.card + 1
  extraSpecs :=
    [("hw:cpu_policy".toList, "dedicated".toList),
      ("hw:cpu_realtime".toList, "yes".toList),
      ("hw:cpu_realtime_mask".toList, realtimeMask)]

/-- `test_realtime_cpu`, with the interpreter's `list` of a set and with the
scheduler elements of the server that a flavor leads to. -/
def testRealtimeCpu (list : Finset Int → List Int)
    (createTestServer : Flavor → List SchedElement) (realtimeMask : Str) :
    Except RealtimeExn Unit := do
  let realtimeSet ← (parseCpuSpec int realtimeMask).mapError .raised
  let scheds := createTestServer (realtimeFlavor realtimeMask realtimeSet)
  let cpus ← (getCpusWithSched scheds).mapError .raised
  let parsed ← (parseCpuSpec int realtimeMask).mapError .raised
  let expected := list parsed
  if expected = cpus then .ok () else .error (.mismatchError expected cpus)

/-- A list of the items of a set, in some order. -/
structure Enumerates (items : List Int) (cpus : Finset Int) : Prop where
  nodup : items.Nodup
  toFinset : items.toFinset = cpus

/-- The order of a hash table in which every number has the slot of its
remainder to itself. -/
def ListedBySlot (slots : Nat) (items : List Int) : Prop :=
  items.Pairwise fun first second => first % (slots : Int) < second % slots

theorem Enumerates.eq_iff {items cpus : List Int} {realtimeSet : Finset Int}
    (enumerates : Enumerates items realtimeSet)
    (ascending : cpus.Pairwise (· < ·)) :
    items = cpus ↔
      items.Pairwise (· < ·) ∧ cpus.toFinset = realtimeSet := by
  constructor
  · intro same
    subst same
    exact ⟨ascending, enumerates.toFinset⟩
  · intro both
    obtain ⟨ordered, sameSet⟩ := both
    have permutation : items.Perm cpus := by
      apply List.perm_of_nodup_nodup_toFinset_eq enumerates.nodup
      · exact ascending.imp ne_of_lt
      · exact enumerates.toFinset.trans sameSet.symm
    apply permutation.eq_of_pairwise _ ordered ascending
    intro first second _ _ less greater
    exact absurd greater less.asymm

/-- The test compares the listing of the mask's set with the schedulers. -/
theorem testRealtimeCpu_eq_ok_iff {list : Finset Int → List Int}
    {createTestServer : Flavor → List SchedElement} {realtimeMask : Str}
    {realtimeSet : Finset Int} {cpus : List Int}
    (accepted : parseCpuSpec int realtimeMask = .ok realtimeSet)
    (read : getCpusWithSched
      (createTestServer (realtimeFlavor realtimeMask realtimeSet)) =
        .ok cpus) :
    testRealtimeCpu list createTestServer realtimeMask = .ok () ↔
      list realtimeSet = cpus := by
  have unfolded : testRealtimeCpu list createTestServer realtimeMask =
      if list realtimeSet = cpus then .ok ()
      else .error (.mismatchError (list realtimeSet) cpus) := by
    unfold testRealtimeCpu
    rw [accepted]
    change (Except.mapError _ (getCpusWithSched
      (createTestServer (realtimeFlavor realtimeMask realtimeSet))) >>= _) = _
    rw [read]
    rfl
  rw [unfolded]
  split
  · simp [*]
  · simp [*]

/-- The test compares sets exactly if the set of the mask is listed in ascending
order or there is a difference to be found. -/
theorem testRealtimeCpu_compares_sets_iff {list : Finset Int → List Int}
    {createTestServer : Flavor → List SchedElement} {realtimeMask : Str}
    {realtimeSet : Finset Int} {cpus : List Int}
    (accepted : parseCpuSpec int realtimeMask = .ok realtimeSet)
    (read : getCpusWithSched
      (createTestServer (realtimeFlavor realtimeMask realtimeSet)) = .ok cpus)
    (ascending : cpus.Pairwise (· < ·))
    (enumerates : Enumerates (list realtimeSet) realtimeSet) :
    (testRealtimeCpu list createTestServer realtimeMask = .ok () ↔
        cpus.toFinset = realtimeSet) ↔
      (list realtimeSet).Pairwise (· < ·) ∨ cpus.toFinset ≠ realtimeSet := by
  rw [testRealtimeCpu_eq_ok_iff accepted read, enumerates.eq_iff ascending]
  constructor
  · intro compares
    by_cases sameSet : cpus.toFinset = realtimeSet
    · exact .inl (compares.mpr sameSet).1
    · exact .inr sameSet
  · intro condition
    rcases condition with ordered | different
    · exact and_iff_right ordered
    · exact iff_of_false (fun both => different both.2) different

/-- Numbers that are smaller than the table are listed in ascending order. -/
theorem ListedBySlot.ascending {slots : Nat} {items : List Int}
    (listed : ListedBySlot slots items)
    (fits : ∀ item ∈ items, 0 ≤ item ∧ item < slots) :
    items.Pairwise (· < ·) := by
  apply listed.imp_of_mem
  intro first second inFirst inSecond less
  obtain ⟨firstLower, firstUpper⟩ := fits first inFirst
  obtain ⟨secondLower, secondUpper⟩ := fits second inSecond
  rw [Int.emod_eq_of_lt firstLower firstUpper,
    Int.emod_eq_of_lt secondLower secondUpper] at less
  exact less

/-- The order cannot be seen as long as the table has a slot for each number up
to the largest CPU. -/
theorem testRealtimeCpu_of_listedBySlot {list : Finset Int → List Int}
    {createTestServer : Flavor → List SchedElement} {realtimeMask : Str}
    {realtimeSet : Finset Int} {cpus : List Int} {slots : Nat}
    (accepted : parseCpuSpec int realtimeMask = .ok realtimeSet)
    (read : getCpusWithSched
      (createTestServer (realtimeFlavor realtimeMask realtimeSet)) = .ok cpus)
    (ascending : cpus.Pairwise (· < ·))
    (enumerates : Enumerates (list realtimeSet) realtimeSet)
    (listed : ListedBySlot slots (list realtimeSet))
    (fits : ∀ cpu ∈ realtimeSet, cpu < slots) :
    testRealtimeCpu list createTestServer realtimeMask = .ok () ↔
      cpus.toFinset = realtimeSet := by
  rw [testRealtimeCpu_eq_ok_iff accepted read, enumerates.eq_iff ascending]
  apply and_iff_right
  apply listed.ascending
  intro cpu member
  have inSet : cpu ∈ realtimeSet := by
    rw [← enumerates.toFinset]
    exact List.mem_toFinset.mpr member
  exact ⟨parseCpuSpec_nonneg accepted inSet, fits cpu inSet⟩

def schedsOf (cpus : List Str) : List SchedElement :=
  cpus.map fun cpu => ⟨some cpu⟩

theorem testRealtimeCpu_compares_contiguous_mask :
    (testRealtimeCpu (fun _ => [1, 2])
        (fun _ => schedsOf ["1".toList, "2".toList]) "1-2".toList = .ok () ↔
      [1, 2].toFinset = ({1, 2} : Finset Int)) :=
  (testRealtimeCpu_compares_sets_iff (by decide) rfl (by decide)
    ⟨by decide, by decide⟩).mpr (.inl (by decide))

/-- The set of two CPUs that a table of eight slots lists the other way round. -/
theorem testRealtimeCpu_sparse_mask :
    let list : Finset Int → List Int := fun _ => [8, 1]
    parseCpuSpec int "1,8".toList = .ok {8, 1} ∧
      Enumerates (list {8, 1}) {8, 1} ∧ ListedBySlot 8 (list {8, 1}) ∧
      getCpusWithSched (schedsOf ["1".toList, "8".toList]) = .ok [1, 8] ∧
      testRealtimeCpu list (fun _ => schedsOf ["1".toList, "8".toList])
        "1,8".toList = .error (.mismatchError [8, 1] [1, 8]) := by
  refine ⟨by decide, ⟨by decide, by decide⟩, ?_, rfl, by decide⟩
  unfold ListedBySlot
  decide

end Whitebox.Compute
