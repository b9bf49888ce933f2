import Mathlib.Data.Finset.Card
import Mathlib.Data.Finset.Disjoint
import Whitebox.Compute.GuestTuning

/-!
# Servers with a mixed CPU policy

Virtual CPU 0 of such a server floats over shared CPUs of its host, and every
other virtual CPU has a dedicated CPU of its own.  The tests count the host
CPUs of the other virtual CPUs together, which tells them apart: there are as
many host CPUs as virtual ones exactly if no two of them are the same.
-/

namespace Whitebox.Compute

open Whitebox.Python
open Whitebox.Hardware
open Whitebox.Services
open Whitebox.Services.CommandLine (getCpuSharedSet getCpuDedicatedSet)
open Whitebox.Effect.Fallible

/-- The message of an assertion about a server with a mixed policy. -/
inductive MixedMessage where
  /-- `'Expected to find %s NUMA Nodes but instead found %s '`. -/
  | numaNodes (expected found : Nat)
  /-- `'Number of Shared CPUs allocated to guest should be %s but instead found
  %s'`. -/
  | sharedCpus (expected found : Nat)
  /-- `'Only one PCPU should be pinned to the guest CPU ID 1, but instead found
  %s'`. -/
  | onePcpu (found : Finset Int)
  /-- `'Expected to find a total of %s dedicated cpus for guest but instead
  found %s'`. -/
  | dedicatedCpus (expected : Nat) (found : Finset Int)
  /-- A format with two sets of CPUs and possibly other words. -/
  | sets (format : Str) (words : List Str) (first second : Finset Int)
deriving DecidableEq

inductive MixedExn where
  | conf (error : Exn ⊕ SpecError)
  | spec (error : SpecError)
  | failureException (message : MixedMessage)
deriving DecidableEq

/-- A server, its host and what the tests are configured with. -/
structure MixedRun where
  serverId : Str
  host : Str
  root : DomainXml
  getConfOpt : Key → Except Exn (Option Str)
  sharedCpusPerNuma : Nat
  vcpus : Nat
  numaNodes : Nat

namespace MixedRun

variable (run : MixedRun)

/-- The checks of `guest_shared_cpus`, which both tests make. -/
def checkSharedCpus (guestSharedCpus hostSharedCpus : Finset Int) :
    Except MixedExn Unit := do
  require (run.sharedCpusPerNuma = guestSharedCpus.card) (.failureException
    (.sharedCpus run.sharedCpusPerNuma guestSharedCpus.card))
  require (guestSharedCpus ⊆ hostSharedCpus) (.failureException
    (.sets ("Shared CPUs allocated to guest %s is not a subset of the " ++
      "shared CPUs that compute host is expected to provide %s").toList []
      guestSharedCpus hostSharedCpus))

/-- `test_shared_pinned_and_unpinned_guest` once the server is there. -/
def testSharedPinnedAndUnpinnedGuest : Except MixedExn Unit := do
  let hostDedicatedCpus ←
    (getCpuDedicatedSet int run.getConfOpt).mapError .conf
  let hostSharedCpus ← (getCpuSharedSet int run.getConfOpt).mapError .conf
  let guestSharedCpus ←
    (getHostPcpusForGuestVcpu int run.root.cputune [0]).mapError .spec
  run.checkSharedCpus guestSharedCpus hostSharedCpus
  let guestDedicatedCpus ←
    (getHostPcpusForGuestVcpu int run.root.cputune [1]).mapError .spec
  require (1 = guestDedicatedCpus.card) (.failureException
    (.onePcpu guestDedicatedCpus))
  require (guestDedicatedCpus ⊆ hostDedicatedCpus) (.failureException
    (.sets ("PCPU %s pinned to CPU id 1 of instance %s located on host %s " ++
      "is not a subset of the dedicated set %s").toList
      [run.serverId, run.host] guestDedicatedCpus hostDedicatedCpus))

/-- `list(range(self.vcpus)[1:])`. -/
def dedicatedGuestCpusIds : List Nat :=
  (List.range run.vcpus).drop 1

/-- `_verify_multi_numa_guest`. -/
def verifyMultiNumaGuest : Except MixedExn Unit := do
  let hostDedicatedCpus ←
    (getCpuDedicatedSet int run.getConfOpt).mapError .conf
  let hostSharedCpus ← (getCpuSharedSet int run.getConfOpt).mapError .conf
  let numaNodes ← (getServerCellPinning run.root).mapError .spec
  require (run.numaNodes = numaNodes.length) (.failureException
    (.numaNodes run.numaNodes numaNodes.length))
  let guestSharedCpus ←
    (getHostPcpusForGuestVcpu int run.root.cputune [0]).mapError .spec
  run.checkSharedCpus guestSharedCpus hostSharedCpus
  let dedicatedPin ← (getHostPcpusForGuestVcpu int run.root.cputune
    (run.dedicatedGuestCpusIds.map Int.ofNat)).mapError .spec
  require (dedicatedPin ⊆ hostDedicatedCpus) (.failureException
    (.sets "Pinned Host CPU's %s of server %s is not a subset of %s".toList
      [run.serverId] dedicatedPin hostDedicatedCpus))
  require (run.dedicatedGuestCpusIds.length = dedicatedPin.card)
    (.failureException
      (.dedicatedCpus run.dedicatedGuestCpusIds.length dedicatedPin))
  require (Disjoint guestSharedCpus dedicatedPin) (.failureException
    (.sets ("The shared cpus %s should be disjoint from the dedicated set " ++
      "%s").toList [] guestSharedCpus dedicatedPin))

end MixedRun

section Counting

/-- The virtual CPUs from 1 on, each with the CPU at its place in the list. -/
def pinnedFromOne (own : List Nat) : List (Nat × CpuMask) :=
  (List.range' 1 own.length).zip (own.map CpuMask.single)

theorem map_fst_pinnedFromOne (own : List Nat) :
    (pinnedFromOne own).map Prod.fst = List.range' 1 own.length := by
  apply List.map_fst_zip
  rw [List.length_map, List.length_range']

theorem map_snd_pinnedFromOne (own : List Nat) :
    (pinnedFromOne own).map Prod.snd = own.map CpuMask.single := by
  apply List.map_snd_zip
  rw [List.length_map, List.length_range']

theorem card_cpuSet (mask : CpuMask) :
    mask.cpuSet.card = mask.cpus.length := by
  have distinct : (mask.cpus.map Int.ofNat).Nodup := by
    apply List.Nodup.map fun _ _ same => Int.ofNat.inj same
    exact mask.ascending.imp fun less => Nat.ne_of_lt less
  rw [CpuMask.cpuSet, List.toFinset_card_of_nodup distinct, List.length_map]

theorem unite_single (own : List Nat) :
    CpuMask.unite (own.map CpuMask.single) =
      (own.map Int.ofNat).toFinset := by
  ext cpu
  simp only [CpuMask.mem_unite, List.mem_map, exists_exists_and_eq_and,
    CpuMask.mem_cpuSet, CpuMask.single, List.mem_singleton, exists_eq_left,
    List.mem_toFinset, Int.ofNat_eq_natCast]

/-- There are as many CPUs in all as virtual CPUs exactly if no CPU is given
twice. -/
theorem card_unite_single_iff (own : List Nat) :
    (CpuMask.unite (own.map CpuMask.single)).card = own.length ↔
      own.Nodup := by
  have counted : (own.map Int.ofNat).toFinset.card =
      (own.map Int.ofNat).length ↔ (own.map Int.ofNat).Nodup :=
    Multiset.toFinset_card_eq_card_iff_nodup
  rw [List.length_map] at counted
  rw [unite_single, counted]
  exact List.nodup_map_iff fun _ _ same => Int.ofNat.inj same

theorem ofNat_subset_iff {own : List Nat} {cpus : Finset Int} :
    (own.map Int.ofNat).toFinset ⊆ cpus ↔ ∀ cpu ∈ own, (cpu : Int) ∈ cpus := by
  simp only [Finset.subset_iff, List.mem_toFinset, List.forall_mem_map,
    Int.ofNat_eq_natCast]

theorem disjoint_ofNat_iff {mask : CpuMask} {own : List Nat} :
    Disjoint mask.cpuSet (own.map Int.ofNat).toFinset ↔
      ∀ cpu ∈ own, cpu ∉ mask.cpus := by
  simp only [Finset.disjoint_right, List.mem_toFinset, List.forall_mem_map,
    CpuMask.mem_cpuSet, Int.ofNat_eq_natCast, Int.natCast_inj,
    exists_eq_right]

end Counting

section Verdicts

variable {run : MixedRun} {guest : Guest} {hostDedicated hostShared : Finset Int}
  {shared : CpuMask} {own : List Nat}

theorem checkSharedCpus_eq_ok_iff {guestShared : Finset Int} {value : Unit} :
    run.checkSharedCpus guestShared hostShared = .ok value ↔
      run.sharedCpusPerNuma = guestShared.card ∧ guestShared ⊆ hostShared := by
  simp only [MixedRun.checkSharedCpus, bind_eq_ok_iff, require_eq_ok_iff,
    exists_const]

theorem getHostPcpus_alone {vcpu : Nat} {mask : CpuMask}
    (pinned : (vcpu, mask) ∈ guest.vcpus.entries) :
    getHostPcpusForGuestVcpu int guest.xml.cputune [(vcpu : Int)] =
      .ok mask.cpuSet := by
  have read := @getHostPcpus_eq_unite guest [(vcpu, mask)]
    (List.forall_mem_singleton.mpr pinned)
  rw [List.map_cons, List.map_cons, CpuMask.unite, List.foldl_cons,
    Finset.empty_union] at read
  exact read

theorem dedicatedGuestCpusIds_eq (size : run.vcpus = own.length + 1) :
    run.dedicatedGuestCpusIds = (pinnedFromOne own).map Prod.fst := by
  rw [MixedRun.dedicatedGuestCpusIds, size, List.range_eq_range',
    List.drop_range', map_fst_pinnedFromOne]
  rfl

/-- A server with a virtual CPU 0 on shared CPUs and others with one CPU each
passes the checks of a guest with several NUMA nodes exactly if it has the
nodes, virtual CPU 0 has the right number of CPUs and all of them shared ones,
and the others have dedicated CPUs of which no two are the same and none is
shared. -/
theorem verifyMultiNumaGuest_passes_iff
    (shown : run.root = guest.xml)
    (dedicated : getCpuDedicatedSet int run.getConfOpt = .ok hostDedicated)
    (sharedSet : getCpuSharedSet int run.getConfOpt = .ok hostShared)
    (size : run.vcpus = own.length + 1)
    (policy : guest.vcpus.entries = (0, shared) :: pinnedFromOne own) :
    run.verifyMultiNumaGuest = .ok () ↔
      guest.cells.entries.length = run.numaNodes ∧
      shared.cpus.length = run.sharedCpusPerNuma ∧
      shared.cpuSet ⊆ hostShared ∧
      own.Nodup ∧
      (∀ cpu ∈ own, (cpu : Int) ∈ hostDedicated) ∧
      ∀ cpu ∈ own, cpu ∉ shared.cpus := by
  have first : getHostPcpusForGuestVcpu int guest.xml.cputune [0] =
      .ok shared.cpuSet :=
    getHostPcpus_alone (policy ▸ List.mem_cons_self)
  have others : getHostPcpusForGuestVcpu int guest.xml.cputune
      (run.dedicatedGuestCpusIds.map Int.ofNat) =
        .ok (CpuMask.unite (own.map CpuMask.single)) := by
    rw [dedicatedGuestCpusIds_eq size, List.map_map,
      ← map_snd_pinnedFromOne own]
    apply getHostPcpus_eq_unite
    intro entry member
    rw [policy]
    exact List.mem_cons_of_mem _ member
  have ids : run.dedicatedGuestCpusIds.length = own.length := by
    rw [dedicatedGuestCpusIds_eq size, map_fst_pinnedFromOne,
      List.length_range']
  simp only [MixedRun.verifyMultiNumaGuest, bind_eq_ok_iff,
    mapError_eq_ok_iff, require_eq_ok_iff, exists_const, dedicated, sharedSet,
    shown, getServerCellPinning_xml, first, others, checkSharedCpus_eq_ok_iff,
    Except.ok.injEq, exists_eq_left', card_cpuSet]
  have counted : own.length = (CpuMask.unite (own.map CpuMask.single)).card ↔
      own.Nodup :=
    eq_comm.trans (card_unite_single_iff own)
  have cells : guest.cells.cpus.length = guest.cells.entries.length :=
    List.length_map _
  rw [ids, counted, unite_single, ofNat_subset_iff, disjoint_ofNat_iff, cells,
    eq_comm, @eq_comm _ run.sharedCpusPerNuma]
  tauto

/-- A guest with shared CPU 1, three dedicated CPUs and two cells. -/
def threeOwnCpus : Guest where
  vcpus := ⟨(0, .single 1) :: pinnedFromOne [2, 3, 5], by decide⟩
  emulator := []
  iothreads := 1
  iothreadPins := ⟨[], List.nodup_nil⟩
  cells := ⟨[(0, .single 0), (1, .single 1)], by decide⟩
  floating := none

def threeOwnCpusRun : MixedRun where
  serverId := "server".toList
  host := "compute".toList
  root := threeOwnCpus.xml
  getConfOpt key :=
    if key = CommandLine.cpuDedicatedSet then .ok (some "2-5".toList)
    else .ok (some "0-1".toList)
  sharedCpusPerNuma := 1
  vcpus := 4
  numaNodes := 2

theorem verifyMultiNumaGuest_passes_threeOwnCpus :
    threeOwnCpusRun.verifyMultiNumaGuest = .ok () := by
  have dedicated : getCpuDedicatedSet int threeOwnCpusRun.getConfOpt =
      .ok {2, 3, 4, 5} := by decide
  have shared : getCpuSharedSet int threeOwnCpusRun.getConfOpt =
      .ok {0, 1} := by decide
  refine (verifyMultiNumaGuest_passes_iff rfl dedicated shared rfl rfl).mpr ?_
  decide

/-- A server with two virtual CPUs passes exactly if virtual CPU 0 has the
right number of CPUs and all of them shared ones, and virtual CPU 1 has one
dedicated CPU. -/
theorem testSharedPinnedAndUnpinnedGuest_eq_ok_iff {dedicatedMask : CpuMask}
    (shown : run.root = guest.xml)
    (dedicated : getCpuDedicatedSet int run.getConfOpt = .ok hostDedicated)
    (sharedSet : getCpuSharedSet int run.getConfOpt = .ok hostShared)
    (policy : guest.vcpus.entries = [(0, shared), (1, dedicatedMask)]) :
    run.testSharedPinnedAndUnpinnedGuest = .ok () ↔
      shared.cpus.length = run.sharedCpusPerNuma ∧
      shared.cpuSet ⊆ hostShared ∧
      dedicatedMask.cpus.length = 1 ∧ dedicatedMask.cpuSet ⊆ hostDedicated := by
  have first : getHostPcpusForGuestVcpu int guest.xml.cputune [0] =
      .ok shared.cpuSet :=
    getHostPcpus_alone (by simp [policy])
  have second : getHostPcpusForGuestVcpu int guest.xml.cputune [1] =
      .ok dedicatedMask.cpuSet :=
    getHostPcpus_alone (by simp [policy])
  simp only [MixedRun.testSharedPinnedAndUnpinnedGuest, bind_eq_ok_iff,
    mapError_eq_ok_iff, require_eq_ok_iff, exists_const, dedicated, sharedSet,
    shown, first, second, checkSharedCpus_eq_ok_iff, Except.ok.injEq,
    exists_eq_left', card_cpuSet]
  rw [eq_comm, @eq_comm _ 1, and_assoc]

end Verdicts

end Whitebox.Compute
