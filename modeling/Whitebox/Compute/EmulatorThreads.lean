import Mathlib.Data.Finset.Disjoint
import Whitebox.Compute.GuestTuning

/-!
# Emulator threads and I/O threads

The tests of the emulator thread policies and of the CPU policies compare the
CPUs of a server's emulator threads and of its I/O thread with the CPUs of its
virtual CPUs and of its host.  Their verdicts are stated here over what the
guests themselves say about their CPUs.

A server that is not pinned at all passes the test of the policy `isolate` when
the I/O threads are not looked at.
-/

namespace Whitebox.Compute

open Whitebox.Python
open Whitebox.Hardware
open Whitebox.Association
open Whitebox.Effect.Fallible

/-- The message of an assertion about the CPUs of a server. -/
inductive TuningMessage where
  /-- A format with two sets of CPUs. -/
  | sets (format : Str) (first second : Finset Int)
  /-- A format with the pinning of a server and a set of CPUs. -/
  | pinning (format : Str) (cpuPinnings : Pinnings) (cpus : Finset Int)
  /-- `"Unexpected overlap in CPU pinning: {}; {}"`. -/
  | overlap (first second : Pinnings)
  /-- `"Instance should have 1 iothread but it has %d"`, possibly with the id
  of the server. -/
  | iothreads (serverId : Option Str) (count : Int)
  /-- `"The iothread of the instance %s should be pinned to the CPUs %s but it
  is pinned to %s"`. -/
  | iothreadPins (serverId : Str) (expected found : Option (Finset Int))
deriving DecidableEq

inductive TuningExn where
  | spec (error : SpecError)
  | typeError
  | keyError (key : Int)
  | build (message : Str)
  | skipException (message : Str)
  | failureException (message : TuningMessage)
deriving DecidableEq

/-- The flavor and the hint that a server is created with. -/
structure ServerRequest where
  cpuPolicy : Str
  threadsPolicy : Option Str
  vcpus : Nat
  sameHost : Option Str

structure TunedServer where
  id : Str
  host : Str
  root : DomainXml

/-- The configuration of the tests and the cloud they run against. -/
structure TuningCloud where
  iothreads : Bool
  sharedCpusPerNuma : Nat
  dedicatedCpusPerNuma : Nat
  nodes : Nodes
  createTestServer : ServerRequest → Except TuningExn TunedServer

/-- `pins[1]`, where `pins` may be `None`. -/
def firstIothread : Option CpusByNumber → Except TuningExn (Finset Int)
  | none => .error .typeError
  | some pins =>
      match pins.lookup 1 with
      | none => .error (.keyError 1)
      | some cpus => .ok cpus

/-- `pins[1] if pins is not None else None`. -/
def firstIothreadOrNone :
    Option CpusByNumber → Except TuningExn (Option (Finset Int))
  | none => .ok none
  | some pins => (firstIothread (some pins)).map some

/-- `_assert_iothread_pins`, where the I/O threads are a feature that may be
off. -/
def assertIothreadPins (iothreads : Bool) (server : TunedServer)
    (expectedPins : Option (Finset Int)) : Except TuningExn Unit :=
  if iothreads then do
    let (nr, pins) ← (getServerIothreads server.root).mapError .spec
    require (1 = nr) (.failureException (.iothreads (some server.id) nr))
    let pins ← firstIothreadOrNone pins
    require (expectedPins = pins)
      (.failureException (.iothreadPins server.id expectedPins pins))
  else pure ()

namespace TuningCloud

variable (cloud : TuningCloud)

def testCpuShared : Except TuningExn Unit := do
  require (0 < cloud.sharedCpusPerNuma) (.skipException
    "Need one or more shared cpus per NUMA".toList)
  let server ← cloud.createTestServer
    ⟨"shared".toList, none, cloud.sharedCpusPerNuma, none⟩
  assertIothreadPins cloud.iothreads server none

def testCpuDedicated : Except TuningExn Unit := do
  require (2 ≤ cloud.dedicatedCpusPerNuma) (.skipException
    "Need two or more dedicated cpus per NUMA".toList)
  let vcpus := cloud.dedicatedCpusPerNuma / 2
  let serverA ← cloud.createTestServer ⟨"dedicated".toList, none, vcpus, none⟩
  let serverB ← cloud.createTestServer
    ⟨"dedicated".toList, none, vcpus, some serverA.id⟩
  let cpuPinningsA ← (getServerCpuPinning serverA.root.cputune).mapError .spec
  let cpuPinningsB ← (getServerCpuPinning serverB.root.cputune).mapError .spec
  let dedicatedVcpus ←
    (getHostCpuDedicatedSet cloud.nodes serverA.host).mapError .spec
  require (pinnedCpus cpuPinningsA ⊆ dedicatedVcpus) (.failureException
    (.pinning ("Instance A's pinning %s should be a subset of pinning " ++
      "range %s").toList cpuPinningsA dedicatedVcpus))
  require (pinnedCpus cpuPinningsB ⊆ dedicatedVcpus) (.failureException
    (.pinning ("Instance B's pinning %s should be a subset of pinning " ++
      "range %s").toList cpuPinningsB dedicatedVcpus))
  require (Disjoint (pinnedCpus cpuPinningsA) (pinnedCpus cpuPinningsB))
    (.failureException (.overlap cpuPinningsA cpuPinningsB))
  assertIothreadPins cloud.iothreads serverA (some (pinnedCpus cpuPinningsA))
  assertIothreadPins cloud.iothreads serverB (some (pinnedCpus cpuPinningsB))

def testPolicyShareCpuSharedSet : Except TuningExn Unit := do
  require (cloud.sharedCpusPerNuma ≠ 0) (.skipException
    ("Test requires cpu_shared_set to be configured on the compute " ++
      "hosts").toList)
  let server ← cloud.createTestServer
    ⟨"dedicated".toList, some "share".toList, cloud.sharedCpusPerNuma, none⟩
  let cpuSharedSet ←
    (getHostCpuSharedSet cloud.nodes server.host).mapError .spec
  let emulatorThreads ←
    (getServerEmulatorThreads int server.root.cputune).mapError .spec
  require (cpuSharedSet = emulatorThreads) (.failureException (.sets
    "Emulator threads for server %s is not the same as CPU set %s".toList
    emulatorThreads cpuSharedSet))
  assertIothreadPins cloud.iothreads server (some cpuSharedSet)

/-- The message of the skip for hosts with few dedicated CPUs. -/
def fewDedicatedCpus : TuningExn :=
  .skipException ("Need at least 2 or more pCPUs per NUMA allocated to the " ++
    "cpu_dedicated_set of the compute host").toList

/-- The body of `test_policy_share_cpu_shared_unset`. -/
def testPolicyShareCpuSharedUnset : Except TuningExn Unit := do
  require (¬ cloud.dedicatedCpusPerNuma < 2) fewDedicatedCpus
  let vcpus := cloud.dedicatedCpusPerNuma / 2
  let serverA ← cloud.createTestServer
    ⟨"dedicated".toList, some "share".toList, vcpus, none⟩
  let serverB ← cloud.createTestServer
    ⟨"dedicated".toList, some "share".toList, vcpus, some serverA.id⟩
  let emulatorThreadsA ←
    (getServerEmulatorThreads int serverA.root.cputune).mapError .spec
  let emulatorThreadsB ←
    (getServerEmulatorThreads int serverB.root.cputune).mapError .spec
  let cpuPinsA ← (getPinningAsSet int serverA.root.cputune).mapError .spec
  let cpuPinsB ← (getPinningAsSet int serverB.root.cputune).mapError .spec
  require (emulatorThreadsA = cpuPinsA) (.failureException (.sets
    "Threads %s not the same as CPU pins %s".toList emulatorThreadsA cpuPinsA))
  require (emulatorThreadsB = cpuPinsB) (.failureException (.sets
    "Threads %s not the same as CPU pins %s".toList emulatorThreadsB cpuPinsB))
  assertIothreadPins cloud.iothreads serverA (some cpuPinsA)
  assertIothreadPins cloud.iothreads serverB (some cpuPinsB)
  require (Disjoint cpuPinsA cpuPinsB) (.failureException (.sets
    "Different server pins overlap: %s and %s".toList cpuPinsA cpuPinsB))

/-- The first look at the I/O thread in `test_policy_isolate`. -/
def isolatedIothread (server : TunedServer) (cpuPins : Finset Int) :
    Except TuningExn (Option (Finset Int)) :=
  if cloud.iothreads then do
    let (nr, pins) ← (getServerIothreads server.root).mapError .spec
    require (1 = nr) (.failureException (.iothreads none nr))
    let pins ← firstIothread pins
    require (Disjoint cpuPins pins) (.failureException (.sets
      "IOThreads %s overlap with CPUs %s".toList pins cpuPins))
    pure (some pins)
  else pure none

/-- The second look at the I/O thread in `test_policy_isolate`. -/
def dedicatedIothread (pins : Option (Finset Int))
    (cpuDedicatedSet : Finset Int) : Except TuningExn Unit :=
  match pins with
  | none => pure ()
  | some pins =>
      require (pins ⊆ cpuDedicatedSet) (.failureException (.sets
        "IO thread value %s is not a subset of cpu dedicated set %s".toList
        pins cpuDedicatedSet))

def testPolicyIsolate : Except TuningExn Unit := do
  require (¬ cloud.dedicatedCpusPerNuma < 2) fewDedicatedCpus
  let server ← cloud.createTestServer ⟨"dedicated".toList,
    some "isolate".toList, cloud.dedicatedCpusPerNuma - 1, none⟩
  let emulatorThreads ←
    (getServerEmulatorThreads int server.root.cputune).mapError .spec
  let cpuPins ← (getPinningAsSet int server.root.cputune).mapError .spec
  let cpuDedicatedSet ←
    (getHostCpuDedicatedSet cloud.nodes server.host).mapError .spec
  require (cpuPins ⊆ cpuDedicatedSet) (.failureException (.sets
    "Pin set value %s is not a subset of %s".toList cpuPins cpuDedicatedSet))
  require (Disjoint cpuPins emulatorThreads) (.failureException (.sets
    "Threads %s overlap with CPUs %s".toList emulatorThreads cpuPins))
  let pins ← cloud.isolatedIothread server cpuPins
  require (emulatorThreads ⊆ cpuDedicatedSet) (.failureException (.sets
    "Emulator thread value %s is not a subset of cpu dedicated set %s".toList
    emulatorThreads cpuDedicatedSet))
  dedicatedIothread pins cpuDedicatedSet

end TuningCloud

namespace Guest

/-- An I/O thread with the number 1 is pinned to the CPUs. -/
def FirstIothreadOn (guest : Guest) (cpus : Finset Int) : Prop :=
  ∃ mask, (1, mask) ∈ guest.iothreadPins.entries ∧ mask.cpuSet = cpus

/-- The I/O thread is pinned to the CPUs, or no I/O thread is pinned. -/
def IothreadOn (guest : Guest) : Option (Finset Int) → Prop
  | none => guest.iothreadPins.entries = []
  | some cpus => guest.FirstIothreadOn cpus

/-- There is one I/O thread, and it is pinned as expected. -/
def OneIothreadOn (guest : Guest) (expected : Option (Finset Int)) : Prop :=
  guest.iothreads = 1 ∧ guest.IothreadOn expected

/-- Every virtual CPU that is pinned is pinned to one CPU only. -/
def SingleCpus (guest : Guest) : Prop :=
  ∀ entry ∈ guest.vcpus.entries, ∃ cpu, entry.2.cpuSet = {cpu}

theorem exists_pinnings_iff {guest : Guest} :
    (∃ pinnings : Pinnings, guest.vcpus.cpus =
        pinnings.map fun pin => (pin.1, ({pin.2} : Finset Int))) ↔
      guest.SingleCpus := by
  rw [SingleCpus, NumberedMasks.cpus]
  induction guest.vcpus.entries with
  | nil => exact iff_of_true ⟨[], rfl⟩ (List.forall_mem_nil _)
  | cons entry entries induction =>
      rw [List.forall_mem_cons, ← induction]
      constructor
      · intro found
        obtain ⟨pinnings, same⟩ := found
        cases pinnings with
        | nil => cases same
        | cons pin pinnings =>
            obtain ⟨first, others⟩ := List.cons_eq_cons.mp same
            exact ⟨⟨pin.2, (Prod.mk.inj first).2⟩, pinnings, others⟩
      · intro found
        obtain ⟨⟨cpu, single⟩, pinnings, others⟩ := found
        refine ⟨((entry.1 : Int), cpu) :: pinnings, ?_⟩
        rw [List.map_cons, List.map_cons, single, others]

theorem pinnedCpus_eq_united {guest : Guest} {pinnings : Pinnings}
    (same : guest.vcpus.cpus =
      pinnings.map fun pin => (pin.1, ({pin.2} : Finset Int))) :
    pinnedCpus pinnings = guest.vcpus.united := by
  have sets : pinnings.map (fun pin => ({pin.2} : Finset Int)) =
      guest.vcpus.entries.map fun entry => entry.2.cpuSet := by
    have values := congrArg (List.map Prod.snd) same
    rw [NumberedMasks.cpus, List.map_map, List.map_map] at values
    exact values.symm
  ext cpu
  rw [NumberedMasks.united, CpuMask.mem_unite, pinnedCpus, List.mem_toFinset]
  have pinned : cpu ∈ pinnings.map Prod.snd ↔
      ∃ cpus ∈ pinnings.map (fun pin => ({pin.2} : Finset Int)), cpu ∈ cpus := by
    simp [eq_comm]
  rw [pinned, sets]
  simp only [List.mem_map, exists_exists_and_eq_and]

end Guest

section Iothreads

variable {guest : Guest}

theorem lookup_iothreadPins_iff {cpus : Finset Int} :
    guest.iothreadPins.cpus.lookup 1 = some cpus ↔
      guest.FirstIothreadOn cpus := by
  rw [lookup_eq_some_iff guest.iothreadPins.distinct_cpus,
    NumberedMasks.cpus, List.mem_map]
  constructor
  · intro found
    obtain ⟨⟨number, mask⟩, member, same⟩ := found
    obtain ⟨first, cpuSet⟩ := Prod.mk.inj same
    have number_eq : number = 1 := Int.ofNat.inj first
    exact ⟨mask, number_eq ▸ member, cpuSet⟩
  · intro found
    obtain ⟨mask, member, rfl⟩ := found
    exact ⟨(1, mask), member, rfl⟩

theorem firstIothread_eq_ok_iff {cpus : Finset Int} :
    firstIothread guest.iothreadCpus = .ok cpus ↔
      guest.FirstIothreadOn cpus := by
  rw [Guest.iothreadCpus]
  split
  · next unpinned =>
      refine iff_of_false ?_ ?_
      · intro returned
        cases returned
      · intro found
        obtain ⟨mask, member, _⟩ := found
        rw [unpinned] at member
        cases member
  · rw [← lookup_iothreadPins_iff, firstIothread]
    cases found : guest.iothreadPins.cpus.lookup 1 with
    | none => simp
    | some cpus => simp

theorem firstIothreadOrNone_eq_ok_iff {expected : Option (Finset Int)} :
    firstIothreadOrNone guest.iothreadCpus = .ok expected ↔
      guest.IothreadOn expected := by
  by_cases unpinned : guest.iothreadPins.entries = []
  · have none : guest.iothreadCpus = none := if_pos unpinned
    rw [none, firstIothreadOrNone]
    cases expected with
    | none => simp [Guest.IothreadOn, unpinned]
    | some cpus => simp [Guest.IothreadOn, Guest.FirstIothreadOn, unpinned]
  · have pinned : guest.iothreadCpus = some guest.iothreadPins.cpus :=
      if_neg unpinned
    rw [pinned, firstIothreadOrNone, map_eq_ok_iff, ← pinned]
    simp only [firstIothread_eq_ok_iff]
    cases expected with
    | none => simp [Guest.IothreadOn, unpinned]
    | some cpus => simp [Guest.IothreadOn]

variable {cloud : TuningCloud} {server : TunedServer}

theorem assertIothreadPins_eq_ok_iff {iothreads : Bool}
    (shown : server.root = guest.xml) {expected : Option (Finset Int)}
    {value : Unit} :
    assertIothreadPins iothreads server expected = .ok value ↔
      (iothreads = true → guest.OneIothreadOn expected) := by
  rw [assertIothreadPins]
  split
  · next enabled =>
      simp only [bind_eq_ok_iff, mapError_eq_ok_iff, shown,
        getServerIothreads_xml, Except.ok.injEq, exists_eq_left',
        require_eq_ok_iff, exists_const, firstIothreadOrNone_eq_ok_iff,
        exists_eq_right', enabled, true_implies]
      exact and_congr_left' (by omega)
  · next disabled =>
      simp [disabled, pure, Except.pure]

theorem isolatedIothread_eq_ok_iff (shown : server.root = guest.xml)
    {cpuPins : Finset Int} {pins : Option (Finset Int)} :
    cloud.isolatedIothread server cpuPins = .ok pins ↔
      if cloud.iothreads then
        guest.iothreads = 1 ∧ ∃ cpus, guest.FirstIothreadOn cpus ∧
          Disjoint cpuPins cpus ∧ some cpus = pins
      else none = pins := by
  rw [TuningCloud.isolatedIothread]
  split
  · simp only [bind_eq_ok_iff, mapError_eq_ok_iff, shown,
      getServerIothreads_xml, Except.ok.injEq, exists_eq_left',
      require_eq_ok_iff, exists_const, firstIothread_eq_ok_iff,
      pure_eq_ok_iff]
    exact and_congr_left' (by omega)
  · exact pure_eq_ok_iff

theorem dedicatedIothread_eq_ok_iff {pins : Option (Finset Int)}
    {dedicated : Finset Int} :
    TuningCloud.dedicatedIothread pins dedicated = .ok () ↔
      ∀ cpus, pins = some cpus → cpus ⊆ dedicated := by
  cases pins with
  | none => simp [TuningCloud.dedicatedIothread, pure, Except.pure]
  | some cpus => simp [TuningCloud.dedicatedIothread, require_eq_ok_iff]

end Iothreads

/-- The cloud creates a server for the request, and its domain is that of the
guest. -/
structure Boots (cloud : TuningCloud) (request : ServerRequest)
    (server : TunedServer) (guest : Guest) : Prop where
  created : cloud.createTestServer request = .ok server
  shown : server.root = guest.xml

section Verdicts

variable {cloud : TuningCloud} {server serverA serverB : TunedServer}
  {guest guestA guestB : Guest}

theorem testCpuShared_eq_ok_iff
    (boots : Boots cloud ⟨"shared".toList, none, cloud.sharedCpusPerNuma, none⟩
      server guest) :
    cloud.testCpuShared = .ok () ↔
      0 < cloud.sharedCpusPerNuma ∧
        (cloud.iothreads = true → guest.OneIothreadOn none) := by
  simp only [TuningCloud.testCpuShared, bind_eq_ok_iff, require_eq_ok_iff,
    exists_const, boots.created, Except.ok.injEq, exists_eq_left',
    assertIothreadPins_eq_ok_iff boots.shown]

theorem testPolicyShareCpuSharedSet_eq_ok_iff
    (boots : Boots cloud ⟨"dedicated".toList, some "share".toList,
      cloud.sharedCpusPerNuma, none⟩ server guest) {shared : Finset Int}
    (hosts : getHostCpuSharedSet cloud.nodes server.host = .ok shared) :
    cloud.testPolicyShareCpuSharedSet = .ok () ↔
      cloud.sharedCpusPerNuma ≠ 0 ∧ shared = CpuMask.unite guest.emulator ∧
        (cloud.iothreads = true → guest.OneIothreadOn (some shared)) := by
  simp only [TuningCloud.testPolicyShareCpuSharedSet, bind_eq_ok_iff,
    mapError_eq_ok_iff, require_eq_ok_iff, exists_const, boots.created, hosts,
    boots.shown, getServerEmulatorThreads_xml, Except.ok.injEq,
    exists_eq_left', assertIothreadPins_eq_ok_iff boots.shown]

/-- The test of the policy `isolate` passes exactly if the CPUs that the virtual
CPUs, the emulator threads and the I/O thread are pinned to are dedicated ones
and the virtual CPUs share none of theirs.  The I/O thread is only looked at
where the feature is on. -/
theorem testPolicyIsolate_passes_iff
    (boots : Boots cloud ⟨"dedicated".toList, some "isolate".toList,
      cloud.dedicatedCpusPerNuma - 1, none⟩ server guest)
    {dedicated : Finset Int}
    (hosts : getHostCpuDedicatedSet cloud.nodes server.host = .ok dedicated) :
    cloud.testPolicyIsolate = .ok () ↔
      2 ≤ cloud.dedicatedCpusPerNuma ∧
      guest.vcpus.united ⊆ dedicated ∧
      CpuMask.unite guest.emulator ⊆ dedicated ∧
      Disjoint guest.vcpus.united (CpuMask.unite guest.emulator) ∧
      (cloud.iothreads = true → guest.iothreads = 1 ∧
        ∃ cpus, guest.FirstIothreadOn cpus ∧ cpus ⊆ dedicated ∧
          Disjoint guest.vcpus.united cpus) := by
  simp only [TuningCloud.testPolicyIsolate, bind_eq_ok_iff,
    mapError_eq_ok_iff, require_eq_ok_iff, exists_const, boots.created, hosts,
    boots.shown, getServerEmulatorThreads_xml, getPinningAsSet_xml,
    Except.ok.injEq, exists_eq_left', Nat.not_lt,
    isolatedIothread_eq_ok_iff boots.shown, dedicatedIothread_eq_ok_iff]
  cases cloud.iothreads with
  | false =>
      simp only [Bool.false_eq_true, if_false, exists_eq_left', reduceCtorEq,
        false_implies, implies_true, and_true]
      tauto
  | true =>
      simp only [if_true, true_implies]
      constructor
      · intro passes
        obtain ⟨enough, inside, apart, _, ⟨one, cpus, pinned, apartIo, rfl⟩,
          emulator, iothread⟩ := passes
        exact ⟨enough, inside, emulator, apart, one, cpus, pinned,
          iothread cpus rfl, apartIo⟩
      · intro conditions
        obtain ⟨enough, inside, emulator, apart, one, cpus, pinned, insideIo,
          apartIo⟩ := conditions
        refine ⟨enough, inside, apart, some cpus,
          ⟨one, cpus, pinned, apartIo, rfl⟩, emulator, ?_⟩
        intro others same
        cases same
        exact insideIo

/-- A guest with one virtual CPU on the first CPU and its other threads on the
second. -/
def oneCpuGuest (vcpu others : Nat) : Guest where
  vcpus := ⟨[(0, .single vcpu)], List.nodup_singleton 0⟩
  emulator := [.single others]
  iothreads := 1
  iothreadPins := ⟨[(1, .single others)], List.nodup_singleton 1⟩
  cells := ⟨[], List.nodup_nil⟩
  floating := none

/-- A host with four dedicated CPUs, on which the first of two servers gets one
guest and the second, by its hint, another one. -/
def oneHostCloud (first second : Guest) : TuningCloud where
  iothreads := true
  sharedCpusPerNuma := 0
  dedicatedCpusPerNuma := 2
  nodes := [("compute".toList, [(cpuDedicatedField, .text "2-5".toList)])]
  createTestServer request :=
    match request.sameHost with
    | none => .ok ⟨"a".toList, "compute".toList, first.xml⟩
    | some _ => .ok ⟨"b".toList, "compute".toList, second.xml⟩

theorem testPolicyIsolate_passes_oneCpu :
    (oneHostCloud (oneCpuGuest 2 3) (oneCpuGuest 4 5)).testPolicyIsolate =
      .ok () := by
  have hosts : getHostCpuDedicatedSet
      (oneHostCloud (oneCpuGuest 2 3) (oneCpuGuest 4 5)).nodes
        "compute".toList = .ok {2, 3, 4, 5} := by decide
  refine (testPolicyIsolate_passes_iff ⟨rfl, rfl⟩ hosts).mpr ?_
  refine ⟨by decide, by decide, by decide, by decide, fun _ => ?_⟩
  exact ⟨rfl, {3}, ⟨_, List.mem_cons_self, by decide⟩, by decide, by decide⟩

/-- Two servers that share the CPUs of their virtual CPUs with their own other
threads pass exactly if this is so and they share none with each other. -/
theorem testPolicyShareCpuSharedUnset_eq_ok_iff
    (bootsA : Boots cloud ⟨"dedicated".toList, some "share".toList,
      cloud.dedicatedCpusPerNuma / 2, none⟩ serverA guestA)
    (bootsB : Boots cloud ⟨"dedicated".toList, some "share".toList,
      cloud.dedicatedCpusPerNuma / 2, some serverA.id⟩ serverB guestB) :
    cloud.testPolicyShareCpuSharedUnset = .ok () ↔
      2 ≤ cloud.dedicatedCpusPerNuma ∧
      (∀ guest ∈ [guestA, guestB],
        CpuMask.unite guest.emulator = guest.vcpus.united ∧
        (cloud.iothreads = true →
          guest.OneIothreadOn (some guest.vcpus.united))) ∧
      Disjoint guestA.vcpus.united guestB.vcpus.united := by
  simp only [TuningCloud.testPolicyShareCpuSharedUnset, bind_eq_ok_iff,
    mapError_eq_ok_iff, require_eq_ok_iff, exists_const, bootsA.created,
    bootsB.created, bootsA.shown, bootsB.shown, getServerEmulatorThreads_xml,
    getPinningAsSet_xml, Except.ok.injEq, exists_eq_left', Nat.not_lt,
    assertIothreadPins_eq_ok_iff bootsA.shown,
    assertIothreadPins_eq_ok_iff bootsB.shown, List.forall_mem_cons,
    List.not_mem_nil, false_implies, implies_true, and_true]
  tauto

/-- Two servers with the policy `dedicated` pass exactly if there are enough
dedicated CPUs for the test, every virtual CPU that is pinned at all is pinned
to one dedicated CPU, no CPU belongs to both servers, and the I/O thread of
each is pinned to the CPUs of the server. -/
theorem testCpuDedicated_passes_iff
    (bootsA : Boots cloud ⟨"dedicated".toList, none,
      cloud.dedicatedCpusPerNuma / 2, none⟩ serverA guestA)
    (bootsB : Boots cloud ⟨"dedicated".toList, none,
      cloud.dedicatedCpusPerNuma / 2, some serverA.id⟩ serverB guestB)
    {dedicated : Finset Int}
    (hosts : getHostCpuDedicatedSet cloud.nodes serverA.host = .ok dedicated) :
    cloud.testCpuDedicated = .ok () ↔
      2 ≤ cloud.dedicatedCpusPerNuma ∧
      (∀ guest ∈ [guestA, guestB],
        guest.SingleCpus ∧ guest.vcpus.united ⊆ dedicated ∧
        (cloud.iothreads = true →
          guest.OneIothreadOn (some guest.vcpus.united))) ∧
      Disjoint guestA.vcpus.united guestB.vcpus.united := by
  simp only [TuningCloud.testCpuDedicated, bind_eq_ok_iff,
    mapError_eq_ok_iff, require_eq_ok_iff, exists_const, bootsA.created,
    bootsB.created, bootsA.shown, bootsB.shown, hosts,
    getServerCpuPinning_xml_iff, Except.ok.injEq, exists_eq_left',
    assertIothreadPins_eq_ok_iff bootsA.shown,
    assertIothreadPins_eq_ok_iff bootsB.shown, List.forall_mem_cons,
    List.not_mem_nil, false_implies, implies_true, and_true,
    ← Guest.exists_pinnings_iff]
  apply and_congr_right
  intro _
  constructor
  · intro passes
    obtain ⟨pinningsA, pinsA, pinningsB, pinsB, checks⟩ := passes
    rw [Guest.pinnedCpus_eq_united pinsA, Guest.pinnedCpus_eq_united pinsB]
      at checks
    obtain ⟨insideA, insideB, apart, iothreadA, iothreadB⟩ := checks
    exact ⟨⟨⟨⟨pinningsA, pinsA⟩, insideA, iothreadA⟩,
      ⟨pinningsB, pinsB⟩, insideB, iothreadB⟩, apart⟩
  · intro conditions
    obtain ⟨⟨⟨⟨pinningsA, pinsA⟩, insideA, iothreadA⟩,
      ⟨pinningsB, pinsB⟩, insideB, iothreadB⟩, apart⟩ := conditions
    refine ⟨pinningsA, pinsA, pinningsB, pinsB, ?_⟩
    rw [Guest.pinnedCpus_eq_united pinsA, Guest.pinnedCpus_eq_united pinsB]
    exact ⟨insideA, insideB, apart, iothreadA, iothreadB⟩

theorem testCpuDedicated_passes_oneCpu :
    (oneHostCloud (oneCpuGuest 2 2) (oneCpuGuest 3 3)).testCpuDedicated =
      .ok () := by
  have hosts : getHostCpuDedicatedSet
      (oneHostCloud (oneCpuGuest 2 2) (oneCpuGuest 3 3)).nodes
        "compute".toList = .ok {2, 3, 4, 5} := by decide
  have own : ∀ cpu, (oneCpuGuest cpu cpu).SingleCpus := by
    intro cpu entry member
    rw [List.mem_singleton.mp member]
    exact ⟨cpu, rfl⟩
  refine (testCpuDedicated_passes_iff ⟨rfl, rfl⟩ ⟨rfl, rfl⟩ hosts).mpr
    ⟨by decide, ?_, by decide⟩
  rw [List.forall_mem_cons, List.forall_mem_singleton]
  exact ⟨⟨own 2, by decide,
      fun _ => ⟨rfl, _, List.mem_cons_self, by decide⟩⟩,
    own 3, by decide, fun _ => ⟨rfl, _, List.mem_cons_self, by decide⟩⟩

end Verdicts

end Whitebox.Compute
