import Mathlib.Data.Finset.Image
import Whitebox.Compute.EmulatorThreads
import Whitebox.Compute.LiveMigration
import Whitebox.Compute.NumaTopology

/-!
# Live migration of pinned servers

The migration tests look at the same servers twice: on the hosts where they
were created, and after a live migration has brought them together.  What a
server is pinned to is read from its domain and from the database, which agree
on a server that is well recorded.  The verdicts are stated over such servers.
-/

namespace Whitebox.Compute

open Whitebox.Python
open Whitebox.Hardware
open Whitebox.Services
open Whitebox.Services.CommandLine (getCpuSharedSet getCpuDedicatedSet)
open Whitebox.Utils
open Whitebox.Effect.Fallible

inductive MigrationMoment where
  | before
  | after
deriving DecidableEq

/-- A server at one moment, with its row in the database. -/
structure PlacedServer extends TunedServer where
  numaTopology : Option (Option JsonObject)

/-- The message of an assertion about migrated servers. -/
inductive NumaMessage where
  /-- `assertTrue` without a message. -/
  | notTrue
  /-- A format with two sets of CPUs. -/
  | sets (format : Str) (first second : Finset Int)
  /-- `'Expected servers to have disjoint CPU pins in the database, instead have
  %s and %s'`. -/
  | databasePins (first second : Finset Scalar)
  | liveMigration (message : LiveMigrationMessage)
  /-- `"Instance %s should have 1 iothread but it has %d"`. -/
  | iothreads (serverId : Str) (count : Int)
deriving DecidableEq

inductive NumaExn where
  | conf (error : Exn ⊕ SpecError)
  | spec (error : SpecError)
  | topology (error : TopologyExn)
  | tuning (error : TuningExn)
  | migration (message : Str)
  | skipException (message : Str)
  | failureException (message : NumaMessage)
deriving DecidableEq

/-- CPUs as members of a set of JSON values. -/
def scalars (cpus : Finset Int) : Finset Scalar :=
  cpus.image fun cpu : Int => .number (cpu : Rat)

/-- `_get_pcpus_from_cpu_pins(_get_cpu_pins_from_db_topology(
self._get_db_numa_topology(server['id'])))`. -/
def readPcpus (server : PlacedServer) : Except NumaExn (Finset Scalar) := do
  let dbTopo ← (getDbNumaTopology server.numaTopology).mapError .topology
  (pcpusOf dbTopo).mapError .topology

/-- The look at the I/O thread of one migrated server. -/
def migratedIothread (server : PlacedServer) :
    Except NumaExn (Finset Int) := do
  let (nr, iopins) ← (getServerIothreads server.root).mapError .spec
  require (1 = nr) (.failureException (.iothreads server.id nr))
  (firstIothread iopins).mapError .tuning

structure NumaMigrationRun where
  iothreads : Bool
  dedicatedCpusPerNuma : Nat
  getConfOpt : Str → Key → Except Exn (Option Str)
  serverA : MigrationMoment → PlacedServer
  serverB : MigrationMoment → PlacedServer
  /-- The request for the migration and the wait for its end. -/
  migrated : Except NumaExn Unit

namespace NumaMigrationRun

variable (run : NumaMigrationRun)

/-- One turn of the loop over both servers. -/
def checkServer (server : PlacedServer) : Except NumaExn Unit := do
  let cpuDedicatedSet ←
    (getCpuDedicatedSet int (run.getConfOpt server.host)).mapError .conf
  let cpuSharedSet ←
    (getCpuSharedSet int (run.getConfOpt server.host)).mapError .conf
  let pcpus ← readPcpus server
  require (pcpus ⊆ scalars cpuDedicatedSet) (.failureException .notTrue)
  let emulatorThreads ←
    (getServerEmulatorThreads int server.root.cputune).mapError .spec
  require (cpuSharedSet = emulatorThreads) (.failureException (.sets
    "Emulator threads for server %s is not the same as CPU set %s".toList
    emulatorThreads cpuSharedSet))
  (assertIothreadPins run.iothreads server.toTunedServer
    (some cpuSharedSet)).mapError .tuning
  let guestPinSet ← (getPinningAsSet int server.root.cputune).mapError .spec
  require (guestPinSet ⊆ cpuDedicatedSet) (.failureException (.sets
    ("Server %s's cpu dedicated set is not a subset of the compute " ++
      "host's cpu dedicated set %s").toList guestPinSet cpuDedicatedSet))

def checkMigratedIothreads : Except NumaExn Unit :=
  if run.iothreads then do
    let iopinsA ← migratedIothread (run.serverA .after)
    let iopinsB ← migratedIothread (run.serverB .after)
    require (iopinsA ≠ ∅ ∧ iopinsB ≠ ∅) (.failureException (.sets
      "IO threads should be pinned, are unpinned: %s, %s".toList
      iopinsA iopinsB))
    require (iopinsA = iopinsB) (.failureException (.sets
      ("After live migration IO threads for both servers should be the " ++
        "same").toList iopinsA iopinsB))
  else pure ()

/-- The checks after the migration. -/
def checkMigrated : Except NumaExn Unit := do
  let pinA ←
    (getPinningAsSet int (run.serverA .after).root.cputune).mapError .spec
  let pinB ←
    (getPinningAsSet int (run.serverB .after).root.cputune).mapError .spec
  require (pinA ≠ ∅ ∧ pinB ≠ ∅) (.failureException (.sets
    "Pinned servers are actually unpinned: %s, %s".toList pinA pinB))
  require (Disjoint pinA pinB) (.failureException (.sets
    "Pins overlap: %s, %s".toList pinA pinB))
  let pcpusA ← readPcpus (run.serverA .after)
  let pcpusB ← readPcpus (run.serverB .after)
  require (pcpusA ≠ ∅ ∧ pcpusB ≠ ∅) (.failureException .notTrue)
  require (Disjoint pcpusA pcpusB) (.failureException
    (.databasePins pcpusA pcpusB))
  let threadsA ← (getServerEmulatorThreads int
    (run.serverA .after).root.cputune).mapError .spec
  let threadsB ← (getServerEmulatorThreads int
    (run.serverB .after).root.cputune).mapError .spec
  require (threadsA ≠ ∅ ∧ threadsB ≠ ∅) (.failureException (.sets
    "Emulator threads should be pinned, are unpinned: %s, %s".toList
    threadsA threadsB))
  require (threadsA = threadsB) (.failureException (.sets
    ("After live migration emulator threads for both servers should be " ++
      "the same").toList threadsA threadsB))
  run.checkMigratedIothreads

/-- The second server is to join the first one. -/
def liveMigrate : Except NumaExn Unit :=
  LiveMigration.run ⟨.ok (run.serverB .before).host, run.migrated,
      .ok (run.serverB .after).host⟩
    (Except.mapError fun message => .failureException (.liveMigration message))
    (run.serverB .before).id (some (run.serverA .before).host)

def testCpuPinningAndEmulatorThreads : Except NumaExn Unit := do
  require (¬ run.dedicatedCpusPerNuma < 2) (.skipException
    ("Need at least 2 or more pCPUs per NUMA allocated to the " ++
      "cpu_dedicated_set of the compute host").toList)
  -- The number of shared CPUs is taken from the option for dedicated ones.
  let sharedCpusPerNuma := run.dedicatedCpusPerNuma
  require (sharedCpusPerNuma ≠ 0) (.skipException
    ("Need at least 1 or more pCPUs per NUMA allocated to the " ++
      "cpu_shared_set of the compute host").toList)
  run.checkServer (run.serverA .before)
  run.checkServer (run.serverB .before)
  run.liveMigrate
  run.checkMigrated

end NumaMigrationRun

/-- The domain of the server is that of the guest, and the database has the
same host CPUs for it. -/
structure Recorded (server : PlacedServer) (guest : Guest) : Prop where
  shown : server.root = guest.xml
  stored : ∃ json result, server.numaTopology = some (some json) ∧
    normalizeJson json = some result ∧
      pcpusOf (.object json.members) = .ok (scalars guest.vcpus.united)

section Scalars

theorem number_injective :
    Function.Injective fun cpu : Int => Scalar.number (cpu : Rat) := by
  intro first second same
  injection same with equal
  exact Rat.intCast_inj.mp equal

theorem scalars_subset_iff {first second : Finset Int} :
    scalars first ⊆ scalars second ↔ first ⊆ second :=
  Finset.image_subset_image_iff number_injective

theorem disjoint_scalars_iff {first second : Finset Int} :
    Disjoint (scalars first) (scalars second) ↔ Disjoint first second :=
  Finset.disjoint_image number_injective

theorem scalars_eq_empty_iff {cpus : Finset Int} :
    scalars cpus = ∅ ↔ cpus = ∅ :=
  Finset.image_eq_empty

theorem readPcpus_of_recorded {server : PlacedServer} {guest : Guest}
    (recorded : Recorded server guest) :
    readPcpus server = .ok (scalars guest.vcpus.united) := by
  obtain ⟨json, result, row, normalized, stored⟩ := recorded.stored
  rw [← pcpusOf_normalizeJson normalized] at stored
  have read : getDbNumaTopology server.numaTopology = .ok result := by
    rw [row, getDbNumaTopology, normalized]
  simp only [readPcpus, bind_eq_ok_iff, mapError_eq_ok_iff, read,
    Except.ok.injEq, exists_eq_left', stored]

end Scalars

/-- The guest has dedicated CPUs for its virtual CPUs and the shared ones for
its other threads. -/
structure PlacedOn (guest : Guest) (iothreads : Bool)
    (dedicated shared : Finset Int) : Prop where
  pinned : guest.vcpus.united ⊆ dedicated
  emulator : shared = CpuMask.unite guest.emulator
  iothread : iothreads = true → guest.OneIothreadOn (some shared)

/-- Both guests are pinned, they have no CPU of their virtual CPUs in common,
and their other threads have the same CPUs. -/
structure Collocated (guestA guestB : Guest) (iothreads : Bool) : Prop where
  pinnedA : guestA.vcpus.united ≠ ∅
  pinnedB : guestB.vcpus.united ≠ ∅
  apart : Disjoint guestA.vcpus.united guestB.vcpus.united
  emulator : CpuMask.unite guestA.emulator ≠ ∅
  same : CpuMask.unite guestA.emulator = CpuMask.unite guestB.emulator
  iothread : iothreads = true → guestA.iothreads = 1 ∧ guestB.iothreads = 1 ∧
    ∃ cpus, cpus ≠ ∅ ∧ guestA.FirstIothreadOn cpus ∧
      guestB.FirstIothreadOn cpus

section Verdict

variable {run : NumaMigrationRun} {server : PlacedServer}
  {guest guestA guestB : Guest} {dedicated shared : Finset Int}

theorem checkServer_eq_ok_iff (recorded : Recorded server guest)
    (hasDedicated : getCpuDedicatedSet int (run.getConfOpt server.host) =
      .ok dedicated)
    (hasShared : getCpuSharedSet int (run.getConfOpt server.host) =
      .ok shared) {value : Unit} :
    run.checkServer server = .ok value ↔
      PlacedOn guest run.iothreads dedicated shared := by
  simp only [NumaMigrationRun.checkServer, bind_eq_ok_iff, mapError_eq_ok_iff,
    require_eq_ok_iff, exists_const, hasDedicated, hasShared,
    readPcpus_of_recorded recorded, recorded.shown, scalars_subset_iff,
    getServerEmulatorThreads_xml, getPinningAsSet_xml, Except.ok.injEq,
    exists_eq_left', assertIothreadPins_eq_ok_iff recorded.shown]
  constructor
  · intro checks
    obtain ⟨pinned, emulator, iothread, _⟩ := checks
    exact ⟨pinned, emulator, iothread⟩
  · intro placed
    exact ⟨placed.pinned, placed.emulator, placed.iothread, placed.pinned⟩

theorem migratedIothread_eq_ok_iff (recorded : Recorded server guest)
    {cpus : Finset Int} :
    migratedIothread server = .ok cpus ↔
      guest.iothreads = 1 ∧ guest.FirstIothreadOn cpus := by
  simp only [migratedIothread, bind_eq_ok_iff, mapError_eq_ok_iff,
    require_eq_ok_iff, exists_const, recorded.shown, getServerIothreads_xml,
    Except.ok.injEq, exists_eq_left', firstIothread_eq_ok_iff]
  exact and_congr_left' (by omega)

theorem checkMigratedIothreads_eq_ok_iff
    (recordedA : Recorded (run.serverA .after) guestA)
    (recordedB : Recorded (run.serverB .after) guestB) {value : Unit} :
    run.checkMigratedIothreads = .ok value ↔
      (run.iothreads = true → guestA.iothreads = 1 ∧ guestB.iothreads = 1 ∧
        ∃ cpus, cpus ≠ ∅ ∧ guestA.FirstIothreadOn cpus ∧
          guestB.FirstIothreadOn cpus) := by
  rw [NumaMigrationRun.checkMigratedIothreads]
  split
  · next enabled =>
      simp only [bind_eq_ok_iff, require_eq_ok_iff, exists_const,
        migratedIothread_eq_ok_iff recordedA,
        migratedIothread_eq_ok_iff recordedB, enabled, true_implies]
      constructor
      · intro checks
        obtain ⟨cpus, ⟨oneA, onA⟩, others, ⟨oneB, onB⟩, pinned, rfl⟩ := checks
        exact ⟨oneA, oneB, cpus, pinned.1, onA, onB⟩
      · intro conditions
        obtain ⟨oneA, oneB, cpus, pinned, onA, onB⟩ := conditions
        exact ⟨cpus, ⟨oneA, onA⟩, cpus, ⟨oneB, onB⟩, ⟨pinned, pinned⟩, rfl⟩
  · next disabled => simp [disabled, pure_eq_ok_iff]

theorem checkMigrated_eq_ok_iff
    (recordedA : Recorded (run.serverA .after) guestA)
    (recordedB : Recorded (run.serverB .after) guestB) {value : Unit} :
    run.checkMigrated = .ok value ↔
      Collocated guestA guestB run.iothreads := by
  simp only [NumaMigrationRun.checkMigrated, bind_eq_ok_iff,
    mapError_eq_ok_iff, require_eq_ok_iff, exists_const,
    readPcpus_of_recorded recordedA, readPcpus_of_recorded recordedB,
    recordedA.shown, recordedB.shown, disjoint_scalars_iff, ne_eq,
    scalars_eq_empty_iff, getServerEmulatorThreads_xml, getPinningAsSet_xml,
    Except.ok.injEq, exists_eq_left',
    checkMigratedIothreads_eq_ok_iff recordedA recordedB]
  constructor
  · intro checks
    obtain ⟨⟨pinnedA, pinnedB⟩, apart, _, _, emulator, same, iothread⟩ := checks
    exact ⟨pinnedA, pinnedB, apart, emulator.1, same, iothread⟩
  · intro collocated
    have both := And.intro collocated.pinnedA collocated.pinnedB
    refine ⟨both, collocated.apart, both, collocated.apart,
      ⟨collocated.emulator, ?_⟩, collocated.same, collocated.iothread⟩
    rw [← collocated.same]
    exact collocated.emulator

/-- For servers that are well recorded, the migration test passes exactly if
both were placed right on their hosts before, the second one has moved to the
host of the first one, and they get along there. -/
theorem testCpuPinningAndEmulatorThreads_passes_iff
    {placedA placedB : Guest} {dedicatedA sharedA dedicatedB sharedB :
      Finset Int}
    (beforeA : Recorded (run.serverA .before) placedA)
    (beforeB : Recorded (run.serverB .before) placedB)
    (hasDedicatedA : getCpuDedicatedSet int
      (run.getConfOpt (run.serverA .before).host) = .ok dedicatedA)
    (hasSharedA : getCpuSharedSet int
      (run.getConfOpt (run.serverA .before).host) = .ok sharedA)
    (hasDedicatedB : getCpuDedicatedSet int
      (run.getConfOpt (run.serverB .before).host) = .ok dedicatedB)
    (hasSharedB : getCpuSharedSet int
      (run.getConfOpt (run.serverB .before).host) = .ok sharedB)
    (migrated : run.migrated = .ok ())
    (afterA : Recorded (run.serverA .after) guestA)
    (afterB : Recorded (run.serverB .after) guestB) :
    run.testCpuPinningAndEmulatorThreads = .ok () ↔
      2 ≤ run.dedicatedCpusPerNuma ∧
      PlacedOn placedA run.iothreads dedicatedA sharedA ∧
      PlacedOn placedB run.iothreads dedicatedB sharedB ∧
      Moves (run.serverB .before).host (some (run.serverA .before).host)
        (run.serverB .after).host ∧
      Collocated guestA guestB run.iothreads := by
  simp only [NumaMigrationRun.testCpuPinningAndEmulatorThreads,
    bind_eq_ok_iff, require_eq_ok_iff, exists_const,
    checkServer_eq_ok_iff beforeA hasDedicatedA hasSharedA,
    checkServer_eq_ok_iff beforeB hasDedicatedB hasSharedB,
    NumaMigrationRun.liveMigrate, LiveMigration.run_eq_ok_iff, migrated,
    checkMigrated_eq_ok_iff afterA afterB, Nat.not_lt, true_and]
  constructor
  · intro passes
    obtain ⟨enough, _, placed, placedToo, target, collocated⟩ := passes
    exact ⟨enough, placed, placedToo, target, collocated⟩
  · intro conditions
    obtain ⟨enough, placed, placedToo, target, collocated⟩ := conditions
    exact ⟨enough, by omega, placed, placedToo, target, collocated⟩

/-- A server on the host with the guest's domain and one cell for it. -/
def oneCpuServer (id host : Str) (vcpu : Nat) : PlacedServer where
  id := id
  host := host
  root := (oneCpuGuest vcpu 0).xml
  numaTopology := some (some (cellsTopology [vcpu]))

/-- CPU 0 is shared and two more are dedicated. -/
def threeCpuConf (key : Key) : Except Exn (Option Str) :=
  if key = CommandLine.cpuDedicatedSet then .ok (some "2-3".toList)
  else if key = ServiceManager.cpuSharedSet then .ok (some "0".toList)
  else .ok none

/-- Two servers on the same CPU of two equal hosts.  The second one moves to
the host of the first one and to another CPU. -/
def oneCpuMigration : NumaMigrationRun where
  iothreads := true
  dedicatedCpusPerNuma := 2
  getConfOpt _ := threeCpuConf
  serverA _ := oneCpuServer "a".toList "first".toList 2
  serverB
    | .before => oneCpuServer "b".toList "second".toList 2
    | .after => oneCpuServer "b".toList "first".toList 3
  migrated := .ok ()

theorem recorded_oneCpuServer_two (id host : Str) :
    Recorded (oneCpuServer id host 2) (oneCpuGuest 2 0) :=
  ⟨rfl, cellsTopology [2], _, rfl, rfl, by decide⟩

theorem testCpuPinningAndEmulatorThreads_passes_oneCpu :
    oneCpuMigration.testCpuPinningAndEmulatorThreads = .ok () := by
  have dedicated : getCpuDedicatedSet int threeCpuConf = .ok {2, 3} := by
    decide
  have shared : getCpuSharedSet int threeCpuConf = .ok {0} := by decide
  have placed : PlacedOn (oneCpuGuest 2 0) true {2, 3} {0} :=
    ⟨by decide, by decide, fun _ => ⟨rfl, _, List.mem_cons_self, by decide⟩⟩
  have moved : Recorded (oneCpuMigration.serverB .after) (oneCpuGuest 3 0) :=
    ⟨rfl, cellsTopology [3], _, rfl, rfl, by decide⟩
  refine (testCpuPinningAndEmulatorThreads_passes_iff
    (recorded_oneCpuServer_two _ _) (recorded_oneCpuServer_two _ _)
    dedicated shared dedicated shared rfl
    (recorded_oneCpuServer_two _ _) moved).mpr ?_
  refine ⟨by decide, placed, placed, rfl, by decide, by decide, by decide,
    by decide, by decide, fun _ => ⟨rfl, rfl, {0}, by decide, ?_, ?_⟩⟩
  · exact ⟨_, List.mem_cons_self, by decide⟩
  · exact ⟨_, List.mem_cons_self, by decide⟩

end Verdict

end Whitebox.Compute
