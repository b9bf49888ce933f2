import Mathlib.Data.Finset.Card
import Whitebox.Compute.CpuMask
import Whitebox.Services.SysFSClient

/-!
# CPU state management

`test_cpu_state` looks at the offline CPUs of a host before a server with a
dedicated CPU is created, while it runs and after it is deleted.  CPU 0 cannot
be taken offline, so the test leaves it out of the dedicated CPUs.

On a host where Nova keeps exactly the unused dedicated CPUs offline, the test
passes if no other server uses a dedicated CPU and the server gets one that can
be taken offline.  A server that is pinned to CPU 0 makes it fail.
-/

namespace Whitebox.Compute

open Whitebox.Python
open Whitebox.Hardware
open Whitebox.Services
open Whitebox.Services.CommandLine (getCpuSharedSet getCpuDedicatedSet)
open Whitebox.Effect.Fallible

/-- The moments at which the test reads the files of the kernel. -/
inductive CpuStateMoment where
  | before
  | running
  | deleted
deriving DecidableEq

inductive CpuStateExn where
  | conf (error : Exn ⊕ SpecError)
  | sysfs (error : SysfsExn)
  | spec (error : SpecError)
  | server (message : Str)
  | skipException (message : Str)
  /-- `assertTrue` without a message. -/
  | notTrue
  /-- `assertEqual` without a message. -/
  | notEqual (first second : Finset Int)
  /-- `assertLess` without a message. -/
  | notLess (first second : Finset Int)
deriving DecidableEq

/-- What the test finds on its host. -/
structure CpuStateRun where
  order : SetOrder
  getConfOpt : Key → Except Exn (Option Str)
  files : CpuStateMoment → Str → TextFile
  createTestServer : Except CpuStateExn Unit
  deleteServer : Except CpuStateExn Unit

namespace CpuStateRun

variable (run : CpuStateRun)

/-- `hardware.parse_cpu_spec(sysfsclient.get_sysfs_value(path))`. -/
def readCpus (moment : CpuStateMoment) (path : Str) :
    Except CpuStateExn (Finset Int) := do
  let value ← (getSysfsValue run.order (grep (run.files moment)) path).mapError
    .sysfs
  (parseCpuSpec int value).mapError .spec

def testCpuState : Except CpuStateExn Unit := do
  let dedicatedCpus ← (getCpuDedicatedSet int run.getConfOpt).mapError .conf
  let sharedCpus ← (getCpuSharedSet int run.getConfOpt).mapError .conf
  let dedicatedCpus := dedicatedCpus.erase 0
  require (¬ dedicatedCpus.card < 2)
    (.skipException "Multiple dedicated CPUs required".toList)
  let online ← run.readCpus .before onlineCpus
  require (sharedCpus ⊆ online) .notTrue
  let offlineBefore ← run.readCpus .before offlineCpus
  require (dedicatedCpus = offlineBefore)
    (.notEqual dedicatedCpus offlineBefore)
  run.createTestServer
  let offlineAfter ← run.readCpus .running offlineCpus
  require (offlineAfter ⊂ offlineBefore) (.notLess offlineAfter offlineBefore)
  run.deleteServer
  let offlineFinal ← run.readCpus .deleted offlineCpus
  require (offlineBefore = offlineFinal)
    (.notEqual offlineBefore offlineFinal)

end CpuStateRun

/-- The file has one line, which shows the CPUs. -/
def ShowsCpus (file : TextFile) (cpus : Finset Int) : Prop :=
  ∃ mask : CpuMask, mask.cpuSet = cpus ∧ file.lines = [mask.text]

/-- A host whose CPU state Nova manages. -/
structure PowerManagedHost where
  present : Finset Int
  dedicated : Finset Int
  shared : Finset Int
  sharedPresent : shared ⊆ present
  apart : Disjoint shared dedicated

namespace PowerManagedHost

variable (host : PowerManagedHost)

/-- Nova takes the unused dedicated CPUs offline, except for CPU 0. -/
def offline (used : Finset Int) : Finset Int :=
  host.dedicated.erase 0 \ used

def online (used : Finset Int) : Finset Int :=
  host.present \ host.offline used

/-- The test runs on the host while other servers use some dedicated CPUs, and
its own server is pinned to others. -/
structure ShownBy (others pins : Finset Int) (run : CpuStateRun) : Prop where
  dedicated : getCpuDedicatedSet int run.getConfOpt = .ok host.dedicated
  shared : getCpuSharedSet int run.getConfOpt = .ok host.shared
  othersDedicated : others ⊆ host.dedicated
  pinsDedicated : pins ⊆ host.dedicated
  onlineBefore : ShowsCpus (run.files .before (sysPath onlineCpus))
    (host.online others)
  offlineBefore : ShowsCpus (run.files .before (sysPath offlineCpus))
    (host.offline others)
  created : run.createTestServer = .ok ()
  offlineRunning : ShowsCpus (run.files .running (sysPath offlineCpus))
    (host.offline (others ∪ pins))
  deleted : run.deleteServer = .ok ()
  offlineDeleted : ShowsCpus (run.files .deleted (sysPath offlineCpus))
    (host.offline others)

end PowerManagedHost

section Verdict

theorem requested_singleton {paths : List Str} (requested : Requested paths)
    {path : Str} (member : path ∈ paths) : Requested [path] where
  nonempty := List.cons_ne_nil _ _
  relative := List.forall_mem_singleton.mpr (requested.relative path member)
  solid := List.forall_mem_singleton.mpr (requested.solid path member)

/-- What the kernel shows is what the test reads. -/
theorem readCpus_of_shows {run : CpuStateRun} {moment : CpuStateMoment}
    {path : Str} {cpus : Finset Int} (requested : Requested [path])
    (noColon : ':' ∉ path)
    (shows : ShowsCpus (run.files moment (sysPath path)) cpus) :
    run.readCpus moment path = .ok cpus := by
  obtain ⟨mask, rfl, lines⟩ := shows
  have value : getSysfsValue run.order (grep (run.files moment)) path =
      .ok mask.text := by
    rw [← mask.strip_text]
    apply getSysfsValue_eq run.order requested noColon
    rw [lines]
    rfl
  rw [CpuStateRun.readCpus, value]
  change (parseCpuSpec int mask.text).mapError _ = _
  rw [mask.parseCpuSpec_text]
  rfl

/-- The verdict on a run without exceptions, by the sets of CPUs that it
reads. -/
theorem testCpuState_eq_ok_iff {run : CpuStateRun}
    {dedicated shared online offlineBefore offlineAfter offlineFinal :
      Finset Int}
    (readsDedicated : getCpuDedicatedSet int run.getConfOpt = .ok dedicated)
    (readsShared : getCpuSharedSet int run.getConfOpt = .ok shared)
    (readsOnline : run.readCpus .before onlineCpus = .ok online)
    (readsBefore : run.readCpus .before offlineCpus = .ok offlineBefore)
    (created : run.createTestServer = .ok ())
    (readsAfter : run.readCpus .running offlineCpus = .ok offlineAfter)
    (deleted : run.deleteServer = .ok ())
    (readsFinal : run.readCpus .deleted offlineCpus = .ok offlineFinal) :
    run.testCpuState = .ok () ↔
      2 ≤ (dedicated.erase 0).card ∧ shared ⊆ online ∧
        dedicated.erase 0 = offlineBefore ∧ offlineAfter ⊂ offlineBefore ∧
          offlineBefore = offlineFinal := by
  simp only [CpuStateRun.testCpuState, bind_eq_ok_iff, mapError_eq_ok_iff,
    readsDedicated, readsShared, readsOnline, readsBefore, created,
    readsAfter, deleted, readsFinal, Except.ok.injEq, exists_eq_left',
    require_eq_ok_iff, Nat.not_lt, exists_const, true_and]

variable {host : PowerManagedHost} {others pins : Finset Int}

theorem shared_subset_online (used : Finset Int) :
    host.shared ⊆ host.online used := by
  intro cpu member
  refine Finset.mem_sdiff.mpr ⟨host.sharedPresent member, ?_⟩
  intro offline
  have dedicated : cpu ∈ host.dedicated :=
    Finset.mem_of_mem_erase (Finset.mem_sdiff.mp offline).1
  exact Finset.disjoint_left.mp host.apart member dedicated

/-- All dedicated CPUs that can be are offline exactly if no server uses
them. -/
theorem erase_eq_offline_iff (inside : others ⊆ host.dedicated) :
    host.dedicated.erase 0 = host.offline others ↔ others ⊆ {0} := by
  rw [PowerManagedHost.offline, eq_comm, Finset.sdiff_eq_self_iff_disjoint]
  constructor
  · intro apart cpu used
    rw [Finset.mem_singleton]
    by_contra other
    exact Finset.disjoint_left.mp apart
      (Finset.mem_erase.mpr ⟨other, inside used⟩) used
  · intro onlyFirst
    rw [Finset.disjoint_left]
    intro cpu dedicated used
    exact Finset.ne_of_mem_erase dedicated
      (Finset.mem_singleton.mp (onlyFirst used))

/-- A server brings a CPU online exactly if it is pinned to one that was
offline. -/
theorem offline_union_ssubset_iff :
    host.offline (others ∪ pins) ⊂ host.offline others ↔
      ∃ cpu ∈ pins, cpu ∈ host.offline others := by
  have fewer : host.offline (others ∪ pins) = host.offline others \ pins :=
    (sdiff_sdiff_left).symm
  rw [fewer, Finset.ssubset_iff_subset_ne, ne_eq,
    Finset.sdiff_eq_self_iff_disjoint]
  constructor
  · intro smaller
    obtain ⟨cpu, offline, pinned⟩ := Finset.not_disjoint_iff.mp smaller.2
    exact ⟨cpu, pinned, offline⟩
  · intro found
    obtain ⟨cpu, pinned, offline⟩ := found
    exact ⟨Finset.sdiff_subset,
      Finset.not_disjoint_iff.mpr ⟨cpu, offline, pinned⟩⟩

/-- On a host whose CPU state Nova manages, the test passes exactly if there
are two dedicated CPUs besides CPU 0, no other server uses one of them, and its
own server is pinned to another CPU than CPU 0. -/
theorem testCpuState_managed_iff {run : CpuStateRun}
    (shown : host.ShownBy others pins run) :
    run.testCpuState = .ok () ↔
      2 ≤ (host.dedicated.erase 0).card ∧ others ⊆ {0} ∧ ¬ pins ⊆ {0} := by
  have readsOnline := readCpus_of_shows
    (requested_singleton cpuFiles_requested (.head _)) (by decide)
    shown.onlineBefore
  have reads : ∀ {moment : CpuStateMoment} {cpus : Finset Int},
      ShowsCpus (run.files moment (sysPath offlineCpus)) cpus →
        run.readCpus moment offlineCpus = .ok cpus :=
    readCpus_of_shows
      (requested_singleton cpuFiles_requested (.tail _ (.head _))) (by decide)
  rw [testCpuState_eq_ok_iff shown.dedicated shown.shared readsOnline
    (reads shown.offlineBefore) shown.created (reads shown.offlineRunning)
    shown.deleted (reads shown.offlineDeleted),
    erase_eq_offline_iff shown.othersDedicated, offline_union_ssubset_iff]
  constructor
  · intro passes
    obtain ⟨several, _, unused, ⟨cpu, pinned, offline⟩, _⟩ := passes
    refine ⟨several, unused, ?_⟩
    intro onlyFirst
    exact Finset.ne_of_mem_erase (Finset.mem_sdiff.mp offline).1
      (Finset.mem_singleton.mp (onlyFirst pinned))
  · intro conditions
    obtain ⟨several, unused, notOnly⟩ := conditions
    obtain ⟨cpu, pinned, notFirst⟩ := Finset.not_subset.mp notOnly
    have offline : cpu ∈ host.offline others := by
      rw [← (erase_eq_offline_iff shown.othersDedicated).mpr unused]
      exact Finset.mem_erase.mpr ⟨by simpa using notFirst,
        shown.pinsDedicated pinned⟩
    exact ⟨several, shared_subset_online others, unused,
      ⟨cpu, pinned, offline⟩, rfl⟩

/-- CPU 0 and two more are dedicated. -/
def threeDedicatedCpus : PowerManagedHost where
  present := {0, 1, 2, 3}
  dedicated := {0, 2, 3}
  shared := {1}
  sharedPresent := by decide
  apart := by decide

/-- The files of the kernel while the given CPUs are online or offline. -/
def kernelFiles (online offline : CpuMask) (onlineLine : '\n' ∉ online.text)
    (offlineLine : '\n' ∉ offline.text) (path : Str) : TextFile :=
  if path = sysPath onlineCpus then
    ⟨[online.text], by rwa [List.forall_mem_singleton]⟩
  else ⟨[offline.text], by rwa [List.forall_mem_singleton]⟩

/-- A run on that host, with a server that is pinned to CPU 2. -/
def serverOnSecondCpu : CpuStateRun where
  order := .dedup
  getConfOpt key :=
    if key = CommandLine.cpuDedicatedSet then .ok (some "0,2-3".toList)
    else if key = ServiceManager.cpuSharedSet then .ok (some "1".toList)
    else .ok none
  files
    | .running => kernelFiles ⟨[0, 1, 2], by decide⟩ ⟨[3], by decide⟩
        (by decide) (by decide)
    | _ => kernelFiles ⟨[0, 1], by decide⟩ ⟨[2, 3], by decide⟩
        (by decide) (by decide)
  createTestServer := .ok ()
  deleteServer := .ok ()

theorem testCpuState_serverOnSecondCpu :
    serverOnSecondCpu.testCpuState = .ok () := by
  have shown : threeDedicatedCpus.ShownBy ∅ {2} serverOnSecondCpu :=
    { dedicated := by decide
      shared := by decide
      othersDedicated := by decide
      pinsDedicated := by decide
      onlineBefore := ⟨⟨[0, 1], by decide⟩, by decide, rfl⟩
      offlineBefore := ⟨⟨[2, 3], by decide⟩, by decide, rfl⟩
      created := rfl
      offlineRunning := ⟨⟨[3], by decide⟩, by decide, rfl⟩
      deleted := rfl
      offlineDeleted := ⟨⟨[2, 3], by decide⟩, by decide, rfl⟩ }
  exact (testCpuState_managed_iff shown).mpr (by decide)

end Verdict

end Whitebox.Compute
