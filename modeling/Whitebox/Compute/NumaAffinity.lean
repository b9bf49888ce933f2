import Mathlib.Data.Finset.SDiff
import Mathlib.Data.Finset.Sort
import Whitebox.Compute.DomainDevices
import Whitebox.Compute.EmulatorThreads
import Whitebox.Compute.RealtimeCpu

/-!
# NUMA affinity of SR-IOV ports

The affinity tests fill the NUMA node of a network device with one server and
create a second one on the same host.  Whether the second one may be created,
and which CPUs it may have, depends on the affinity policy.  The tests compare
the pins of the servers with the topology that the deployment is configured
with.

The checks never say that the second server has no CPU of the node.  It follows
from the first server having all dedicated CPUs of it.
-/

namespace Whitebox.Compute

open Whitebox.Python
open Whitebox.Services
open Whitebox.Services.CommandLine (getCpuDedicatedSet)
open Whitebox.Hardware
open Whitebox.Effect.Fallible

/-- The message of an assertion about affinity. -/
inductive AffinityMessage where
  /-- `'Expected pCPUs for server A, id: %s to be equal to %s but instead are
  %s'`, and the same without `A, id:`. -/
  | notAffine (format : Str) (serverId : Str) (affine pins : Finset Int)
  /-- `'Expected pCPUs for server B id: %s to be subset of %s but instead are
  %s'`, with a set. -/
  | notDedicated (serverId : Str) (dedicated pins : Finset Int)
  /-- The same message with a list. -/
  | notOnSocket (serverId : Str) (onSocket : List Int) (pins : Finset Int)
  /-- `'Cpus %s for server A %s are not disjointed with Cpus %s of server B
  %s'`. -/
  | overlap (pinsA : Finset Int) (serverA : Str) (pinsB : Finset Int)
      (serverB : Str)
  /-- The message of `assertRaises` for a call that returns. -/
  | notRaised
deriving DecidableEq

inductive AffinityExn where
  | typeError
  | keyError (key : Str)
  | buildErrorException
  | conf (error : Exn ⊕ SpecError)
  | spec (error : SpecError)
  | device (error : DeviceExn)
  | other (message : Str)
  | failureException (message : AffinityMessage)
deriving DecidableEq

/-- The options about the hardware of the compute hosts. -/
structure HardwareConf where
  cpuTopology : List (Str × List Int)
  socketTopology : List (Str × List Int)
  physnetNumaAffinity : Option Int
  socketAffinity : Option Int

/-- `str` of an option that may be unset. -/
def optionText : Option Int → Str
  | none => "None".toList
  | some number => str number

/-- A server with the two parts of its domain that the tests look at. -/
structure AffinityServer extends TunedServer where
  devices : Element

structure AffinityRun where
  conf : HardwareConf
  vlanId : Int
  getConfOpt : Str → Key → Except Exn (Option Str)
  /-- The list that the interpreter makes of a set. -/
  list : Finset Int → List Int
  enumerates : ∀ cpus, Enumerates (list cpus) cpus
  portA : PortDetails
  portB : PortDetails
  createServerA : Except AffinityExn AffinityServer
  /-- The creation with the hint to use the host of the first server. -/
  createServerB : Except AffinityExn AffinityServer

namespace AffinityRun

variable (run : AffinityRun)

def affinityNode : Str :=
  optionText run.conf.physnetNumaAffinity

/-- `_get_dedicated_cpus_from_numa_node`: the set of `None` is an error. -/
def getDedicatedCpusFromNumaNode (numaNode : Str)
    (cpuDedicatedSet : Finset Int) : Except AffinityExn (Finset Int) :=
  match run.conf.cpuTopology.lookup numaNode with
  | none => .error .typeError
  | some cpuIds => .ok (cpuDedicatedSet ∩ cpuIds.toFinset)

/-- `socket_topology[socket_affinity]`. -/
def socketNodes : Except AffinityExn (List Int) :=
  match run.conf.socketTopology.lookup (optionText run.conf.socketAffinity) with
  | none => .error (.keyError (optionText run.conf.socketAffinity))
  | some numaNodes => .ok numaNodes

/-- One turn of the loop over the nodes of a socket. -/
def addNode (hostDedicatedSet : Finset Int) (cpuIds : List Int) (numa : Int) :
    Except AffinityExn (List Int) := do
  let cpus ← run.getDedicatedCpusFromNumaNode (str numa) hostDedicatedSet
  pure (cpuIds ++ run.list cpus)

def getCpuIdsWithSocketAffinity (hostDedicatedSet : Finset Int) :
    Except AffinityExn (List Int) := do
  let numaNodes ← run.socketNodes
  numaNodes.foldlM (run.addNode hostDedicatedSet) []

def getDedicatedSet (host : Str) : Except AffinityExn (Finset Int) :=
  (getCpuDedicatedSet int (run.getConfOpt host)).mapError .conf

def getPins (server : AffinityServer) : Except AffinityExn (Finset Int) :=
  (getPinningAsSet int server.root.cputune).mapError .spec

/-- The interface of the port has the VLAN tag of the network. -/
def checkInterface (server : AffinityServer) (port : PortDetails) :
    Except AffinityExn Unit := do
  let element ← (getXmlInterfaceDevice server.devices port).mapError .device
  (validatePortXmlVlanTag element run.vlanId).mapError .device

def checkAffine (format : Str) (server : AffinityServer)
    (cpuPins pcpusWithAffinity : Finset Int) : Except AffinityExn Unit :=
  require (cpuPins = pcpusWithAffinity) (.failureException
    (.notAffine format server.id pcpusWithAffinity cpuPins))

def checkDisjoint (serverA serverB : AffinityServer)
    (cpuPinsA cpuPinsB : Finset Int) : Except AffinityExn Unit :=
  require (Disjoint cpuPinsA cpuPinsB) (.failureException
    (.overlap cpuPinsA serverA.id cpuPinsB serverB.id))

def formatServerA : Str :=
  ("Expected pCPUs for server A, id: %s to be equal to %s but instead " ++
    "are %s").toList

def preferredTestProcedure : Except AffinityExn Unit := do
  let serverA ← run.createServerA
  let serverB ← run.createServerB
  let cpuDedicatedSet ← run.getDedicatedSet serverA.host
  let cpuPinsA ← getPins serverA
  let pcpusWithAffinity ←
    run.getDedicatedCpusFromNumaNode run.affinityNode cpuDedicatedSet
  checkAffine formatServerA serverA cpuPinsA pcpusWithAffinity
  let cpuPinsB ← getPins serverB
  require (cpuPinsB ⊆ cpuDedicatedSet) (.failureException
    (.notDedicated serverB.id cpuDedicatedSet cpuPinsB))
  checkDisjoint serverA serverB cpuPinsA cpuPinsB
  run.checkInterface serverA run.portA
  run.checkInterface serverB run.portB

/-- `assertRaises(BuildErrorException, self.create_test_server, ...)`. -/
def assertBuildError :
    Except AffinityExn AffinityServer → Except AffinityExn Unit
  | .ok _ => .error (.failureException .notRaised)
  | .error .buildErrorException => .ok ()
  | .error error => .error error

def requiredTestProcedure : Except AffinityExn Unit := do
  let serverA ← run.createServerA
  assertBuildError run.createServerB
  let cpuDedicatedSet ← run.getDedicatedSet serverA.host
  let pcpusWithAffinity ←
    run.getDedicatedCpusFromNumaNode run.affinityNode cpuDedicatedSet
  let cpuPinsA ← getPins serverA
  checkAffine ("Expected pCPUs for server %s to be equal to %s but instead " ++
    "are %s").toList serverA cpuPinsA pcpusWithAffinity
  run.checkInterface serverA run.portA

def socketTestProcedure : Except AffinityExn Unit := do
  let serverA ← run.createServerA
  let serverB ← run.createServerB
  let cpuDedicatedSet ← run.getDedicatedSet serverA.host
  let cpuPinsA ← getPins serverA
  let pcpusWithAffinity ←
    run.getDedicatedCpusFromNumaNode run.affinityNode cpuDedicatedSet
  checkAffine formatServerA serverA cpuPinsA pcpusWithAffinity
  let cpuPinsB ← getPins serverB
  let pcpusOnSocket ← run.getCpuIdsWithSocketAffinity cpuDedicatedSet
  require (cpuPinsB ⊆ pcpusOnSocket.toFinset) (.failureException
    (.notOnSocket serverB.id pcpusOnSocket cpuPinsB))
  checkDisjoint serverA serverB cpuPinsA cpuPinsB
  run.checkInterface serverA run.portA
  run.checkInterface serverB run.portB

end AffinityRun

/-- The configured topology has the node. -/
def AffinityRun.Knows (run : AffinityRun) (numa : Int) : Prop :=
  ∃ cpuIds, run.conf.cpuTopology.lookup (str numa) = some cpuIds

/-- The configured topology has the CPU on the node. -/
def AffinityRun.OnNode (run : AffinityRun) (numa cpu : Int) : Prop :=
  ∃ cpuIds, run.conf.cpuTopology.lookup (str numa) = some cpuIds ∧
    cpu ∈ cpuIds

/-- The domain of the server is that of the guest with its devices. -/
structure AffinityServer.Runs (server : AffinityServer) (guest : Guest)
    (devices : GuestDevices) : Prop where
  shown : server.root = guest.xml
  listed : devices.ShownBy server.devices

/-- What the first server is created as and compared with. -/
structure AffinityRun.Fills (run : AffinityRun) (server : AffinityServer)
    (guest : Guest) (devices : GuestDevices) (vnicType : Str)
    (dedicated : Finset Int) (node : List Int) : Prop where
  created : run.createServerA = .ok server
  runs : server.Runs guest devices
  vnic : run.portA.vnicType = some vnicType
  dedicated : getCpuDedicatedSet int (run.getConfOpt server.host) =
    .ok dedicated
  node : run.conf.cpuTopology.lookup run.affinityNode = some node

/-- What the second server is created as. -/
structure AffinityRun.Adds (run : AffinityRun) (server : AffinityServer)
    (guest : Guest) (devices : GuestDevices) (vnicType : Str) : Prop where
  created : run.createServerB = .ok server
  runs : server.Runs guest devices
  vnic : run.portB.vnicType = some vnicType

section Checks

variable {run : AffinityRun} {server : AffinityServer} {guest : Guest}
  {devices : GuestDevices} {vnicType : Str}

theorem getPins_of_runs (runs : server.Runs guest devices) :
    AffinityRun.getPins server = .ok guest.vcpus.united := by
  rw [AffinityRun.getPins, runs.shown, getPinningAsSet_xml]
  rfl

theorem checkInterface_eq_ok_iff (runs : server.Runs guest devices)
    {port : PortDetails} (vnic : port.vnicType = some vnicType) {value : Unit} :
    run.checkInterface server port = .ok value ↔
      devices.HasPort port vnicType run.vlanId := by
  simp only [AffinityRun.checkInterface, bind_eq_ok_iff, mapError_eq_ok_iff]
  exact exists_taggedInterface_iff runs.listed vnic run.vlanId

theorem assertBuildError_eq_ok_iff
    {outcome : Except AffinityExn AffinityServer} {value : Unit} :
    AffinityRun.assertBuildError outcome = .ok value ↔
      outcome = .error .buildErrorException := by
  cases outcome with
  | ok server => simp [AffinityRun.assertBuildError]
  | error error => cases error <;> simp [AffinityRun.assertBuildError]

variable {dedicated : Finset Int} {node : List Int}

theorem getDedicatedCpusFromNumaNode_eq_ok_iff {numaNode : Str}
    {cpus : Finset Int} :
    run.getDedicatedCpusFromNumaNode numaNode dedicated = .ok cpus ↔
      ∃ cpuIds, run.conf.cpuTopology.lookup numaNode = some cpuIds ∧
        dedicated ∩ cpuIds.toFinset = cpus := by
  rw [AffinityRun.getDedicatedCpusFromNumaNode]
  cases run.conf.cpuTopology.lookup numaNode <;> simp

/-- A set of dedicated CPUs that has none in common with those of a node has no
CPU of the node at all. -/
theorem subset_sdiff_node_iff {pins node : Finset Int} :
    pins ⊆ dedicated \ node ↔
      pins ⊆ dedicated ∧ Disjoint (dedicated ∩ node) pins := by
  rw [Finset.subset_sdiff]
  apply and_congr_right
  intro inside
  rw [Finset.disjoint_left, Finset.disjoint_left]
  constructor
  · intro apart cpu affine pinned
    exact apart pinned (Finset.mem_inter.mp affine).2
  · intro apart cpu pinned inNode
    exact apart (Finset.mem_inter.mpr ⟨inside pinned, inNode⟩) pinned

/-- The loop over the nodes of a socket returns if every node is in the
topology, and it has collected a CPU exactly if one of the nodes has it. -/
theorem foldlM_addNode_iff {pins : Finset Int} {numaNodes cpuIds : List Int} :
    (∃ found, numaNodes.foldlM (run.addNode dedicated) cpuIds = .ok found ∧
        pins ⊆ found.toFinset) ↔
      (∀ numa ∈ numaNodes, run.Knows numa) ∧
      ∀ cpu ∈ pins, cpu ∈ cpuIds ∨ cpu ∈ dedicated ∧
        ∃ numa ∈ numaNodes, run.OnNode numa cpu := by
  induction numaNodes generalizing cpuIds with
  | nil => simp [Finset.subset_iff, pure, Except.pure]
  | cons numa numaNodes induction =>
      have collected : ∀ cpus cpu, cpu ∈ run.list cpus ↔ cpu ∈ cpus := by
        intro cpus cpu
        rw [← List.mem_toFinset, (run.enumerates cpus).toFinset]
      simp only [foldlM_cons_eq_ok_iff, AffinityRun.addNode, bind_eq_ok_iff,
        getDedicatedCpusFromNumaNode_eq_ok_iff, pure_eq_ok_iff]
      cases found : run.conf.cpuTopology.lookup (str numa) with
      | none => simp [AffinityRun.Knows, found]
      | some cpus =>
          have here : ∀ cpu, run.OnNode numa cpu ↔ cpu ∈ cpus := by
            simp [AffinityRun.OnNode, found]
          have known : run.Knows numa := ⟨cpus, found⟩
          simp only [Option.some.injEq, exists_eq_left', induction,
            List.forall_mem_cons, List.mem_append, collected, known, true_and,
            List.exists_mem_cons_iff, here, Finset.mem_inter,
            List.mem_toFinset, or_assoc, and_or_left]

end Checks

section Verdicts

variable {run : AffinityRun} {serverA serverB : AffinityServer}
  {guestA guestB : Guest} {devicesA devicesB : GuestDevices}
  {vnicA vnicB : Str} {dedicated : Finset Int} {node : List Int}

theorem preferredTestProcedure_eq_ok_iff
    (first : run.Fills serverA guestA devicesA vnicA dedicated node)
    (second : run.Adds serverB guestB devicesB vnicB) :
    run.preferredTestProcedure = .ok () ↔
      guestA.vcpus.united = dedicated ∩ node.toFinset ∧
      guestB.vcpus.united ⊆ dedicated ∧
      Disjoint guestA.vcpus.united guestB.vcpus.united ∧
      devicesA.HasPort run.portA vnicA run.vlanId ∧
      devicesB.HasPort run.portB vnicB run.vlanId := by
  simp only [AffinityRun.preferredTestProcedure, AffinityRun.checkAffine,
    AffinityRun.checkDisjoint, AffinityRun.getDedicatedSet, bind_eq_ok_iff,
    mapError_eq_ok_iff, require_eq_ok_iff, exists_const, first.created,
    second.created, first.dedicated, getPins_of_runs first.runs,
    getPins_of_runs second.runs, getDedicatedCpusFromNumaNode_eq_ok_iff,
    first.node, Option.some.injEq, Except.ok.injEq, exists_eq_left',
    checkInterface_eq_ok_iff first.runs first.vnic,
    checkInterface_eq_ok_iff second.runs second.vnic]

/-- The procedure for the policy `preferred` passes exactly if the first server
has exactly the dedicated CPUs of the node, the second one has dedicated CPUs of
other nodes only, and both have their interface. -/
theorem preferredTestProcedure_passes_iff
    (first : run.Fills serverA guestA devicesA vnicA dedicated node)
    (second : run.Adds serverB guestB devicesB vnicB) :
    run.preferredTestProcedure = .ok () ↔
      guestA.vcpus.united = dedicated ∩ node.toFinset ∧
      guestB.vcpus.united ⊆ dedicated \ node.toFinset ∧
      devicesA.HasPort run.portA vnicA run.vlanId ∧
      devicesB.HasPort run.portB vnicB run.vlanId := by
  rw [preferredTestProcedure_eq_ok_iff first second, subset_sdiff_node_iff]
  constructor
  · intro checks
    obtain ⟨affine, inside, apart, ports⟩ := checks
    exact ⟨affine, ⟨inside, affine ▸ apart⟩, ports⟩
  · intro conditions
    obtain ⟨affine, ⟨inside, apart⟩, ports⟩ := conditions
    exact ⟨affine, inside, affine ▸ apart, ports⟩

/-- The procedure for the policy `required` passes exactly if the first server
has all dedicated CPUs of the node and its interface, and the second one cannot
be built. -/
theorem requiredTestProcedure_eq_ok_iff
    (first : run.Fills serverA guestA devicesA vnicA dedicated node) :
    run.requiredTestProcedure = .ok () ↔
      run.createServerB = .error .buildErrorException ∧
      guestA.vcpus.united = dedicated ∩ node.toFinset ∧
      devicesA.HasPort run.portA vnicA run.vlanId := by
  simp only [AffinityRun.requiredTestProcedure, AffinityRun.checkAffine,
    AffinityRun.getDedicatedSet, bind_eq_ok_iff, mapError_eq_ok_iff,
    require_eq_ok_iff, exists_const, first.created, first.dedicated,
    getPins_of_runs first.runs, getDedicatedCpusFromNumaNode_eq_ok_iff,
    first.node, Option.some.injEq, Except.ok.injEq, exists_eq_left',
    assertBuildError_eq_ok_iff, checkInterface_eq_ok_iff first.runs first.vnic]

/-- The procedure for the policy `socket` passes exactly if the one for the
policy `preferred` does, every node of the socket is known, and the second
server has CPUs of the socket only. -/
theorem socketTestProcedure_passes_iff
    (first : run.Fills serverA guestA devicesA vnicA dedicated node)
    (second : run.Adds serverB guestB devicesB vnicB) {numaNodes : List Int}
    (socket : run.socketNodes = .ok numaNodes) :
    run.socketTestProcedure = .ok () ↔
      run.preferredTestProcedure = .ok () ∧
      (∀ numa ∈ numaNodes, run.Knows numa) ∧
      ∀ cpu ∈ guestB.vcpus.united, ∃ numa ∈ numaNodes, run.OnNode numa cpu := by
  have collects : ∀ {rest : Prop},
      (∃ found, run.getCpuIdsWithSocketAffinity dedicated = .ok found ∧
        guestB.vcpus.united ⊆ found.toFinset ∧ rest) ↔
      ((∀ numa ∈ numaNodes, run.Knows numa) ∧
        ∀ cpu ∈ guestB.vcpus.united, cpu ∈ dedicated ∧
          ∃ numa ∈ numaNodes, run.OnNode numa cpu) ∧ rest := by
    intro rest
    simp only [AffinityRun.getCpuIdsWithSocketAffinity, bind_eq_ok_iff, socket,
      Except.ok.injEq, exists_eq_left', ← and_assoc, exists_and_right,
      foldlM_addNode_iff, List.not_mem_nil, false_or]
  rw [preferredTestProcedure_eq_ok_iff first second]
  simp only [AffinityRun.socketTestProcedure, AffinityRun.checkAffine,
    AffinityRun.checkDisjoint, AffinityRun.getDedicatedSet, bind_eq_ok_iff,
    mapError_eq_ok_iff, require_eq_ok_iff, exists_const, first.created,
    second.created, first.dedicated, getPins_of_runs first.runs,
    getPins_of_runs second.runs, getDedicatedCpusFromNumaNode_eq_ok_iff,
    first.node, Option.some.injEq, Except.ok.injEq, exists_eq_left', collects,
    checkInterface_eq_ok_iff first.runs first.vnic,
    checkInterface_eq_ok_iff second.runs second.vnic]
  constructor
  · intro checks
    obtain ⟨affine, ⟨known, onSocket⟩, apart, ports⟩ := checks
    exact ⟨⟨affine, fun cpu pinned => (onSocket cpu pinned).1, apart, ports⟩,
      known, fun cpu pinned => (onSocket cpu pinned).2⟩
  · intro conditions
    obtain ⟨⟨affine, inside, apart, ports⟩, known, onSocket⟩ := conditions
    exact ⟨affine, ⟨known, fun cpu pinned =>
      ⟨inside pinned, onSocket cpu pinned⟩⟩, apart, ports⟩

end Verdicts

section TwoNodes

def functionDetails (mac : Str) : PortDetails where
  bindingProfile := none
  vnicType := some "direct".toList
  macAddress := mac

def affinityServer (id mac : Str) (vcpu : Nat) : AffinityServer where
  id := id
  host := "compute".toList
  root := (oneCpuGuest vcpu 0).xml
  devices := interfaceDomain mac

/-- Two nodes on one socket, with one dedicated CPU each. -/
def twoNodeRun : AffinityRun where
  conf :=
    { cpuTopology := [("0".toList, [0, 1]), ("1".toList, [2, 3])]
      socketTopology := [("0".toList, [0, 1])]
      physnetNumaAffinity := some 0
      socketAffinity := some 0 }
  vlanId := 101
  getConfOpt _ _ := .ok (some "1-2".toList)
  list cpus := cpus.sort
  enumerates cpus := ⟨cpus.sort_nodup _, cpus.sort_toFinset _⟩
  portA := functionDetails "a".toList
  portB := functionDetails "b".toList
  createServerA := .ok (affinityServer "A".toList "a".toList 1)
  createServerB := .ok (affinityServer "B".toList "b".toList 2)

theorem twoNodeRun_fills :
    twoNodeRun.Fills (affinityServer "A".toList "a".toList 1) (oneCpuGuest 1 0)
      (interfaceDevices "a".toList) "direct".toList {1, 2} [0, 1] where
  created := rfl
  runs := ⟨rfl, interfaceDevices_shown _⟩
  vnic := rfl
  dedicated := by decide
  node := by decide

theorem twoNodeRun_adds :
    twoNodeRun.Adds (affinityServer "B".toList "b".toList 2) (oneCpuGuest 2 0)
      (interfaceDevices "b".toList) "direct".toList where
  created := rfl
  runs := ⟨rfl, interfaceDevices_shown _⟩
  vnic := rfl

theorem preferredTestProcedure_passes_twoNodes :
    twoNodeRun.preferredTestProcedure = .ok () := by
  apply (preferredTestProcedure_passes_iff twoNodeRun_fills
    twoNodeRun_adds).mpr
  exact ⟨by decide, by decide, interfaceDevices_hasPort _,
    interfaceDevices_hasPort _⟩

theorem socketTestProcedure_passes_twoNodes :
    twoNodeRun.socketTestProcedure = .ok () := by
  have socket : twoNodeRun.socketNodes = .ok [0, 1] := by decide
  have second : twoNodeRun.conf.cpuTopology.lookup (str 1) = some [2, 3] := by
    decide
  apply (socketTestProcedure_passes_iff twoNodeRun_fills twoNodeRun_adds
    socket).mpr
  refine ⟨?_, ?_, ?_⟩
  · apply (preferredTestProcedure_eq_ok_iff twoNodeRun_fills
      twoNodeRun_adds).mpr
    exact ⟨by decide, by decide, by decide, interfaceDevices_hasPort _,
      interfaceDevices_hasPort _⟩
  · rw [List.forall_mem_cons, List.forall_mem_singleton]
    exact ⟨⟨[0, 1], by decide⟩, [2, 3], second⟩
  · intro cpu pinned
    have single : (oneCpuGuest 2 0).vcpus.united = {2} := by decide
    rw [single, Finset.mem_singleton] at pinned
    exact ⟨1, by decide, [2, 3], second, by simp [pinned]⟩

end TwoNodes

end Whitebox.Compute
