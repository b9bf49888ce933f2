import Whitebox.Collection.Association
import Whitebox.Compute.EmulatorThreads
import Whitebox.Compute.LiveMigration
import Whitebox.Effect.Run

/-!
# Bringing pinned and unpinned servers together

The collocation test creates a pinned and an unpinned server on each of two
hosts and migrates those of the first host to the second one.

What a cloud should do with the CPUs of its hosts is described by the placements
of its servers: a pinned server has a dedicated CPU that no other pinned server
of the host has, and an unpinned one floats over the shared CPUs of its host.
The verdict of the test is stated for every cloud that does so, whichever hosts
and CPUs it chooses.
-/

namespace Whitebox.Compute

open Whitebox.Association
open Whitebox.Python
open Whitebox.Hardware
open Whitebox.Services
open Whitebox.Services.CommandLine (getCpuSharedSet getCpuDedicatedSet)
open Whitebox.Effect
open Whitebox.Effect.Fallible

inductive Microversion where
  | numbered (major minor : Nat)
  | latest
deriving DecidableEq

/-- The order of the versions.  The latest one is above all others. -/
def Microversion.Less : Microversion → Microversion → Prop
  | latest, _ => False
  | numbered _ _, latest => True
  | numbered major minor, numbered otherMajor otherMinor =>
      major < otherMajor ∨ major = otherMajor ∧ minor < otherMinor

instance : DecidableRel Microversion.Less
  | .latest, _ => inferInstanceAs (Decidable False)
  | .numbered _ _, .latest => inferInstanceAs (Decidable True)
  | .numbered _ _, .numbered _ _ => inferInstanceAs (Decidable (_ ∨ _))

def lpBug1869804Fix : Microversion := .numbered 2 96

/-- The message of an assertion of the collocation test. -/
inductive CollocationMessage where
  /-- A format with two sets of CPUs and a server between them. -/
  | sets (format : Str) (first : Finset Int) (serverId : Str)
      (second : Finset Int)
  | liveMigration (message : LiveMigrationMessage)
deriving DecidableEq

inductive CollocationExn where
  | conf (error : Exn ⊕ SpecError)
  | spec (error : SpecError)
  | failureException (message : CollocationMessage)
  | other (message : Str)
deriving DecidableEq

/-- How `create_test_server` is called. -/
inductive PinRequest where
  /-- A pinned server, with the hint to avoid the host of another one. -/
  | dedicated (differentHost : Option Str)
  /-- An unpinned server on the host. -/
  | shared (host : Str)

structure PinCloud (σ : Type) where
  maxMicroversion : Microversion
  /-- `<` of two requests for a version. -/
  less : Microversion → Microversion → Bool
  getConfOpt : Str → Key → Except Exn (Option Str)
  createTestServer : PinRequest → Run σ CollocationExn Str
  getHostForServer : Str → Run σ CollocationExn Str
  getServerXml : Str → Run σ CollocationExn DomainXml
  /-- The request and the wait for the status `ACTIVE`. -/
  liveMigrateServer : Str → Str → Run σ CollocationExn PUnit

/-- A pinned and an unpinned server and the host of both. -/
structure ServerPair where
  dedicated : Str
  host : Str
  shared : Str

namespace PinCloud

variable {σ : Type} (cloud : PinCloud σ)

/-- `assert` of a condition on two sets. -/
def assertSets (condition : Prop) [Decidable condition] (format : Str)
    (first : Finset Int) (serverId : Str) (second : Finset Int) :
    Run σ CollocationExn PUnit :=
  .lift (require condition (.failureException
    (.sets format first serverId second)))

def getDedicatedSet (host : Str) : Run σ CollocationExn (Finset Int) :=
  .lift ((getCpuDedicatedSet int (cloud.getConfOpt host)).mapError .conf)

def getSharedSet (host : Str) : Run σ CollocationExn (Finset Int) :=
  .lift ((getCpuSharedSet int (cloud.getConfOpt host)).mapError .conf)

def getPins (serverId : Str) : Run σ CollocationExn (Finset Int) := do
  let root ← cloud.getServerXml serverId
  .lift ((getPinningAsSet int root.cputune).mapError .spec)

def getCpuset (serverId : Str) : Run σ CollocationExn (Finset Int) := do
  let root ← cloud.getServerXml serverId
  .lift ((getSharedCpuset root).mapError .spec)

/-- The creation of the servers of one host. -/
def createPair (differentHost : Option Str) :
    Run σ CollocationExn ServerPair := do
  let dedicated ← cloud.createTestServer (.dedicated differentHost)
  let host ← cloud.getHostForServer dedicated
  let shared ← cloud.createTestServer (.shared host)
  pure ⟨dedicated, host, shared⟩

/-- One turn of the loop over the pinned servers. -/
def checkDedicated (server : Str × Str) : Run σ CollocationExn PUnit := do
  let cpuDedicatedSet ← cloud.getDedicatedSet server.2
  let serverDedicatedCpus ← cloud.getPins server.1
  assertSets (serverDedicatedCpus ⊆ cpuDedicatedSet)
    "Pinned CPUs %s of server %s is not a subset of %s".toList
    serverDedicatedCpus server.1 cpuDedicatedSet

/-- One turn of the loop over the unpinned servers. -/
def checkShared (server : Str × Str) : Run σ CollocationExn PUnit := do
  let cpuSharedSet ← cloud.getSharedSet server.2
  let serverSharedCpus ← cloud.getCpuset server.1
  assertSets (serverSharedCpus = cpuSharedSet)
    ("Shared CPU Set %s of shared server %s is not equal to shared set of " ++
      "%s").toList
    serverSharedCpus server.1 cpuSharedSet

def liveMigrate (serverId targetHost : Str) : Run σ CollocationExn PUnit :=
  LiveMigration.run
    ⟨cloud.getHostForServer serverId,
      cloud.liveMigrateServer serverId targetHost,
      cloud.getHostForServer serverId⟩
    (fun asserted => .lift (asserted.mapError fun message =>
      .failureException (.liveMigration message)))
    serverId (some targetHost)

/-- The host whose shared CPUs a migrated server is compared with. -/
def comparedHost (hostA hostB : Str) : Str :=
  if cloud.less cloud.maxMicroversion lpBug1869804Fix then hostA else hostB

def checkMigratedShared (pairA pairB : ServerPair) :
    Run σ CollocationExn PUnit := do
  let sharedSetA ← cloud.getCpuset pairA.shared
  let hostSharedSet ←
    cloud.getSharedSet (cloud.comparedHost pairA.host pairB.host)
  assertSets (sharedSetA = hostSharedSet)
    ("After migration of server %s, shared CPU set %s is not equal to new " ++
      "shared set %s").toList
    sharedSetA pairA.shared hostSharedSet

def checkMigratedDedicated (pairA pairB : ServerPair) :
    Run σ CollocationExn PUnit := do
  let dedicatedPinA ← cloud.getPins pairA.dedicated
  let dedicatedPinB ← cloud.getPins pairB.dedicated
  let hostBDedicatedSet ← cloud.getDedicatedSet pairB.host
  let hostBSharedSet ← cloud.getSharedSet pairB.host
  assertSets (dedicatedPinA ⊆ hostBDedicatedSet)
    "Pinned Host CPU's %s of server %s is not a subset of %s".toList
    dedicatedPinA pairA.dedicated hostBDedicatedSet
  assertSets (Disjoint dedicatedPinA dedicatedPinB)
    "Pinned Host CPU's %s of server %s overlaps with %s".toList
    dedicatedPinA pairA.dedicated dedicatedPinB
  assertSets (Disjoint dedicatedPinA hostBSharedSet)
    ("Pinned Host CPU's %s of server %s overlaps with cpu_shared_set " ++
      "%s").toList
    dedicatedPinA pairA.dedicated hostBSharedSet

/-- The checks on the servers where they are created. -/
def checkCreated (pairA pairB : ServerPair) : Run σ CollocationExn PUnit := do
  [(pairA.dedicated, pairA.host), (pairB.dedicated, pairB.host)].forM
    cloud.checkDedicated
  [(pairA.shared, pairA.host), (pairB.shared, pairB.host)].forM
    cloud.checkShared

/-- The migrations and the checks after each of them. -/
def collocate (pairA pairB : ServerPair) : Run σ CollocationExn PUnit := do
  cloud.liveMigrate pairA.shared pairB.host
  cloud.checkMigratedShared pairA pairB
  cloud.liveMigrate pairA.dedicated pairB.host
  cloud.checkMigratedDedicated pairA pairB

def testCollocationMigration : Run σ CollocationExn PUnit := do
  let pairA ← cloud.createPair none
  let pairB ← cloud.createPair (some pairA.dedicated)
  cloud.checkCreated pairA pairB
  cloud.collocate pairA pairB

end PinCloud

section Placements

inductive CpuPolicy where
  | dedicated
  | shared
deriving DecidableEq

/-- Where a server is and which CPUs it has there. -/
structure ServerPlacement where
  host : Str
  policy : CpuPolicy
  cpus : Finset Int

abbrev Placements := Str → Option ServerPlacement

/-- The hosts and their CPUs. -/
structure HostCpus where
  names : List Str
  named : ∀ host ∈ names, host ≠ []
  dedicated : Str → Finset Int
  shared : Str → Finset Int
  apart : ∀ host, Disjoint (dedicated host) (shared host)

/-- No pinned server of the host has the CPU. -/
def Placements.Unused (placements : Placements) (host : Str) (cpu : Int) :
    Prop :=
  ∀ server placement, placements server = some placement →
    placement.policy = .dedicated → placement.host = host →
      cpu ∉ placement.cpus

namespace HostCpus

variable (hosts : HostCpus) (placements : Placements)

def HasRoom (host : Str) : Prop :=
  ∃ cpu ∈ hosts.dedicated host, placements.Unused host cpu

/-- The CPUs that a server gets on its host. -/
def Gives (placement : ServerPlacement) : Prop :=
  match placement.policy with
  | .dedicated => ∃ cpu ∈ hosts.dedicated placement.host,
      placements.Unused placement.host cpu ∧ placement.cpus = {cpu}
  | .shared => placement.cpus = hosts.shared placement.host

/-- The host can take the server that is requested. -/
def Admits (host : Str) : PinRequest → Prop
  | .dedicated none => hosts.HasRoom placements host
  | .dedicated (some other) => hosts.HasRoom placements host ∧
      ∀ placement, placements other = some placement → placement.host ≠ host
  | .shared forced => host = forced

end HostCpus

def PinRequest.policy : PinRequest → CpuPolicy
  | dedicated _ => .dedicated
  | shared _ => .shared

/-- The guest says which CPUs the server has. -/
def ServerPlacement.ShownBy (placement : ServerPlacement) (guest : Guest) :
    Prop :=
  match placement.policy with
  | .dedicated => guest.vcpus.united = placement.cpus
  | .shared => ∃ mask, guest.floating = some mask ∧
      mask.cpuSet = placement.cpus

/-- The cloud gives its servers CPUs as it should, and shows them. -/
structure Manages {σ : Type} (cloud : PinCloud σ) (hosts : HostCpus)
    (placements : σ → Placements) : Prop where
  compares : ∀ version other,
    cloud.less version other = true ↔ version.Less other
  dedicatedSet : ∀ host ∈ hosts.names,
    getCpuDedicatedSet int (cloud.getConfOpt host) = .ok (hosts.dedicated host)
  sharedSet : ∀ host ∈ hosts.names,
    getCpuSharedSet int (cloud.getConfOpt host) = .ok (hosts.shared host)
  finds : ∀ state server placement, placements state server = some placement →
    cloud.getHostForServer server state = (.ok placement.host, state)
  shows : ∀ state server placement, placements state server = some placement →
    ∃ guest, cloud.getServerXml server state = (.ok guest.xml, state) ∧
      placement.ShownBy guest
  boots : ∀ state request,
    (∃ host ∈ hosts.names, hosts.Admits (placements state) host request) →
      ∃ server placement next,
        cloud.createTestServer request state = (.ok server, next) ∧
        placements state server = none ∧
        placement.policy = request.policy ∧
        placement.host ∈ hosts.names ∧
        hosts.Admits (placements state) placement.host request ∧
        hosts.Gives (placements state) placement ∧
        placements next =
          Function.update (placements state) server (some placement)
  moves : ∀ state server placement target,
    placements state server = some placement → target ∈ hosts.names →
    placement.host ≠ target →
    (placement.policy = .dedicated →
      hosts.HasRoom (placements state) target) →
      ∃ cpus next,
        cloud.liveMigrateServer server target state = (.ok ⟨⟩, next) ∧
        hosts.Gives (placements state) ⟨target, placement.policy, cpus⟩ ∧
        placements next = Function.update (placements state) server
          (some ⟨target, placement.policy, cpus⟩)

end Placements

section Rooms

variable {hosts : HostCpus} {placements : Placements} {host server : Str}
  {placement : ServerPlacement} {cpu : Int}

/-- A CPU stays unused if no pinned server gets it. -/
theorem Placements.Unused.update (unused : placements.Unused host cpu)
    (spared : placement.policy = .dedicated → placement.host = host →
      cpu ∉ placement.cpus) :
    Placements.Unused (Function.update placements server (some placement)) host
      cpu := by
  intro other found there pinned here
  by_cases same : other = server
  · rw [same, Function.update_self, Option.some_inj] at there
    subst there
    exact spared pinned here
  · rw [Function.update_of_ne same] at there
    exact unused other found there pinned here

theorem update_of_none {other : Str} {found : ServerPlacement}
    (there : placements other = some found)
    (fresh : placements server = none) (value : Option ServerPlacement) :
    Function.update placements server value other = some found := by
  rw [Function.update_of_ne]
  · exact there
  · intro same
    rw [same, fresh] at there
    cases there

/-- The host has room for two pinned servers. -/
def HostCpus.HasRoomForTwo (hosts : HostCpus) (placements : Placements)
    (host : Str) : Prop :=
  ∃ first ∈ hosts.dedicated host, ∃ second ∈ hosts.dedicated host,
    first ≠ second ∧ placements.Unused host first ∧
      placements.Unused host second

theorem HostCpus.HasRoomForTwo.hasRoom
    (room : hosts.HasRoomForTwo placements host) :
    hosts.HasRoom placements host := by
  obtain ⟨first, dedicated, _, _, _, unused, _⟩ := room
  exact ⟨first, dedicated, unused⟩

theorem HostCpus.HasRoomForTwo.update
    (room : hosts.HasRoomForTwo placements host)
    (elsewhere : placement.policy = .dedicated → placement.host ≠ host) :
    hosts.HasRoomForTwo (Function.update placements server (some placement))
      host := by
  obtain ⟨first, dedicated, second, dedicatedToo, apart, unused, unusedToo⟩ :=
    room
  exact ⟨first, dedicated, second, dedicatedToo, apart,
    unused.update fun pinned here => absurd here (elsewhere pinned),
    unusedToo.update fun pinned here => absurd here (elsewhere pinned)⟩

/-- One of two CPUs is left after one server got its CPU. -/
theorem HostCpus.HasRoomForTwo.hasRoom_update
    (room : hosts.HasRoomForTwo placements host) (taken : Int) :
    hosts.HasRoom (Function.update placements server
      (some ⟨host, .dedicated, {taken}⟩)) host := by
  obtain ⟨first, dedicated, second, dedicatedToo, apart, unused, unusedToo⟩ :=
    room
  by_cases same : first = taken
  · refine ⟨second, dedicatedToo, unusedToo.update fun _ _ => ?_⟩
    rw [Finset.mem_singleton, ← same]
    exact apart.symm
  · refine ⟨first, dedicated, unused.update fun _ _ => ?_⟩
    rw [Finset.mem_singleton]
    exact same

theorem HostCpus.HasRoom.update_shared (room : hosts.HasRoom placements host)
    (floats : placement.policy = .shared) :
    hosts.HasRoom (Function.update placements server (some placement))
      host := by
  obtain ⟨cpu, dedicated, unused⟩ := room
  refine ⟨cpu, dedicated, unused.update fun pinned _ => ?_⟩
  rw [floats] at pinned
  cases pinned

end Rooms

section Managed

variable {σ : Type} {cloud : PinCloud σ} {hosts : HostCpus}
  {placements : σ → Placements} {state : σ} {server host target : Str}
  {cpus : Finset Int}

theorem getDedicatedSet_of_manages (manages : Manages cloud hosts placements)
    (known : host ∈ hosts.names) :
    cloud.getDedicatedSet host state =
      (.ok (hosts.dedicated host), state) := by
  rw [PinCloud.getDedicatedSet, manages.dedicatedSet host known]
  rfl

theorem getSharedSet_of_manages (manages : Manages cloud hosts placements)
    (known : host ∈ hosts.names) :
    cloud.getSharedSet host state = (.ok (hosts.shared host), state) := by
  rw [PinCloud.getSharedSet, manages.sharedSet host known]
  rfl

theorem getPins_of_manages (manages : Manages cloud hosts placements)
    (there : placements state server = some ⟨host, .dedicated, cpus⟩) :
    cloud.getPins server state = (.ok cpus, state) := by
  obtain ⟨guest, dumped, shown⟩ := manages.shows state server _ there
  change guest.vcpus.united = cpus at shown
  rw [PinCloud.getPins, Run.bind_ok dumped, getPinningAsSet_xml, shown]
  rfl

theorem getCpuset_of_manages (manages : Manages cloud hosts placements)
    (there : placements state server = some ⟨host, .shared, cpus⟩) :
    cloud.getCpuset server state = (.ok cpus, state) := by
  obtain ⟨guest, dumped, mask, floating, shown⟩ :=
    manages.shows state server _ there
  change mask.cpuSet = cpus at shown
  rw [PinCloud.getCpuset, Run.bind_ok dumped, getSharedCpuset_xml, floating,
    ← shown]
  rfl

theorem assertSets_of_holds {condition : Prop} [Decidable condition]
    (holds : condition) {format : Str} {first second : Finset Int}
    {serverId : Str} :
    PinCloud.assertSets condition format first serverId second state =
      (.ok ⟨⟩, state) := by
  rw [PinCloud.assertSets, require, if_pos holds]
  rfl

theorem boots_dedicated (manages : Manages cloud hosts placements)
    {hint : Option Str} (known : host ∈ hosts.names)
    (admits : hosts.Admits (placements state) host (.dedicated hint)) :
    ∃ server chosen cpu next,
      cloud.createTestServer (.dedicated hint) state = (.ok server, next) ∧
      placements state server = none ∧ chosen ∈ hosts.names ∧
      hosts.Admits (placements state) chosen (.dedicated hint) ∧
      cpu ∈ hosts.dedicated chosen ∧
      placements next = Function.update (placements state) server
        (some ⟨chosen, .dedicated, {cpu}⟩) := by
  obtain ⟨server, ⟨chosen, policy, cpus⟩, next, created, fresh, same, inNames,
    admitted, gives, after⟩ := manages.boots state _ ⟨host, known, admits⟩
  cases same
  obtain ⟨cpu, dedicated, _, rfl⟩ := gives
  exact ⟨server, chosen, cpu, next, created, fresh, inNames, admitted,
    dedicated, after⟩

theorem boots_shared (manages : Manages cloud hosts placements)
    (known : host ∈ hosts.names) (state : σ) :
    ∃ server next,
      cloud.createTestServer (.shared host) state = (.ok server, next) ∧
      placements state server = none ∧
      placements next = Function.update (placements state) server
        (some ⟨host, .shared, hosts.shared host⟩) := by
  obtain ⟨server, ⟨chosen, policy, cpus⟩, next, created, fresh, same, _,
    admitted, gives, after⟩ := manages.boots state (.shared host)
      ⟨host, known, rfl⟩
  cases same
  cases admitted
  change cpus = hosts.shared chosen at gives
  rw [gives] at after
  exact ⟨server, next, created, fresh, after⟩

/-- A migrated server is found on its target host. -/
theorem liveMigrate_of_manages (manages : Manages cloud hosts placements)
    {policy : CpuPolicy}
    (there : placements state server = some ⟨host, policy, cpus⟩)
    (known : target ∈ hosts.names) (other : host ≠ target)
    (room : policy = .dedicated → hosts.HasRoom (placements state) target) :
    ∃ given next, cloud.liveMigrate server target state = (.ok ⟨⟩, next) ∧
      hosts.Gives (placements state) ⟨target, policy, given⟩ ∧
      placements next = Function.update (placements state) server
        (some ⟨target, policy, given⟩) := by
  obtain ⟨given, next, migrated, gives, after⟩ :=
    manages.moves state server _ target there known other room
  refine ⟨given, next, ?_, gives, after⟩
  have found : cloud.getHostForServer server next = (.ok target, next) := by
    apply manages.finds next server ⟨target, policy, given⟩
    rw [after, Function.update_self]
  rw [PinCloud.liveMigrate, LiveMigration.run,
    Run.bind_ok (manages.finds state server _ there), Run.bind_ok migrated,
    Run.bind_ok found,
    assertHost_eq_ok_iff.mpr
      ((moves_some_iff (hosts.named target known)).mpr rfl)]
  rfl

end Managed

section Verdict

variable {σ : Type} {cloud : PinCloud σ} {hosts : HostCpus}
  {placements : σ → Placements} {state : σ} {pair pairA pairB : ServerPair}

/-- The servers are on their host, the pinned one on the CPU. -/
structure ServerPair.PlacedIn (pair : ServerPair) (hosts : HostCpus)
    (placements : Placements) (cpu : Int) : Prop where
  known : pair.host ∈ hosts.names
  dedicated : placements pair.dedicated = some ⟨pair.host, .dedicated, {cpu}⟩
  inSet : cpu ∈ hosts.dedicated pair.host
  shared : placements pair.shared =
    some ⟨pair.host, .shared, hosts.shared pair.host⟩

/-- What is left after a pair has been created. -/
structure ServerPair.Joins (pair : ServerPair) (hosts : HostCpus)
    (before after : Placements) : Prop where
  keeps : ∀ server placement, before server = some placement →
    after server = some placement
  roomForTwo : ∀ host ≠ pair.host, hosts.HasRoomForTwo before host →
    hosts.HasRoomForTwo after host
  room : hosts.HasRoomForTwo before pair.host → hosts.HasRoom after pair.host

theorem createPair_of_manages (manages : Manages cloud hosts placements)
    {hint : Option Str} {host : Str} (known : host ∈ hosts.names)
    (admits : hosts.Admits (placements state) host (.dedicated hint)) :
    ∃ pair cpu next, cloud.createPair hint state = (.ok pair, next) ∧
      hosts.Admits (placements state) pair.host (.dedicated hint) ∧
      pair.PlacedIn hosts (placements next) cpu ∧
      pair.Joins hosts (placements state) (placements next) := by
  obtain ⟨dedicated, chosen, cpu, between, created, fresh, inNames, admitted,
    inSet, after⟩ := boots_dedicated manages known admits
  obtain ⟨shared, next, createdToo, freshToo, afterToo⟩ :=
    boots_shared manages inNames between
  have there : placements between dedicated =
      some ⟨chosen, .dedicated, {cpu}⟩ := by
    rw [after, Function.update_self]
  refine ⟨⟨dedicated, chosen, shared⟩, cpu, next, ?_, admitted,
    ⟨inNames, ?_, inSet, ?_⟩, ?_, ?_, ?_⟩
  · rw [PinCloud.createPair, Run.bind_ok created,
      Run.bind_ok (manages.finds between dedicated _ there),
      Run.bind_ok createdToo]
    rfl
  · rw [afterToo]
    exact update_of_none there freshToo _
  · rw [afterToo, Function.update_self]
  · intro server placement found
    rw [afterToo]
    apply update_of_none _ freshToo
    rw [after]
    exact update_of_none found fresh _
  · intro other different room
    rw [afterToo, after]
    apply (room.update ?_).update
    · intro pinned
      cases pinned
    · intro _
      exact different.symm
  · intro room
    rw [afterToo, after]
    exact (room.hasRoom_update cpu).update_shared rfl

section Created

variable {cpuA cpuB : Int}

theorem checkDedicated_of_placed (manages : Manages cloud hosts placements)
    {cpu : Int} (placed : pair.PlacedIn hosts (placements state) cpu) :
    cloud.checkDedicated (pair.dedicated, pair.host) state =
      (.ok ⟨⟩, state) := by
  rw [PinCloud.checkDedicated,
    Run.bind_ok (getDedicatedSet_of_manages manages placed.known),
    Run.bind_ok (getPins_of_manages manages placed.dedicated)]
  apply assertSets_of_holds
  exact Finset.singleton_subset_iff.mpr placed.inSet

theorem checkShared_of_placed (manages : Manages cloud hosts placements)
    {cpu : Int} (placed : pair.PlacedIn hosts (placements state) cpu) :
    cloud.checkShared (pair.shared, pair.host) state = (.ok ⟨⟩, state) := by
  rw [PinCloud.checkShared,
    Run.bind_ok (getSharedSet_of_manages manages placed.known),
    Run.bind_ok (getCpuset_of_manages manages placed.shared)]
  exact assertSets_of_holds rfl

theorem checkCreated_of_placed (manages : Manages cloud hosts placements)
    (placedA : pairA.PlacedIn hosts (placements state) cpuA)
    (placedB : pairB.PlacedIn hosts (placements state) cpuB) :
    cloud.checkCreated pairA pairB state = (.ok ⟨⟩, state) := by
  have pinned : [(pairA.dedicated, pairA.host),
      (pairB.dedicated, pairB.host)].forM cloud.checkDedicated state =
        (.ok ⟨⟩, state) := by
    apply Run.forM_ok
    exact List.forall_mem_cons.mpr ⟨checkDedicated_of_placed manages placedA,
      List.forall_mem_singleton.mpr (checkDedicated_of_placed manages placedB)⟩
  rw [PinCloud.checkCreated, Run.bind_ok pinned]
  apply Run.forM_ok
  exact List.forall_mem_cons.mpr ⟨checkShared_of_placed manages placedA,
    List.forall_mem_singleton.mpr (checkShared_of_placed manages placedB)⟩

end Created

section Collocated

variable {cpuA cpuB : Int}

/-- The host whose shared CPUs are compared is one of the two. -/
theorem comparedHost_known (placedA : pairA.PlacedIn hosts (placements state)
    cpuA) (placedB : pairB.PlacedIn hosts (placements state) cpuB) :
    cloud.comparedHost pairA.host pairB.host ∈ hosts.names := by
  unfold PinCloud.comparedHost
  split
  · exact placedA.known
  · exact placedB.known

/-- The migrated unpinned server floats over the shared CPUs of its new host,
which are compared with those of one of the hosts. -/
theorem migrateShared_of_placed (manages : Manages cloud hosts placements)
    (placedA : pairA.PlacedIn hosts (placements state) cpuA)
    (placedB : pairB.PlacedIn hosts (placements state) cpuB)
    (different : pairA.host ≠ pairB.host) :
    ∃ next, cloud.liveMigrate pairA.shared pairB.host state = (.ok ⟨⟩, next) ∧
      cloud.checkMigratedShared pairA pairB next =
        PinCloud.assertSets (hosts.shared pairB.host =
            hosts.shared (cloud.comparedHost pairA.host pairB.host))
          ("After migration of server %s, shared CPU set %s is not equal " ++
            "to new shared set %s").toList
          (hosts.shared pairB.host) pairA.shared
          (hosts.shared (cloud.comparedHost pairA.host pairB.host)) next ∧
      placements next = Function.update (placements state) pairA.shared
        (some ⟨pairB.host, .shared, hosts.shared pairB.host⟩) := by
  have floats : CpuPolicy.shared ≠ .dedicated := by decide
  obtain ⟨given, next, migrated, gives, after⟩ := liveMigrate_of_manages
    manages placedA.shared placedB.known different fun pinned =>
      absurd pinned floats
  change given = hosts.shared pairB.host at gives
  rw [gives] at after
  have there : placements next pairA.shared =
      some ⟨pairB.host, .shared, hosts.shared pairB.host⟩ := by
    rw [after, Function.update_self]
  refine ⟨next, migrated, ?_, after⟩
  rw [PinCloud.checkMigratedShared,
    Run.bind_ok (getCpuset_of_manages manages there),
    Run.bind_ok (getSharedSet_of_manages manages
      (comparedHost_known placedA placedB))]
  rfl

/-- The migrated pinned server gets a CPU that passes the checks. -/
theorem migrateDedicated_of_placed (manages : Manages cloud hosts placements)
    (thereA : placements state pairA.dedicated =
      some ⟨pairA.host, .dedicated, {cpuA}⟩)
    (known : pairB.host ∈ hosts.names)
    (thereB : placements state pairB.dedicated =
      some ⟨pairB.host, .dedicated, {cpuB}⟩)
    (different : pairA.host ≠ pairB.host)
    (room : hosts.HasRoom (placements state) pairB.host) :
    ∃ next, cloud.liveMigrate pairA.dedicated pairB.host state =
        (.ok ⟨⟩, next) ∧
      cloud.checkMigratedDedicated pairA pairB next = (.ok ⟨⟩, next) := by
  obtain ⟨given, next, migrated, ⟨cpu, inSet, unused, gives⟩, after⟩ :=
    liveMigrate_of_manages manages thereA known different fun _ => room
  change given = {cpu} at gives
  rw [gives] at after
  have movedA : placements next pairA.dedicated =
      some ⟨pairB.host, .dedicated, {cpu}⟩ := by
    rw [after, Function.update_self]
  have other : pairB.dedicated ≠ pairA.dedicated := by
    intro same
    rw [same, thereA, Option.some_inj] at thereB
    exact different (congrArg ServerPlacement.host thereB)
  have keptB : placements next pairB.dedicated =
      some ⟨pairB.host, .dedicated, {cpuB}⟩ := by
    rw [after, Function.update_of_ne other, thereB]
  refine ⟨next, migrated, ?_⟩
  rw [PinCloud.checkMigratedDedicated,
    Run.bind_ok (getPins_of_manages manages movedA),
    Run.bind_ok (getPins_of_manages manages keptB),
    Run.bind_ok (getDedicatedSet_of_manages manages known),
    Run.bind_ok (getSharedSet_of_manages manages known),
    Run.bind_ok (assertSets_of_holds
      (Finset.singleton_subset_iff.mpr inSet)),
    Run.bind_ok (assertSets_of_holds (Finset.disjoint_singleton_left.mpr
      (unused pairB.dedicated _ thereB rfl rfl)))]
  apply assertSets_of_holds
  exact Finset.disjoint_singleton_left.mpr
    (Finset.disjoint_left.mp (hosts.apart pairB.host) inSet)

theorem collocate_of_placed (manages : Manages cloud hosts placements)
    (placedA : pairA.PlacedIn hosts (placements state) cpuA)
    (placedB : pairB.PlacedIn hosts (placements state) cpuB)
    (different : pairA.host ≠ pairB.host)
    (room : hosts.HasRoom (placements state) pairB.host) :
    (cloud.collocate pairA pairB state).1 = .ok ⟨⟩ ↔
      hosts.shared pairB.host =
        hosts.shared (cloud.comparedHost pairA.host pairB.host) := by
  obtain ⟨between, migrated, checked, after⟩ :=
    migrateShared_of_placed manages placedA placedB different
  rw [PinCloud.collocate, Run.bind_ok migrated]
  by_cases same : hosts.shared pairB.host =
      hosts.shared (cloud.comparedHost pairA.host pairB.host)
  · rw [assertSets_of_holds same] at checked
    -- A pinned server is not the one that has moved.
    have keeps : ∀ server host cpu, placements state server =
        some ⟨host, .dedicated, {cpu}⟩ →
        placements between server = some ⟨host, .dedicated, {cpu}⟩ := by
      intro server host cpu there
      rw [after, Function.update_of_ne]
      · exact there
      · intro moved
        rw [moved, placedA.shared] at there
        cases there
    have roomAfter : hosts.HasRoom (placements between) pairB.host := by
      rw [after]
      exact room.update_shared rfl
    obtain ⟨final, migratedToo, checkedToo⟩ := migrateDedicated_of_placed
      manages (keeps _ _ _ placedA.dedicated) placedB.known
      (keeps _ _ _ placedB.dedicated) different roomAfter
    rw [Run.bind_ok checked, Run.bind_ok migratedToo, checkedToo]
    exact iff_of_true rfl same
  · rw [PinCloud.assertSets, require, if_neg same] at checked
    rw [Run.bind_error checked]
    refine iff_of_false ?_ same
    intro passes
    cases passes

end Collocated

theorem exists_other_host {first second : Str} (known : first ∈ hosts.names)
    (knownToo : second ∈ hosts.names) (different : first ≠ second)
    (host : Str) : ∃ elsewhere ∈ hosts.names, elsewhere ≠ host := by
  by_cases same : first = host
  · refine ⟨second, knownToo, ?_⟩
    rw [← same]
    exact different.symm
  · exact ⟨first, known, same⟩

theorem shared_comparedHost_iff (manages : Manages cloud hosts placements)
    {hostA hostB : Str} :
    hosts.shared hostB = hosts.shared (cloud.comparedHost hostA hostB) ↔
      (cloud.maxMicroversion.Less lpBug1869804Fix →
        hosts.shared hostA = hosts.shared hostB) := by
  rw [← manages.compares]
  unfold PinCloud.comparedHost
  split
  · next old =>
      simp only [old, true_implies]
      exact eq_comm
  · next fixed =>
      exact iff_of_true rfl fun old => absurd old fixed

/-- On a cloud that gives its servers CPUs as it should, that has two hosts or
more and on every host room for two pinned servers, the test passes exactly if
the unpinned server is not compared with the shared CPUs of the host it has
left, or if these are the same as those of its new host. -/
theorem testCollocationMigration_passes_iff
    (manages : Manages cloud hosts placements) {first second : Str}
    (known : first ∈ hosts.names) (knownToo : second ∈ hosts.names)
    (different : first ≠ second)
    (room : ∀ host ∈ hosts.names,
      hosts.HasRoomForTwo (placements state) host) :
    ∃ pairA pairB between created,
      cloud.createPair none state = (.ok pairA, between) ∧
      cloud.createPair (some pairA.dedicated) between = (.ok pairB, created) ∧
      pairA.host ∈ hosts.names ∧ pairB.host ∈ hosts.names ∧
      pairA.host ≠ pairB.host ∧
      ((cloud.testCollocationMigration state).1 = .ok ⟨⟩ ↔
        (cloud.maxMicroversion.Less lpBug1869804Fix →
          hosts.shared pairA.host = hosts.shared pairB.host)) := by
  have admitsFirst : hosts.Admits (placements state) first
      (.dedicated none) := (room first known).hasRoom
  obtain ⟨pairA, cpuA, between, createdA, _, placedA, joinsA⟩ :=
    createPair_of_manages manages known admitsFirst
  obtain ⟨elsewhere, knownElsewhere, leaves⟩ :=
    exists_other_host known knownToo different pairA.host
  have admitsOther : hosts.Admits (placements between) elsewhere
      (.dedicated (some pairA.dedicated)) := by
    refine ⟨(joinsA.roomForTwo elsewhere leaves
      (room elsewhere knownElsewhere)).hasRoom, ?_⟩
    intro placement there
    rw [placedA.dedicated, Option.some_inj] at there
    rw [← there]
    exact leaves.symm
  obtain ⟨pairB, cpuB, created, createdB, ⟨_, avoids⟩, placedB, joinsB⟩ :=
    createPair_of_manages manages knownElsewhere admitsOther
  have apart : pairA.host ≠ pairB.host := avoids _ placedA.dedicated
  have keptA : pairA.PlacedIn hosts (placements created) cpuA :=
    ⟨placedA.known, joinsB.keeps _ _ placedA.dedicated, placedA.inSet,
      joinsB.keeps _ _ placedA.shared⟩
  have roomB : hosts.HasRoom (placements created) pairB.host :=
    joinsB.room (joinsA.roomForTwo pairB.host apart.symm
      (room pairB.host placedB.known))
  refine ⟨pairA, pairB, between, created, createdA, createdB, placedA.known,
    placedB.known, apart, ?_⟩
  rw [PinCloud.testCollocationMigration, Run.bind_ok createdA,
    Run.bind_ok createdB,
    Run.bind_ok (checkCreated_of_placed manages keptA placedB),
    collocate_of_placed manages keptA placedB apart roomB]
  exact shared_comparedHost_iff manages

end Verdict

section Reference

/-- A server of the reference cloud. -/
inductive PinServer where
  | pinned (host : Str) (cpu : Nat)
  | floating (host : Str)
deriving DecidableEq

def PinServer.host : PinServer → Str
  | pinned host _ => host
  | floating host => host

/-- The servers of the reference cloud by their names. -/
structure PinState where
  servers : List (Str × PinServer)
  distinct : (servers.map Prod.fst).Nodup

/-- Hosts whose configuration says which CPUs they have. -/
structure PinDeployment where
  hosts : HostCpus
  getConfOpt : Str → Key → Except Exn (Option Str)
  dedicated : Str → CpuMask
  shared : Str → CpuMask
  dedicated_eq : ∀ host, (dedicated host).cpuSet = hosts.dedicated host
  shared_eq : ∀ host, (shared host).cpuSet = hosts.shared host
  dedicatedSet : ∀ host ∈ hosts.names,
    getCpuDedicatedSet int (getConfOpt host) = .ok (hosts.dedicated host)
  sharedSet : ∀ host ∈ hosts.names,
    getCpuSharedSet int (getConfOpt host) = .ok (hosts.shared host)

/-- A guest that floats over the CPUs. -/
def floatingGuest (cpus : CpuMask) : Guest where
  vcpus := ⟨[], List.nodup_nil⟩
  emulator := []
  iothreads := 0
  iothreadPins := ⟨[], List.nodup_nil⟩
  cells := ⟨[], List.nodup_nil⟩
  floating := some cpus

namespace PinState

variable (state : PinState)

def put (name : Str) (server : PinServer) : PinState :=
  ⟨assign name server state.servers, nodup_keys_assign state.distinct⟩

/-- The host has not the server of the hint. -/
def avoids (hint : Option Str) (host : Str) : Bool :=
  match hint.bind fun name => state.servers.lookup name with
  | none => true
  | some server => server.host != host

def newServer : Str :=
  newName (state.servers.map Prod.fst)

end PinState

namespace PinDeployment

variable (deployment : PinDeployment)

def placement : PinServer → ServerPlacement
  | .pinned host cpu => ⟨host, .dedicated, {(cpu : Int)}⟩
  | .floating host => ⟨host, .shared, deployment.hosts.shared host⟩

def guest : PinServer → Guest
  | .pinned _ cpu => oneCpuGuest cpu 0
  | .floating host => floatingGuest (deployment.shared host)

def placements (state : PinState) : Placements := fun server =>
  (state.servers.lookup server).map deployment.placement

/-- The first dedicated CPU of the host without a pinned server. -/
def freeCpu (state : PinState) (host : Str) : Option Nat :=
  (deployment.dedicated host).cpus.find? fun cpu =>
    decide (∀ entry ∈ state.servers, entry.2 ≠ .pinned host cpu)

/-- A CPU of the host, unless the hint forbids the host. -/
def offer (state : PinState) (hint : Option Str) (host : Str) :
    Option (Str × Nat) :=
  if state.avoids hint host then
    (deployment.freeCpu state host).map (Prod.mk host)
  else none

def noValidHost : CollocationExn :=
  .other "No valid host was found.".toList

def createTestServer : PinRequest → Run PinState CollocationExn Str
  | .dedicated hint => fun state =>
      match deployment.hosts.names.findSome? (deployment.offer state hint) with
      | none => (.error noValidHost, state)
      | some (host, cpu) =>
          (.ok state.newServer, state.put state.newServer (.pinned host cpu))
  | .shared host => fun state =>
      if host ∈ deployment.hosts.names then
        (.ok state.newServer, state.put state.newServer (.floating host))
      else (.error noValidHost, state)

def liveMigrateServer (name target : Str) :
    Run PinState CollocationExn PUnit := fun state =>
  match state.servers.lookup name with
  | none => (.error (.other "Instance could not be found.".toList), state)
  | some (.floating _) => (.ok ⟨⟩, state.put name (.floating target))
  | some (.pinned _ _) =>
      match deployment.freeCpu state target with
      | none => (.error noValidHost, state)
      | some cpu => (.ok ⟨⟩, state.put name (.pinned target cpu))

/-- Show a server of the cloud. -/
def showServer {α : Type} (view : PinServer → α) (name : Str) :
    Run PinState CollocationExn α := fun state =>
  match state.servers.lookup name with
  | none => (.error (.other "Instance could not be found.".toList), state)
  | some server => (.ok (view server), state)

/-- A cloud that takes the first host and the first CPU that it can take. -/
def cloud (maxMicroversion : Microversion) : PinCloud PinState where
  maxMicroversion := maxMicroversion
  less version other := decide (version.Less other)
  getConfOpt := deployment.getConfOpt
  createTestServer := deployment.createTestServer
  getHostForServer := showServer PinServer.host
  getServerXml := showServer fun server => (deployment.guest server).xml
  liveMigrateServer := deployment.liveMigrateServer

end PinDeployment

section Manages

variable {deployment : PinDeployment} {state : PinState} {host name : Str}
  {server : PinServer}

theorem placements_eq_some_iff {placement : ServerPlacement} :
    deployment.placements state name = some placement ↔
      ∃ server, state.servers.lookup name = some server ∧
        deployment.placement server = placement :=
  Option.map_eq_some_iff

theorem placements_put (state : PinState) (name : Str) (server : PinServer) :
    deployment.placements (state.put name server) =
      Function.update (deployment.placements state) name
        (some (deployment.placement server)) := by
  funext other
  rw [PinDeployment.placements, PinState.put]
  by_cases same : other = name
  · rw [same, lookup_assign_self, Function.update_self]
    rfl
  · rw [lookup_assign_of_ne same, Function.update_of_ne same]
    rfl

theorem unused_iff {cpu : Nat} :
    (deployment.placements state).Unused host cpu ↔
      ∀ entry ∈ state.servers, entry.2 ≠ .pinned host cpu := by
  constructor
  · intro unused entry member same
    have there : deployment.placements state entry.1 =
        some ⟨host, .dedicated, {(cpu : Int)}⟩ := by
      apply placements_eq_some_iff.mpr
      refine ⟨.pinned host cpu, ?_, rfl⟩
      apply (lookup_eq_some_iff state.distinct).mpr
      rw [← same]
      exact member
    exact unused entry.1 _ there rfl rfl (Finset.mem_singleton_self _)
  · intro spared other placement there pinned here taken
    obtain ⟨server, found, rfl⟩ := placements_eq_some_iff.mp there
    have member := (lookup_eq_some_iff state.distinct).mp found
    cases server with
    | floating _ => cases pinned
    | pinned place bit =>
        change place = host at here
        have same : (cpu : Int) = bit := Finset.mem_singleton.mp taken
        apply spared _ member
        rw [here, Int.ofNat_inj.mp same]

theorem freeCpu_eq_some {cpu : Nat}
    (found : deployment.freeCpu state host = some cpu) :
    (cpu : Int) ∈ deployment.hosts.dedicated host ∧
      (deployment.placements state).Unused host cpu := by
  unfold PinDeployment.freeCpu at found
  constructor
  · rw [← deployment.dedicated_eq]
    exact CpuMask.mem_cpuSet.mpr ⟨cpu, List.mem_of_find?_eq_some found, rfl⟩
  · have spared := List.find?_some found
    exact unused_iff.mpr (of_decide_eq_true spared)

theorem exists_freeCpu
    (room : deployment.hosts.HasRoom (deployment.placements state) host) :
    ∃ cpu, deployment.freeCpu state host = some cpu := by
  obtain ⟨cpu, dedicated, unused⟩ := room
  rw [← deployment.dedicated_eq, CpuMask.mem_cpuSet] at dedicated
  obtain ⟨bit, member, rfl⟩ := dedicated
  apply Option.isSome_iff_exists.mp
  apply List.find?_isSome.mpr
  exact ⟨bit, member, decide_eq_true (unused_iff.mp unused)⟩

theorem avoids_eq_true_iff {hint : Option Str} :
    state.avoids hint host = true ↔
      ∀ other, hint = some other → ∀ placement,
        deployment.placements state other = some placement →
          placement.host ≠ host := by
  have shown : ∀ server, (deployment.placement server).host = server.host := by
    intro server
    cases server <;> rfl
  cases hint with
  | none =>
      apply iff_of_true rfl
      intro other absent
      cases absent
  | some other =>
      simp only [PinState.avoids, Option.bind_some, Option.some.injEq,
        forall_eq', placements_eq_some_iff]
      cases found : state.servers.lookup other with
      | none => simp
      | some server => simp [shown]

/-- A host admits a pinned server exactly if it makes an offer. -/
theorem admits_dedicated_iff {hint : Option Str} :
    deployment.hosts.Admits (deployment.placements state) host
        (.dedicated hint) ↔
      state.avoids hint host = true ∧
        deployment.hosts.HasRoom (deployment.placements state) host := by
  rw [avoids_eq_true_iff]
  cases hint with
  | none => simp [HostCpus.Admits]
  | some other =>
      simp only [Option.some.injEq, forall_eq']
      exact and_comm

theorem createTestServer_of_admits (request : PinRequest)
    (admitted : ∃ host ∈ deployment.hosts.names,
      deployment.hosts.Admits (deployment.placements state) host request) :
    ∃ server, deployment.createTestServer request state =
        (.ok state.newServer, state.put state.newServer server) ∧
      (deployment.placement server).policy = request.policy ∧
      (deployment.placement server).host ∈ deployment.hosts.names ∧
      deployment.hosts.Admits (deployment.placements state)
        (deployment.placement server).host request ∧
      deployment.hosts.Gives (deployment.placements state)
        (deployment.placement server) := by
  obtain ⟨host, known, admits⟩ := admitted
  cases request with
  | shared forced =>
      cases admits
      refine ⟨.floating host, ?_, rfl, known, rfl, rfl⟩
      exact if_pos known
  | dedicated hint =>
      rw [admits_dedicated_iff] at admits
      obtain ⟨cpu, free⟩ := exists_freeCpu admits.2
      simp only [PinDeployment.createTestServer]
      cases chosen : deployment.hosts.names.findSome?
          (deployment.offer state hint) with
      | none =>
          have refused := List.findSome?_eq_none_iff.mp chosen host known
          rw [PinDeployment.offer, if_pos admits.1, free] at refused
          cases refused
      | some found =>
          obtain ⟨place, bit⟩ := found
          obtain ⟨other, knownOther, offered⟩ :=
            List.exists_of_findSome?_eq_some chosen
          rw [PinDeployment.offer] at offered
          split at offered
          · next avoids =>
              obtain ⟨_, freeOther, same⟩ := Option.map_eq_some_iff.mp offered
              cases same
              obtain ⟨dedicated, unused⟩ := freeCpu_eq_some freeOther
              exact ⟨.pinned place bit, rfl, rfl, knownOther,
                admits_dedicated_iff.mpr ⟨avoids, bit, dedicated, unused⟩,
                bit, dedicated, unused, rfl⟩
          · cases offered

theorem showServer_of_lookup {α : Type} (view : PinServer → α)
    (found : state.servers.lookup name = some server) :
    PinDeployment.showServer view name state = (.ok (view server), state) := by
  rw [PinDeployment.showServer, found]

theorem shownBy_guest (server : PinServer) :
    (deployment.placement server).ShownBy (deployment.guest server) := by
  cases server with
  | pinned host cpu =>
      change CpuMask.unite [.single cpu] = {(cpu : Int)}
      ext bit
      simp [CpuMask.mem_unite, CpuMask.mem_cpuSet, CpuMask.single, eq_comm]
  | floating host => exact ⟨_, rfl, deployment.shared_eq host⟩

/-- The reference cloud gives its servers CPUs as it should. -/
theorem cloud_manages (deployment : PinDeployment)
    (maxMicroversion : Microversion) :
    Manages (deployment.cloud maxMicroversion) deployment.hosts
      deployment.placements where
  compares _ _ := decide_eq_true_iff
  dedicatedSet := deployment.dedicatedSet
  sharedSet := deployment.sharedSet
  finds := by
    intro state name placement there
    obtain ⟨server, found, rfl⟩ := placements_eq_some_iff.mp there
    have shown := showServer_of_lookup PinServer.host found
    cases server <;> exact shown
  shows := by
    intro state name placement there
    obtain ⟨server, found, rfl⟩ := placements_eq_some_iff.mp there
    exact ⟨deployment.guest server, showServer_of_lookup _ found,
      shownBy_guest server⟩
  boots := by
    intro state request admitted
    obtain ⟨server, created, policy, known, admits, gives⟩ :=
      createTestServer_of_admits request admitted
    refine ⟨_, _, _, created, ?_, policy, known, admits, gives,
      placements_put _ _ _⟩
    rw [PinDeployment.placements, Option.map_eq_none_iff]
    exact lookup_eq_none_iff_keys.mpr (newName_notMem _)
  moves := by
    intro state name placement target there known other room
    obtain ⟨server, found, rfl⟩ := placements_eq_some_iff.mp there
    cases server with
    | floating host =>
        refine ⟨deployment.hosts.shared target, _, ?_, rfl,
          placements_put state name (.floating target)⟩
        change deployment.liveMigrateServer name target state = _
        rw [PinDeployment.liveMigrateServer, found]
    | pinned host cpu =>
        obtain ⟨bit, free⟩ := exists_freeCpu (room rfl)
        obtain ⟨dedicated, unused⟩ := freeCpu_eq_some free
        refine ⟨{(bit : Int)}, _, ?_, ⟨bit, dedicated, unused, rfl⟩,
          placements_put state name (.pinned target bit)⟩
        change deployment.liveMigrateServer name target state = _
        rw [PinDeployment.liveMigrateServer, found]
        simp only [free]

end Manages

end Reference

section TwoHosts

/-- The mask of two consecutive CPUs. -/
def CpuMask.pair (cpu : Nat) : CpuMask :=
  ⟨[cpu, cpu + 1], List.pairwise_pair.mpr (Nat.lt_succ_self cpu)⟩

/-- The dedicated CPUs of both hosts. -/
def pinMask : CpuMask :=
  .pair 2

/-- The shared CPU of the first host and that of the second one. -/
def floatingMask (host : Str) : CpuMask :=
  if host = "first".toList then .single 0 else .single 1

def twoPinHosts : HostCpus where
  names := ["first".toList, "second".toList]
  named := by decide
  dedicated _ := pinMask.cpuSet
  shared host := (floatingMask host).cpuSet
  apart := by
    intro host
    unfold floatingMask
    split
    · decide
    · decide

def twoPinConf (host : Str) (key : Key) : Except Exn (Option Str) :=
  if key = CommandLine.cpuDedicatedSet then .ok (some "2-3".toList)
  else if key = ServiceManager.cpuSharedSet then
    .ok (some (floatingMask host).text)
  else .ok none

theorem forall_twoPinHosts {property : Str → Prop}
    (first : property "first".toList) (second : property "second".toList) :
    ∀ host ∈ twoPinHosts.names, property host :=
  List.forall_mem_cons.mpr ⟨first, List.forall_mem_singleton.mpr second⟩

def twoPinDeployment : PinDeployment where
  hosts := twoPinHosts
  getConfOpt := twoPinConf
  dedicated _ := pinMask
  shared := floatingMask
  dedicated_eq _ := rfl
  shared_eq _ := rfl
  dedicatedSet := forall_twoPinHosts (by decide) (by decide)
  sharedSet := forall_twoPinHosts (by decide) (by decide)

def noPinServers : PinState :=
  ⟨[], List.nodup_nil⟩

theorem twoPinHosts_room (host : Str) :
    twoPinHosts.HasRoomForTwo (twoPinDeployment.placements noPinServers)
      host := by
  have members : (2 : Int) ∈ pinMask.cpuSet ∧ (3 : Int) ∈ pinMask.cpuSet := by
    decide
  have unused : ∀ cpu,
      (twoPinDeployment.placements noPinServers).Unused host cpu := by
    intro cpu server placement there
    cases there
  exact ⟨2, members.1, 3, members.2, by decide, unused 2, unused 3⟩

theorem shared_twoPinHosts_ne {hostA hostB : Str}
    (knownA : hostA ∈ twoPinHosts.names) (knownB : hostB ∈ twoPinHosts.names)
    (different : hostA ≠ hostB) :
    twoPinHosts.shared hostA ≠ twoPinHosts.shared hostB := by
  revert different
  revert hostB
  revert hostA
  apply forall_twoPinHosts
  · apply forall_twoPinHosts
    · intro different
      exact absurd rfl different
    · intro _
      decide
  · apply forall_twoPinHosts
    · intro _
      decide
    · intro different
      exact absurd rfl different

/-- On two hosts with different shared CPUs the test passes with the latest
version, and not with one before the fix. -/
theorem testCollocationMigration_passes_twoHosts :
    ((twoPinDeployment.cloud .latest).testCollocationMigration
        noPinServers).1 = .ok ⟨⟩ ∧
      ((twoPinDeployment.cloud (.numbered 2 95)).testCollocationMigration
        noPinServers).1 ≠ .ok ⟨⟩ := by
  have first : "first".toList ∈ twoPinHosts.names := by decide
  have second : "second".toList ∈ twoPinHosts.names := by decide
  have different : "first".toList ≠ "second".toList := by decide
  constructor
  · obtain ⟨_, _, _, _, _, _, _, _, _, passes⟩ :=
      testCollocationMigration_passes_iff
        (cloud_manages twoPinDeployment .latest) first second different
        fun host _ => twoPinHosts_room host
    apply passes.mpr
    intro old
    cases old
  · obtain ⟨_, _, _, _, _, _, knownA, knownB, apart, passes⟩ :=
      testCollocationMigration_passes_iff
        (cloud_manages twoPinDeployment (.numbered 2 95)) first second
        different fun host _ => twoPinHosts_room host
    intro passed
    have old : Microversion.Less (.numbered 2 95) lpBug1869804Fix := by
      decide
    exact shared_twoPinHosts_ne knownA knownB apart (passes.mp passed old)

end TwoHosts

end Whitebox.Compute
