import Mathlib.Algebra.BigOperators.Group.List.Basic
import Whitebox.Compute.VgpuGuest
import Whitebox.Compute.VgpuProviders

/-!
# Accounting for virtual GPUs across a cold migration

The vGPU tests compare what the placement service reports for two hosts before
and after a cold migration.  A report is the sum over all providers of a host
and over all consumers.  If the service keeps a ledger of allocations, and the
other consumers have as much as before, the comparison says where the virtual
GPU of the server of the test is accounted for.
-/

namespace Whitebox.Compute

open Whitebox.Python
open Whitebox.Effect.Fallible

section Ledgers

/-- The virtual GPUs that a consumer has from a provider. -/
structure Allocation where
  consumer : Str
  provider : Str
  amount : Nat

abbrev Ledger := List Allocation

namespace Ledger

/-- What is taken from the providers. -/
def taken (ledger : Ledger) (providers : List Str) : Int :=
  ((ledger.filter (·.provider ∈ providers)).map
    fun allocation : Allocation => (allocation.amount : Int)).sum

/-- The allocations of one consumer. -/
def of (ledger : Ledger) (consumer : Str) : Ledger :=
  ledger.filter (·.consumer = consumer)

/-- The allocations of the other consumers. -/
def others (ledger : Ledger) (consumer : Str) : Ledger :=
  ledger.filter (·.consumer ≠ consumer)

theorem taken_cons (allocation : Allocation) (ledger : Ledger)
    (providers : List Str) :
    taken (allocation :: ledger) providers =
      (if allocation.provider ∈ providers then (allocation.amount : Int)
        else 0) + taken ledger providers := by
  rw [taken, taken, List.filter_cons]
  by_cases inside : allocation.provider ∈ providers
  · simp [inside]
  · simp [inside]

theorem taken_eq_add (ledger : Ledger) (consumer : Str)
    (providers : List Str) :
    ledger.taken providers =
      (ledger.of consumer).taken providers +
        (ledger.others consumer).taken providers := by
  induction ledger with
  | nil => rfl
  | cons allocation ledger induction =>
      rw [of, others] at induction ⊢
      by_cases own : allocation.consumer = consumer
      · rw [List.filter_cons_of_pos (by simpa using own),
          List.filter_cons_of_neg (by simpa using own), taken_cons, taken_cons,
          induction, add_assoc]
      · rw [List.filter_cons_of_neg (by simpa using own),
          List.filter_cons_of_pos (by simpa using own), taken_cons, taken_cons,
          induction]
        omega

theorem taken_cons_provider (ledger : Ledger) {provider : Str}
    {providers : List Str} (fresh : provider ∉ providers) :
    ledger.taken (provider :: providers) =
      ledger.taken [provider] + ledger.taken providers := by
  induction ledger with
  | nil => rfl
  | cons allocation ledger induction =>
      simp only [taken_cons, induction, List.mem_cons, List.not_mem_nil,
        or_false]
      by_cases same : allocation.provider = provider
      · rw [← same] at fresh
        simp only [same, true_or, if_true]
        rw [← same, if_neg fresh]
        omega
      · simp only [same, false_or, if_false]
        omega

/-- What is taken from different providers adds up. -/
theorem sum_taken (ledger : Ledger) {providers : List Str}
    (distinct : providers.Nodup) :
    (providers.map fun provider => ledger.taken [provider]).sum =
      ledger.taken providers := by
  induction providers with
  | nil => simp [taken]
  | cons provider providers induction =>
      obtain ⟨fresh, rest⟩ := List.nodup_cons.mp distinct
      rw [List.map_cons, List.sum_cons, induction rest,
        taken_cons_provider ledger fresh]

end Ledger

end Ledgers

section Tests

inductive VgpuMoment where
  | start
  | created
  | migrated
  | checked
  | deleted
deriving DecidableEq

/-- The message of an assertion of the vGPU tests. -/
inductive VgpuMessage where
  /-- `assertEqual` or `assertNotEqual` on hosts, without a message. -/
  | hosts (source target : Str)
  /-- `"Expected %d xml hostdev vgpu element(s) on instance %s but instead found
  %d"`. -/
  | hostdevs (expected : Int) (found : Nat)
  /-- A format with a host and usages. -/
  | usage (format host : Str) (usages : List Int)

inductive VgpuTestExn where
  | placement (error : VgpuExn)
  | guest (error : GuestExn)
  | cloud (message : Str)
  | failureException (message : VgpuMessage)

/-- What one of the tests sees of the cloud, moment by moment. -/
structure VgpuRun where
  placement : VgpuMoment → PlacementState
  /-- `get_host_for_server`. -/
  host : VgpuMoment → Str
  /-- `get_host_other_than`, before the migration. -/
  destHost : Str
  /-- The number of `./devices/hostdev[@type='mdev']` elements. -/
  vgpuDevices : VgpuMoment → Nat
  /-- The output of the command that looks for the vendor in the guest. -/
  sysOut : VgpuMoment → Option Str
  vendor : VendorId
  createInstance : Except VgpuTestExn PUnit
  /-- The request for the migration and the wait for `VERIFY_RESIZE`. -/
  migrateServer : Except VgpuTestExn PUnit
  /-- The request to confirm or to revert and the wait for `ACTIVE`. -/
  finishResize : (revert : Bool) → Except VgpuTestExn PUnit
  deleteServer : Except VgpuTestExn PUnit

def vgpuAmountPerInstance : Int := 1

namespace VgpuRun

variable (run : VgpuRun)

def inventories (moment : VgpuMoment) : Except VgpuTestExn InventoryMap :=
  (getVgpuInventoriesForDeployment (run.placement moment).service
    (run.placement moment).hostnames).mapError .placement

def usage (moment : VgpuMoment) (hostname : Str) : Except VgpuTestExn Int :=
  (getVgpuUtilForHost (run.placement moment).service hostname).mapError
    .placement

/-- `assertEqual` or `assertNotEqual`, as the migration was reverted or not. -/
def assertHosts (revert : Bool) (srcHost dstHost : Str) :
    Except VgpuTestExn PUnit :=
  require (if revert then srcHost = dstHost else srcHost ≠ dstHost)
    (.failureException (.hosts srcHost dstHost))

def coldMigrateServer (revert : Bool) : Except VgpuTestExn PUnit := do
  run.migrateServer
  run.finishResize revert
  assertHosts revert (run.host .created) (run.host .migrated)

/-- The vendor is only looked for if there is a device to find. -/
def validateVendor (moment : VgpuMoment) (expectedDeviceCount : Int) :
    Except VgpuTestExn PUnit :=
  if expectedDeviceCount = 0 then pure ⟨⟩
  else (assertVendorIdInGuest run.vendor (run.sysOut moment)
    expectedDeviceCount).mapError .guest

def validateVgpuInstance (moment : VgpuMoment) (expectedDeviceCount : Int) :
    Except VgpuTestExn PUnit := do
  require (expectedDeviceCount = run.vgpuDevices moment) (.failureException
    (.hostdevs expectedDeviceCount (run.vgpuDevices moment)))
  run.validateVendor moment expectedDeviceCount

def assertUsage (format host : Str) (shown : List Int)
    (expected found : Int) : Except VgpuTestExn PUnit :=
  require (expected = found) (.failureException (.usage format host shown))

/-- The deletion of the server and the look at the inventories. -/
def checkInventories (start : InventoryMap) : Except VgpuTestExn PUnit := do
  run.deleteServer
  let final ← run.inventories .deleted
  (validateFinalVgpuRpInventory start final).mapError .placement

def testVgpuColdMigration : Except VgpuTestExn PUnit := do
  let start ← run.inventories .start
  run.createInstance
  let preSrcUsage ← run.usage .created (run.host .created)
  let preDestUsage ← run.usage .created run.destHost
  run.coldMigrateServer false
  run.validateVgpuInstance .migrated vgpuAmountPerInstance
  let postSrcUsage ← run.usage .migrated (run.host .created)
  let postDestUsage ← run.usage .migrated run.destHost
  let expectedSrcUsage := preSrcUsage - vgpuAmountPerInstance
  assertUsage ("After migration, host %s expected to have %s usage for " ++
    "resource class VGPU but instead found %d").toList (run.host .created)
    [expectedSrcUsage, postSrcUsage] expectedSrcUsage postSrcUsage
  let expectedDestUsage := preDestUsage + vgpuAmountPerInstance
  assertUsage ("After migration, Host %s expected to have resource class " ++
    "VGPU usage totaling %d but instead found %d").toList run.destHost
    [expectedDestUsage, postDestUsage] expectedDestUsage postDestUsage
  run.checkInventories start

def testRevertVgpuColdMigration : Except VgpuTestExn PUnit := do
  let start ← run.inventories .start
  run.createInstance
  let preSrcUsage ← run.usage .created (run.host .created)
  let preDestUsage ← run.usage .created run.destHost
  run.coldMigrateServer true
  run.validateVgpuInstance .migrated vgpuAmountPerInstance
  let currentSrcUsage ← run.usage .migrated (run.host .created)
  let currentDestUsage ← run.usage .migrated run.destHost
  assertUsage ("After migration revert, host %s expected to not have any " ++
    "usage for resource class VGPU but instead found %d").toList run.destHost
    [currentDestUsage] preDestUsage currentDestUsage
  -- The message has the usage of the other host.
  assertUsage ("After migration revert host %s expected to have resource " ++
    "class VGPU usage totaling %d but instead found %d").toList
    (run.host .created) [preSrcUsage, currentDestUsage] preSrcUsage
    currentSrcUsage
  run.validateVgpuInstance .checked vgpuAmountPerInstance
  run.checkInventories start

end VgpuRun

end Tests

section Accounts

/-- The providers of the host, and a ledger that agrees with the usages the
placement service reports for them. -/
structure PlacementState.Accounts (state : PlacementState) (hostname : Str)
    (providers : List Str) (ledger : Ledger) : Prop where
  tree : ∃ tree : ProviderTree state.service hostname,
    tree.uuids.Perm providers
  usages : ∀ uuid ∈ providers,
    vgpuUsage state.service uuid = ledger.taken [uuid]

theorem getVgpuUtilForHost_of_accounts {state : PlacementState}
    {hostname : Str} {providers : List Str} {ledger : Ledger}
    (accounts : state.Accounts hostname providers ledger) :
    getVgpuUtilForHost state.service hostname =
      .ok (ledger.taken providers) := by
  obtain ⟨tree, perm⟩ := accounts.tree
  have distinct : providers.Nodup := perm.nodup_iff.mp tree.distinct
  rw [getVgpuUtilForHost, tree.getRpUuidFromHostname_eq]
  change Except.ok (getUsageForResourceClassVgpu state.service
    (getAllChildrenOfResourceProvider state.service tree.root.uuid)) = _
  rw [tree.getAllChildren_eq, getUsage_eq_sum,
    (perm.map (vgpuUsage state.service)).sum_eq,
    List.map_congr_left accounts.usages, ledger.sum_taken distinct]

/-- The course of a migration as far as the tests do not decide it: the
requests are answered, the usages come from a ledger before and after, the
server has one virtual GPU on its host, and the other consumers have as much
after the migration as before. -/
structure VgpuRun.Proceeds (run : VgpuRun) (server : Str)
    (before after : Ledger) (source target : List Str) : Prop where
  started : ∃ start, run.inventories .start = .ok start
  created : run.createInstance = .ok ⟨⟩
  migrated : run.migrateServer = .ok ⟨⟩
  finished : ∀ revert, run.finishResize revert = .ok ⟨⟩
  deleted : run.deleteServer = .ok ⟨⟩
  ended : ∃ final, run.inventories .deleted = .ok final
  sourceBefore : (run.placement .created).Accounts (run.host .created) source
    before
  targetBefore : (run.placement .created).Accounts run.destHost target before
  sourceAfter : (run.placement .migrated).Accounts (run.host .created) source
    after
  targetAfter : (run.placement .migrated).Accounts run.destHost target after
  onSource : (before.of server).taken source = 1
  notOnTarget : (before.of server).taken target = 0
  othersOnSource : (after.others server).taken source =
    (before.others server).taken source
  othersOnTarget : (after.others server).taken target =
    (before.others server).taken target

/-- The guest shows the number of virtual GPUs to the test. -/
def VgpuRun.Finds (run : VgpuRun) (moment : VgpuMoment) (found : Nat) : Prop :=
  run.sysOut moment = some (str found ++ ['\n'])

/-- No provider of virtual GPUs from the start is lost or changed. -/
def VgpuRun.KeepsInventories (run : VgpuRun) : Prop :=
  ∀ uuid, (run.placement .start).Offers uuid →
    (run.placement .start).KeptIn (run.placement .deleted) uuid

section Checks

variable {run : VgpuRun} {moment : VgpuMoment} {value : PUnit}

theorem usage_of_accounts {hostname : Str} {providers : List Str}
    {ledger : Ledger}
    (accounts : (run.placement moment).Accounts hostname providers ledger) :
    run.usage moment hostname = .ok (ledger.taken providers) := by
  rw [VgpuRun.usage, getVgpuUtilForHost_of_accounts accounts]
  rfl

theorem validateVgpuInstance_eq_ok_iff {found : Nat}
    (finds : run.Finds moment found) :
    run.validateVgpuInstance moment vgpuAmountPerInstance = .ok value ↔
      run.vgpuDevices moment = 1 ∧ found = 1 := by
  have one : (vgpuAmountPerInstance = 0) = False := by
    simp [vgpuAmountPerInstance]
  simp only [VgpuRun.validateVgpuInstance, VgpuRun.validateVendor, one,
    if_false, bind_eq_ok_iff, mapError_eq_ok_iff, require_eq_ok_iff,
    exists_const]
  rw [finds, assertVendorIdInGuest_eq_ok_iff]
  simp only [vgpuAmountPerInstance]
  omega

theorem checkInventories_eq_ok_iff {start final : InventoryMap}
    (deleted : run.deleteServer = .ok ⟨⟩)
    (readsStart : run.inventories .start = .ok start)
    (readsFinal : run.inventories .deleted = .ok final) :
    run.checkInventories start = .ok value ↔ run.KeepsInventories := by
  simp only [VgpuRun.checkInventories, bind_eq_ok_iff, deleted, readsFinal,
    exists_const, Except.ok.injEq, exists_eq_left', mapError_eq_ok_iff,
    true_and]
  rw [VgpuRun.inventories, mapError_eq_ok_iff] at readsStart readsFinal
  exact validateFinal_eq_ok_iff
    (getVgpuInventoriesForDeployment_gathered readsStart)
    (getVgpuInventoriesForDeployment_gathered readsFinal)

end Checks

section Verdicts

variable {run : VgpuRun} {server : Str} {before after : Ledger}
  {source target : List Str} {found : Nat}

/-- The usages of the hosts change as those of the server do. -/
theorem VgpuRun.Proceeds.usages
    (proceeds : run.Proceeds server before after source target) :
    after.taken source =
        before.taken source + ((after.of server).taken source - 1) ∧
      after.taken target =
        before.taken target + (after.of server).taken target := by
  rw [before.taken_eq_add server source, after.taken_eq_add server source,
    before.taken_eq_add server target, after.taken_eq_add server target,
    proceeds.onSource, proceeds.notOnTarget, proceeds.othersOnSource,
    proceeds.othersOnTarget]
  omega

/-- The test of a cold migration passes exactly if the server is on another
host, its guest has one virtual GPU, its allocation has moved to the providers
of the target, and the inventories are kept. -/
theorem testVgpuColdMigration_passes_iff
    (proceeds : run.Proceeds server before after source target)
    (finds : run.Finds .migrated found) :
    run.testVgpuColdMigration = .ok ⟨⟩ ↔
      run.host .created ≠ run.host .migrated ∧
      (run.vgpuDevices .migrated = 1 ∧ found = 1) ∧
      (after.of server).taken source = 0 ∧
      (after.of server).taken target = 1 ∧
      run.KeepsInventories := by
  obtain ⟨start, readsStart⟩ := proceeds.started
  obtain ⟨final, readsFinal⟩ := proceeds.ended
  obtain ⟨onSource, onTarget⟩ := proceeds.usages
  have left : before.taken source - vgpuAmountPerInstance =
      after.taken source ↔ (after.of server).taken source = 0 := by
    rw [onSource, vgpuAmountPerInstance]
    omega
  have arrived : before.taken target + vgpuAmountPerInstance =
      after.taken target ↔ (after.of server).taken target = 1 := by
    rw [onTarget, vgpuAmountPerInstance]
    omega
  simp only [VgpuRun.testVgpuColdMigration, VgpuRun.coldMigrateServer,
    VgpuRun.assertHosts, VgpuRun.assertUsage, bind_assoc, bind_eq_ok_iff,
    readsStart, proceeds.created, usage_of_accounts proceeds.sourceBefore,
    usage_of_accounts proceeds.targetBefore,
    usage_of_accounts proceeds.sourceAfter,
    usage_of_accounts proceeds.targetAfter, proceeds.migrated,
    proceeds.finished, validateVgpuInstance_eq_ok_iff finds,
    checkInventories_eq_ok_iff proceeds.deleted readsStart readsFinal,
    require_eq_ok_iff, exists_const, Except.ok.injEq, exists_eq_left',
    Bool.false_eq_true, if_false, true_and, left, arrived]

/-- The test of a migration that is reverted passes exactly if the server is
back on its host, its guest has one virtual GPU at both looks, its allocation is
where it was, and the inventories are kept. -/
theorem testRevertVgpuColdMigration_eq_ok_iff {foundLater : Nat}
    (proceeds : run.Proceeds server before after source target)
    (finds : run.Finds .migrated found)
    (findsLater : run.Finds .checked foundLater) :
    run.testRevertVgpuColdMigration = .ok ⟨⟩ ↔
      run.host .created = run.host .migrated ∧
      (run.vgpuDevices .migrated = 1 ∧ found = 1) ∧
      (after.of server).taken target = 0 ∧
      (after.of server).taken source = 1 ∧
      (run.vgpuDevices .checked = 1 ∧ foundLater = 1) ∧
      run.KeepsInventories := by
  obtain ⟨start, readsStart⟩ := proceeds.started
  obtain ⟨final, readsFinal⟩ := proceeds.ended
  obtain ⟨onSource, onTarget⟩ := proceeds.usages
  have back : before.taken source = after.taken source ↔
      (after.of server).taken source = 1 := by
    rw [onSource]
    omega
  have away : before.taken target = after.taken target ↔
      (after.of server).taken target = 0 := by
    rw [onTarget]
    omega
  simp only [VgpuRun.testRevertVgpuColdMigration, VgpuRun.coldMigrateServer,
    VgpuRun.assertHosts, VgpuRun.assertUsage, bind_assoc, bind_eq_ok_iff,
    readsStart, proceeds.created, usage_of_accounts proceeds.sourceBefore,
    usage_of_accounts proceeds.targetBefore,
    usage_of_accounts proceeds.sourceAfter,
    usage_of_accounts proceeds.targetAfter, proceeds.migrated,
    proceeds.finished, validateVgpuInstance_eq_ok_iff finds,
    validateVgpuInstance_eq_ok_iff findsLater,
    checkInventories_eq_ok_iff proceeds.deleted readsStart readsFinal,
    require_eq_ok_iff, exists_const, Except.ok.injEq, exists_eq_left',
    if_true, true_and, back, away]

end Verdicts

end Accounts

section TwoHosts

/-- The provider of a host and one for its GPU. -/
def hostProviders (hostname : Str) : List Str :=
  [hostname, hostname ++ "-gpu".toList]

theorem hostProviders_distinct (hostname : Str) :
    (hostProviders hostname).Nodup := by
  simp [hostProviders]

/-- A service with these providers, whose usages come from the ledger. -/
def ledgerService (ledger : Ledger) : PlacementService where
  named hostname := [describe hostname]
  inTree uuid := (hostProviders uuid).map describe
  usages uuid := [(vgpuClass, ledger.taken [uuid])]
  inventories _ := [(vgpuClass, .object [])]

theorem ledgerService_accounts (ledger : Ledger) (hostnames : List Str)
    (hostname : Str) :
    PlacementState.Accounts ⟨ledgerService ledger, hostnames⟩ hostname
      (hostProviders hostname) ledger where
  tree :=
    ⟨⟨describe hostname, rfl, List.mem_cons_self,
      hostProviders_distinct hostname⟩, .refl _⟩
  usages _ _ := rfl

def hostA : Str := "a".toList

def hostB : Str := "b".toList

/-- The virtual GPUs of another server on the second host. -/
def otherAllocation : Allocation :=
  ⟨"other".toList, hostB ++ "-gpu".toList, 2⟩

/-- The ledger while the server of the test is on the host. -/
def ledgerWith (hostname : Str) : Ledger :=
  [⟨"server".toList, hostname ++ "-gpu".toList, 1⟩, otherAllocation]

/-- A migration from the first host to the second one. -/
def twoHostRun : VgpuRun where
  placement
    | .start => ⟨ledgerService [otherAllocation], [hostA, hostB]⟩
    | .created => ⟨ledgerService (ledgerWith hostA), [hostA, hostB]⟩
    | .migrated => ⟨ledgerService (ledgerWith hostB), [hostA, hostB]⟩
    | .checked => ⟨ledgerService (ledgerWith hostB), [hostA, hostB]⟩
    | .deleted => ⟨ledgerService [otherAllocation], [hostA, hostB]⟩
  host
    | .start => hostA
    | .created => hostA
    | _ => hostB
  destHost := hostB
  vgpuDevices _ := 1
  sysOut _ := some "1\n".toList
  vendor := ⟨"10de".toList, by decide, by decide⟩
  createInstance := .ok ⟨⟩
  migrateServer := .ok ⟨⟩
  finishResize _ := .ok ⟨⟩
  deleteServer := .ok ⟨⟩

theorem testVgpuColdMigration_passes_twoHosts :
    twoHostRun.testVgpuColdMigration = .ok ⟨⟩ := by
  have proceeds : twoHostRun.Proceeds "server".toList (ledgerWith hostA)
      (ledgerWith hostB) (hostProviders hostA) (hostProviders hostB) :=
    { started := ⟨_, rfl⟩
      created := rfl
      migrated := rfl
      finished := fun _ => rfl
      deleted := rfl
      ended := ⟨_, rfl⟩
      sourceBefore := ledgerService_accounts _ _ hostA
      targetBefore := ledgerService_accounts _ _ hostB
      sourceAfter := ledgerService_accounts _ _ hostA
      targetAfter := ledgerService_accounts _ _ hostB
      onSource := by decide
      notOnTarget := by decide
      othersOnSource := by decide
      othersOnTarget := by decide }
  have finds : twoHostRun.Finds .migrated 1 := rfl
  apply (testVgpuColdMigration_passes_iff proceeds finds).mpr
  refine ⟨by decide, ⟨rfl, rfl⟩, by decide, by decide, ?_⟩
  intro uuid offers
  exact ⟨offers, rfl⟩

end TwoHosts

end Whitebox.Compute
