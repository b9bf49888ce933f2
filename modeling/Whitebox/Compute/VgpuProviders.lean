import Mathlib.Algebra.BigOperators.Group.List.Basic
import Mathlib.Data.List.Perm.Basic
import Whitebox.Collection.Association
import Whitebox.Effect.Fallible
import Whitebox.Utils.Json

/-!
# Resource providers of virtual GPUs

The vGPU tests ask the placement service for the providers in the tree of a
compute host, for their usages and for their inventories.  The provider of the
host is meant to be left out, but the filter compares the description of each
provider with a UUID.  The last check of a test looks at the inventories that
were there at its start, and not at those that have appeared since.
-/

namespace Whitebox.Compute

open Whitebox.Association
open Whitebox.Effect.Fallible
open Whitebox.Python
open Whitebox.Utils

def uuidKey : Str := "uuid".toList

def vgpuClass : Str := "VGPU".toList

/-- A provider as the placement service describes it. -/
structure ResourceProvider where
  members : List (Str × Json)
  uuid : Str
  identified : members.lookup uuidKey = some (.string uuid)

/-- The answers of the placement service in one state of it. -/
structure PlacementService where
  /-- `list_resource_providers(name=hostname)`. -/
  named : Str → List ResourceProvider
  /-- `list_resource_providers(in_tree=rp_uuid)`. -/
  inTree : Str → List ResourceProvider
  /-- `list_resource_provider_usages(rp_uuid)`. -/
  usages : Str → List (Str × Int)
  /-- `list_resource_provider_inventories(rp_uuid)`. -/
  inventories : Str → List (Str × Json)

inductive VgpuExn where
  | indexError
  /-- `'The inventories have changed for RP %s between the start %s and the
  end %s'`. -/
  | inventoriesChanged (rpUuid : Str) (start final : Json)

/-- A `dict` from providers to their inventories. -/
abbrev InventoryMap := List (Str × Json)

section Service

variable (service : PlacementService)

def getRpUuidFromHostname (hostname : Str) : Except VgpuExn Str :=
  match service.named hostname with
  | [] => .error .indexError
  | provider :: _ => .ok provider.uuid

/-- `_get_all_children_of_resource_provider`, which compares a `dict` with a
`str`. -/
def getAllChildrenOfResourceProvider (rpUuid : Str) : List Str :=
  ((service.inTree rpUuid).filter fun provider =>
    !pyEq (.object provider.members) (.string rpUuid)).map
      ResourceProvider.uuid

/-- `rp_usages.get('VGPU', 0)`. -/
def vgpuUsage (rpUuid : Str) : Int :=
  ((service.usages rpUuid).lookup vgpuClass).getD 0

def getUsageForResourceClassVgpu (rpUuids : List Str) : Int :=
  rpUuids.foldl (fun total rpUuid => total + vgpuUsage service rpUuid) 0

def getVgpuUtilForHost (hostname : Str) : Except VgpuExn Int := do
  let rpUuid ← getRpUuidFromHostname service hostname
  let rpChildren := getAllChildrenOfResourceProvider service rpUuid
  pure (getUsageForResourceClassVgpu service rpChildren)

/-- One turn of the inner loop of `_get_vgpu_inventories_for_deployment`. -/
def addInventory (inventories : InventoryMap) (rpUuid : Str) : InventoryMap :=
  if vgpuClass ∈ (service.inventories rpUuid).map Prod.fst then
    assign rpUuid (.object (service.inventories rpUuid)) inventories
  else inventories

/-- One turn of the outer loop. -/
def addHostInventories (inventories : InventoryMap) (hostname : Str) :
    Except VgpuExn InventoryMap := do
  let rpUuid ← getRpUuidFromHostname service hostname
  let rpChildren := getAllChildrenOfResourceProvider service rpUuid
  pure (rpChildren.foldl (addInventory service) inventories)

def getVgpuInventoriesForDeployment (hostnames : List Str) :
    Except VgpuExn InventoryMap :=
  hostnames.foldlM (addHostInventories service) []

end Service

/-- `inventories.get(rp_uuid)`. -/
def inventoryOf (inventories : InventoryMap) (rpUuid : Str) : Json :=
  (inventories.lookup rpUuid).getD .null

/-- The assertion on one provider. -/
def assertUnchanged (start final : InventoryMap) (rpUuid : Str) :
    Except VgpuExn Unit :=
  if pyEq (inventoryOf start rpUuid) (inventoryOf final rpUuid) then .ok ()
  else .error (.inventoriesChanged rpUuid (inventoryOf start rpUuid)
    (inventoryOf final rpUuid))

def validateFinalVgpuRpInventory (start final : InventoryMap) :
    Except VgpuExn Unit :=
  (start.map Prod.fst).forM (assertUnchanged start final)

section Children

/-- The providers of a compute host, its own provider included. -/
structure ProviderTree (service : PlacementService) (hostname : Str) where
  root : ResourceProvider
  first : (service.named hostname).head? = some root
  listed : root.uuid ∈ (service.inTree root.uuid).map ResourceProvider.uuid
  distinct : ((service.inTree root.uuid).map ResourceProvider.uuid).Nodup

namespace ProviderTree

variable {service : PlacementService} {hostname : Str}
  (tree : ProviderTree service hostname)

def uuids : List Str :=
  (service.inTree tree.root.uuid).map ResourceProvider.uuid

/-- The providers below the one of the host. -/
def children : List Str :=
  tree.uuids.filter (· ≠ tree.root.uuid)

theorem getRpUuidFromHostname_eq :
    getRpUuidFromHostname service hostname = .ok tree.root.uuid := by
  have first := tree.first
  unfold getRpUuidFromHostname
  cases listed : service.named hostname with
  | nil =>
      rw [listed] at first
      cases first
  | cons provider others =>
      rw [listed] at first
      cases first
      rfl

/-- No description of a provider is a UUID. -/
theorem getAllChildren_eq :
    getAllChildrenOfResourceProvider service tree.root.uuid = tree.uuids := by
  unfold getAllChildrenOfResourceProvider uuids
  rw [List.filter_eq_self.mpr]
  intro provider _
  rw [pyEq]
  · rfl
  all_goals simp

end ProviderTree

theorem getUsage_eq_sum (service : PlacementService) (rpUuids : List Str) :
    getUsageForResourceClassVgpu service rpUuids =
      (rpUuids.map (vgpuUsage service)).sum := by
  have running : ∀ total : Int,
      rpUuids.foldl (fun total rpUuid => total + vgpuUsage service rpUuid)
        total = total + (rpUuids.map (vgpuUsage service)).sum := by
    induction rpUuids with
    | nil => simp
    | cons rpUuid rpUuids induction =>
        intro total
        rw [List.foldl_cons, induction, List.map_cons, List.sum_cons,
          add_assoc]
  rw [getUsageForResourceClassVgpu, running, zero_add]

/-- The list has each child of the host provider once and nothing else. -/
structure ListsChildren {service : PlacementService} {hostname : Str}
    (tree : ProviderTree service hostname) (rpUuids : List Str) : Prop where
  distinct : rpUuids.Nodup
  members : ∀ uuid, uuid ∈ rpUuids ↔ uuid ∈ tree.uuids ∧ uuid ≠ tree.root.uuid

/-- The usage of the whole tree is the one of the root and the children. -/
theorem ProviderTree.usage_uuids {service : PlacementService} {hostname : Str}
    (tree : ProviderTree service hostname) :
    (tree.uuids.map (vgpuUsage service)).sum =
      vgpuUsage service tree.root.uuid +
        (tree.children.map (vgpuUsage service)).sum := by
  have order : tree.uuids.Perm (tree.root.uuid :: tree.children) := by
    have below : tree.uuids.erase tree.root.uuid = tree.children := by
      have distinct : tree.uuids.Nodup := tree.distinct
      rw [distinct.erase_eq_filter]
      apply List.filter_congr
      intro uuid _
      by_cases same : uuid = tree.root.uuid
      · simp [same]
      · simp [same]
    rw [← below]
    exact List.perm_cons_erase tree.listed
  rw [(order.map (vgpuUsage service)).sum_eq, List.map_cons, List.sum_cons]

/-- The provider of the host is never left out of the children, and the usage
of the host is the one of the children exactly if its own usage is zero. -/
theorem getVgpuUtilForHost_root (service : PlacementService) (hostname : Str)
    (tree : ProviderTree service hostname) :
    ¬ ListsChildren tree
        (getAllChildrenOfResourceProvider service tree.root.uuid) ∧
      (getVgpuUtilForHost service hostname =
          .ok (tree.children.map (vgpuUsage service)).sum ↔
        vgpuUsage service tree.root.uuid = 0) := by
  constructor
  · intro lists
    rw [tree.getAllChildren_eq] at lists
    exact ((lists.members tree.root.uuid).mp tree.listed).2 rfl
  · have returned : getVgpuUtilForHost service hostname =
        .ok (tree.uuids.map (vgpuUsage service)).sum := by
      rw [getVgpuUtilForHost, tree.getRpUuidFromHostname_eq]
      change Except.ok (getUsageForResourceClassVgpu service
        (getAllChildrenOfResourceProvider service tree.root.uuid)) = _
      rw [tree.getAllChildren_eq, getUsage_eq_sum]
    rw [returned, tree.usage_uuids, Except.ok.injEq]
    exact add_eq_right

def describe (uuid : Str) : ResourceProvider :=
  ⟨[(uuidKey, .string uuid)], uuid, rfl⟩

/-- One host with the given providers below it, all with one virtual GPU in
use, as many as the host itself reports. -/
def gpuService (children : List Str) : PlacementService where
  named := fun _ => [describe "host-rp".toList]
  inTree := fun _ => (("host-rp".toList) :: children).map describe
  usages := fun _ => [(vgpuClass, 1)]
  inventories := fun uuid =>
    if uuid ∈ children then [(vgpuClass, .object [])] else []

def gpuTree : ProviderTree (gpuService ["gpu-rp".toList]) "host".toList where
  root := describe "host-rp".toList
  first := rfl
  listed := by decide
  distinct := by decide

/-- The usage that the host reports is counted with the one of its child. -/
theorem getVgpuUtilForHost_gpuTree :
    getAllChildrenOfResourceProvider (gpuService ["gpu-rp".toList])
        gpuTree.root.uuid = ["host-rp".toList, "gpu-rp".toList] ∧
      getVgpuUtilForHost (gpuService ["gpu-rp".toList]) "host".toList =
        .ok 2 ∧
      (gpuTree.children.map
        (vgpuUsage (gpuService ["gpu-rp".toList]))).sum = 1 :=
  ⟨rfl, rfl, rfl⟩

end Children

section Inventories

/-- The provider is found below one of the hosts. -/
def Below (service : PlacementService) (hostnames : List Str)
    (uuid : Str) : Prop :=
  ∃ hostname ∈ hostnames, ∃ rpUuid,
    getRpUuidFromHostname service hostname = .ok rpUuid ∧
      uuid ∈ getAllChildrenOfResourceProvider service rpUuid

/-- The provider is found below one of the hosts and has a VGPU inventory. -/
def Offers (service : PlacementService) (hostnames : List Str)
    (uuid : Str) : Prop :=
  vgpuClass ∈ (service.inventories uuid).map Prod.fst ∧
    Below service hostnames uuid

/-- The map has the inventories of the providers that were looked at. -/
structure Gathered (service : PlacementService) (seen : Str → Prop)
    (inventories : InventoryMap) : Prop where
  distinct : (inventories.map Prod.fst).Nodup
  entries : ∀ uuid value, inventories.lookup uuid = some value ↔
    vgpuClass ∈ (service.inventories uuid).map Prod.fst ∧ seen uuid ∧
      value = .object (service.inventories uuid)

variable {service : PlacementService} {seen : Str → Prop}
  {inventories : InventoryMap}

theorem Gathered.addInventory (gathered : Gathered service seen inventories)
    (rpUuid : Str) :
    Gathered service (fun uuid => seen uuid ∨ uuid = rpUuid)
      (addInventory service inventories rpUuid) := by
  unfold Compute.addInventory
  by_cases vgpu : vgpuClass ∈ (service.inventories rpUuid).map Prod.fst
  · rw [if_pos vgpu]
    refine ⟨nodup_keys_assign gathered.distinct, ?_⟩
    intro uuid value
    by_cases same : uuid = rpUuid
    · subst same
      simp [lookup_assign_self, vgpu, eq_comm]
    · rw [lookup_assign_of_ne same, gathered.entries]
      simp [same]
  · rw [if_neg vgpu]
    refine ⟨gathered.distinct, ?_⟩
    intro uuid value
    rw [gathered.entries]
    by_cases same : uuid = rpUuid
    · subst same
      simp [vgpu]
    · simp [same]

theorem Gathered.foldl_addInventory
    (gathered : Gathered service seen inventories) (rpUuids : List Str) :
    Gathered service (fun uuid => seen uuid ∨ uuid ∈ rpUuids)
      (rpUuids.foldl (Compute.addInventory service) inventories) := by
  induction rpUuids generalizing seen inventories with
  | nil => simpa using gathered
  | cons rpUuid rpUuids induction =>
      have later := induction (gathered.addInventory rpUuid)
      simpa [or_assoc] using later

theorem Gathered.foldlM_addHostInventories {hostnames : List Str}
    {result : InventoryMap} (gathered : Gathered service seen inventories)
    (returned : hostnames.foldlM (addHostInventories service) inventories =
      .ok result) :
    Gathered service (fun uuid => seen uuid ∨ Below service hostnames uuid)
      result := by
  induction hostnames generalizing seen inventories with
  | nil =>
      cases returned
      simpa [Below] using gathered
  | cons hostname hostnames induction =>
      obtain ⟨next, added, rest⟩ := foldlM_cons_eq_ok_iff.mp returned
      obtain ⟨rpUuid, found, folded⟩ := bind_eq_ok_iff.mp added
      cases folded
      have later := induction (gathered.foldl_addInventory
        (getAllChildrenOfResourceProvider service rpUuid)) rest
      simpa [Below, found, or_assoc] using later

/-- The map of a deployment has the inventories of the providers that offer
virtual GPUs. -/
theorem getVgpuInventoriesForDeployment_gathered {hostnames : List Str}
    (returned : getVgpuInventoriesForDeployment service hostnames =
      .ok inventories) :
    Gathered service (Below service hostnames) inventories := by
  have begins : Gathered service (fun _ => False) [] :=
    ⟨List.nodup_nil, by simp⟩
  simpa using begins.foldlM_addHostInventories returned

theorem Gathered.mem_keys_iff {hostnames : List Str}
    (gathered : Gathered service (Below service hostnames) inventories)
    {uuid : Str} :
    uuid ∈ inventories.map Prod.fst ↔ Offers service hostnames uuid := by
  rw [← not_iff_not, ← lookup_eq_none_iff_keys]
  cases found : inventories.lookup uuid with
  | none =>
      refine iff_of_true rfl ?_
      intro offers
      have entry := (gathered.entries uuid _).mpr ⟨offers.1, offers.2, rfl⟩
      rw [found] at entry
      cases entry
  | some value =>
      have entry := (gathered.entries uuid value).mp found
      exact iff_of_false (by simp) fun absent =>
        absent ⟨entry.1, entry.2.1⟩

theorem Gathered.inventoryOf_eq {hostnames : List Str}
    (gathered : Gathered service (Below service hostnames) inventories)
    {uuid : Str} (offers : Offers service hostnames uuid) :
    inventoryOf inventories uuid = .object (service.inventories uuid) := by
  have entry := (gathered.entries uuid _).mpr ⟨offers.1, offers.2, rfl⟩
  rw [inventoryOf, entry]
  rfl

theorem Gathered.inventoryOf_null {hostnames : List Str}
    (gathered : Gathered service (Below service hostnames) inventories)
    {uuid : Str} (missing : ¬ Offers service hostnames uuid) :
    inventoryOf inventories uuid = .null := by
  rw [← gathered.mem_keys_iff, ← lookup_eq_none_iff_keys] at missing
  rw [inventoryOf, missing]
  rfl

end Inventories

section Comparison

/-- A state of the placement service with the compute hosts of that time. -/
structure PlacementState where
  service : PlacementService
  hostnames : List Str

namespace PlacementState

def Offers (state : PlacementState) (uuid : Str) : Prop :=
  Compute.Offers state.service state.hostnames uuid

/-- The provider still offers virtual GPUs, with an equal inventory. -/
def KeptIn (before after : PlacementState) (uuid : Str) : Prop :=
  after.Offers uuid ∧ pyEq (.object (before.service.inventories uuid))
    (.object (after.service.inventories uuid)) = true

/-- No provider of virtual GPUs has disappeared, changed or appeared. -/
def SameInventories (before after : PlacementState) : Prop :=
  (∀ uuid, before.Offers uuid → before.KeptIn after uuid) ∧
    ∀ uuid, after.Offers uuid → before.Offers uuid

end PlacementState

variable {before after : PlacementState} {start final : InventoryMap}

theorem assertUnchanged_eq_ok_iff {rpUuid : Str} :
    assertUnchanged start final rpUuid = .ok () ↔
      pyEq (inventoryOf start rpUuid) (inventoryOf final rpUuid) = true := by
  unfold assertUnchanged
  split
  · simp [*]
  · simp [*]

/-- The check passes exactly if every provider of the start is kept. -/
theorem validateFinal_eq_ok_iff
    (gatheredStart : Gathered before.service
      (Below before.service before.hostnames) start)
    (gatheredFinal : Gathered after.service
      (Below after.service after.hostnames) final) :
    validateFinalVgpuRpInventory start final = .ok () ↔
      ∀ uuid, before.Offers uuid → before.KeptIn after uuid := by
  apply forM_eq_ok_iff.trans
  simp only [assertUnchanged_eq_ok_iff, gatheredStart.mem_keys_iff]
  apply forall₂_congr
  intro uuid offers
  rw [gatheredStart.inventoryOf_eq offers]
  by_cases still : after.Offers uuid
  · rw [gatheredFinal.inventoryOf_eq still]
    exact (and_iff_right still).symm
  · rw [gatheredFinal.inventoryOf_null still]
    refine iff_of_false ?_ fun kept => still kept.1
    simp [pyEq]

theorem pyEqMembers_eq_true_iff {members others : List (Str × Json)} :
    pyEqMembers members others = true ↔
      ∀ member ∈ members, ∃ other, others.lookup member.1 = some other ∧
        pyEq member.2 other = true := by
  induction members with
  | nil => simp [pyEqMembers]
  | cons member members induction =>
      obtain ⟨key, value⟩ := member
      rw [pyEqMembers, Bool.and_eq_true, induction, List.forall_mem_cons]
      apply and_congr_left
      intro _
      cases others.lookup key <;> simp

theorem pyEqMembers_iff_kept
    (gatheredStart : Gathered before.service
      (Below before.service before.hostnames) start)
    (gatheredFinal : Gathered after.service
      (Below after.service after.hostnames) final) :
    pyEqMembers start final = true ↔
      ∀ uuid, before.Offers uuid → before.KeptIn after uuid := by
  rw [pyEqMembers_eq_true_iff]
  constructor
  · intro equal uuid offers
    have entry := (gatheredStart.entries uuid _).mpr
      ⟨offers.1, offers.2, rfl⟩
    obtain ⟨other, found, same⟩ := equal _
      ((lookup_eq_some_iff gatheredStart.distinct).mp entry)
    obtain ⟨vgpu, below, rfl⟩ := (gatheredFinal.entries uuid other).mp found
    exact ⟨⟨vgpu, below⟩, same⟩
  · intro kept member inStart
    obtain ⟨uuid, value⟩ := member
    have entry := (lookup_eq_some_iff gatheredStart.distinct).mpr inStart
    obtain ⟨vgpu, below, rfl⟩ := (gatheredStart.entries uuid value).mp entry
    obtain ⟨still, same⟩ := kept uuid ⟨vgpu, below⟩
    exact ⟨_, (gatheredFinal.entries uuid _).mpr ⟨still.1, still.2, rfl⟩,
      same⟩

/-- Among maps whose first has no more keys than the second, equal lengths mean
equal keys. -/
theorem length_eq_iff_of_subset (startDistinct : (start.map Prod.fst).Nodup)
    (finalDistinct : (final.map Prod.fst).Nodup)
    (subset : start.map Prod.fst ⊆ final.map Prod.fst) :
    start.length = final.length ↔
      final.map Prod.fst ⊆ start.map Prod.fst := by
  have embedded := List.subperm_of_subset startDistinct subset
  constructor
  · intro length
    have order : (start.map Prod.fst).Perm (final.map Prod.fst) := by
      apply embedded.perm_of_length_le
      rw [List.length_map, List.length_map, length]
    exact order.symm.subset
  · intro back
    have order := embedded.antisymm (List.subperm_of_subset finalDistinct back)
    simpa using order.length_eq

/-- The maps are equal exactly if the inventories are the same. -/
theorem pyEq_maps_iff
    (gatheredStart : Gathered before.service
      (Below before.service before.hostnames) start)
    (gatheredFinal : Gathered after.service
      (Below after.service after.hostnames) final) :
    pyEq (.object start) (.object final) = true ↔
      before.SameInventories after := by
  rw [pyEq, Bool.and_eq_true, beq_iff_eq,
    pyEqMembers_iff_kept gatheredStart gatheredFinal, and_comm]
  apply and_congr_right
  intro kept
  rw [length_eq_iff_of_subset gatheredStart.distinct gatheredFinal.distinct]
  · simp only [List.subset_def, gatheredStart.mem_keys_iff,
      gatheredFinal.mem_keys_iff]
    exact Iff.rfl
  · intro uuid member
    have offers := gatheredStart.mem_keys_iff.mp member
    exact gatheredFinal.mem_keys_iff.mpr (kept uuid offers).1

end Comparison

/-- The check of the final inventories passes on equal maps only, exactly if a
provider of the start is not kept or no provider has appeared. -/
theorem validateFinalVgpuRpInventory_detects_iff
    (before after : PlacementState) (start final : InventoryMap)
    (startRead : getVgpuInventoriesForDeployment before.service
      before.hostnames = .ok start)
    (finalRead : getVgpuInventoriesForDeployment after.service
      after.hostnames = .ok final) :
    (pyEq (.object start) (.object final) = true ↔
      before.SameInventories after) ∧
    ((validateFinalVgpuRpInventory start final = .ok () ↔
        pyEq (.object start) (.object final) = true) ↔
      (∃ uuid, before.Offers uuid ∧ ¬ before.KeptIn after uuid) ∨
        ∀ uuid, after.Offers uuid → before.Offers uuid) := by
  have gatheredStart := getVgpuInventoriesForDeployment_gathered startRead
  have gatheredFinal := getVgpuInventoriesForDeployment_gathered finalRead
  have maps := pyEq_maps_iff gatheredStart gatheredFinal
  refine ⟨maps, ?_⟩
  rw [maps, validateFinal_eq_ok_iff gatheredStart gatheredFinal]
  constructor
  · intro detects
    by_cases kept : ∀ uuid, before.Offers uuid → before.KeptIn after uuid
    · exact .inr (detects.mp kept).2
    · push Not at kept
      exact .inl kept
  · intro condition
    constructor
    · intro kept
      rcases condition with ⟨uuid, offers, lost⟩ | old
      · exact absurd (kept uuid offers) lost
      · exact ⟨kept, old⟩
    · intro same
      exact same.1

def gpuState (children : List Str) : PlacementState :=
  ⟨gpuService children, ["host".toList]⟩

/-- The inventory of one provider of virtual GPUs. -/
def gpuInventory (uuid : Str) : Str × Json :=
  (uuid, .object [(vgpuClass, .object [])])

/-- A provider that appeared during the test passes the check. -/
theorem validateFinal_appeared :
    let start := [gpuInventory "gpu-rp".toList]
    let final := [gpuInventory "gpu-rp".toList, gpuInventory "new-rp".toList]
    getVgpuInventoriesForDeployment (gpuService ["gpu-rp".toList])
        ["host".toList] = .ok start ∧
      getVgpuInventoriesForDeployment
        (gpuService ["gpu-rp".toList, "new-rp".toList])
        ["host".toList] = .ok final ∧
      validateFinalVgpuRpInventory start final = .ok () ∧
      pyEq (.object start) (.object final) = false :=
  ⟨rfl, rfl, rfl, rfl⟩

theorem validateFinal_unchanged :
    let start := [gpuInventory "gpu-rp".toList]
    ((validateFinalVgpuRpInventory start start = .ok () ↔
        pyEq (.object start) (.object start) = true) ↔
      (∃ uuid, (gpuState ["gpu-rp".toList]).Offers uuid ∧
        ¬ (gpuState ["gpu-rp".toList]).KeptIn
          (gpuState ["gpu-rp".toList]) uuid) ∨
        ∀ uuid, (gpuState ["gpu-rp".toList]).Offers uuid →
          (gpuState ["gpu-rp".toList]).Offers uuid) :=
  (validateFinalVgpuRpInventory_detects_iff (gpuState ["gpu-rp".toList])
    (gpuState ["gpu-rp".toList]) _ _ rfl rfl).2

end Whitebox.Compute
