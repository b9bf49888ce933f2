import Whitebox.Effect.Dialogue
import Whitebox.Effect.Trace
import Whitebox.Python.Text

/-!
# What a test owes

The helpers of the tests create resources and register how to get rid of them.
The services are an environment that may answer anything and raise at any time,
after having carried out a request or not.  So what is owed is a matter of the
requests and their answers, and it is shown to be what is registered.

A creation that raises registers nothing, and neither does the creation of a
vGPU flavor whose extra specs cannot be set.  What the classes of tempest
register themselves is not looked at.
-/

namespace Whitebox.Compute.Fixtures

open Whitebox.Effect
open Whitebox.Python

section Requests

inductive ResourceKind where
  | server
  | keypair
  | image
  | flavor
  | volumeType
  | volume
  | network
  | subnet
  | port
deriving DecidableEq

/-- The answer to the creation of a volume type. -/
structure VolumeTypeBody where
  id : Option Str
  name : Str

structure VolumeType where
  id : Str
  name : Str
deriving DecidableEq

/-- A volume in a listing, with the name of its type. -/
structure Volume where
  id : Str
  volumeType : Option Str
deriving DecidableEq

inductive FixtureRequest where
  /-- `create_test_server` of the parent class. -/
  | createTestServer
  /-- `create_flavor` of the parent class. -/
  | createFlavor
  /-- `create_volume` of the parent class. -/
  | createVolume (volumeType : Str)
  /-- A creation by a client, on a network if one is given. -/
  | create (kind : ResourceKind) (networkId : Option Str)
  | createKeypair (name : Str)
  | createVolumeType
  | createEncryptionType (typeId : Str)
  | setFlavorExtraSpec (flavorId : Str)
  | showImage
  | showImageFile
  | storeImageFile (imageId : Str)
  | listVolumes
  | delete (kind : ResourceKind) (id : Str)
  | waitForDeletion (kind : ResourceKind) (id : Str)
  /-- Any other request of a test. -/
  | other
deriving DecidableEq

/-- Creations are answered with an id. -/
def FixtureRequest.Answer : FixtureRequest → Type
  | createTestServer => Str
  | createFlavor => Str
  | createVolume _ => Str
  | create _ _ => Str
  | createVolumeType => VolumeTypeBody
  | listVolumes => List Volume
  | _ => Unit

inductive FixtureExn where
  | failureException
  | other (message : Str)
deriving DecidableEq

inductive Cleanup where
  | delete (kind : ResourceKind) (id : Str)
  | waitForDeletion (kind : ResourceKind) (id : Str)
  | adminDeleteServer (serverId : Str)
  | cleanupVolumeType (volumeType : VolumeType)
deriving DecidableEq

/-- The clean-ups of a test and of its class, the latest ones first. -/
structure Stacks where
  test : List Cleanup
  ofClass : List Cleanup

abbrev FixtureExchange := Exchange FixtureExn FixtureRequest.Answer

abbrev Services := Environment FixtureExn FixtureRequest.Answer

abbrev Fixture := Dialogue FixtureExn FixtureRequest.Answer Stacks

abbrev FixtureRun := Run Fixture FixtureExn

end Requests

section Helpers

variable (services : Services)

def ask (request : FixtureRequest) : FixtureRun request.Answer :=
  Dialogue.ask services request

def addCleanup (cleanup : Cleanup) : FixtureRun Unit :=
  Dialogue.remember fun memory => { memory with test := cleanup :: memory.test }

def addClassResourceCleanup (cleanup : Cleanup) : FixtureRun Unit :=
  Dialogue.remember fun memory =>
    { memory with ofClass := cleanup :: memory.ofClass }

def createTestServer : FixtureRun Str := do
  let serverId ← ask services .createTestServer
  addCleanup (.adminDeleteServer serverId)
  pure serverId

def setExtraSpecs (flavorId : Str) (extraSpecs : Bool) : FixtureRun Unit :=
  if extraSpecs then ask services (.setFlavorExtraSpec flavorId) else pure ⟨⟩

def createFlavor (extraSpecs : Bool) : FixtureRun Str := do
  let flavorId ← ask services .createFlavor
  setExtraSpecs services flavorId extraSpecs
  pure flavorId

/-- `kwargs['name']`, which is a random one if none is given. -/
def keypairName (given : Option Str) (randomName : Str) : Str :=
  match given with
  | none | some [] => randomName
  | some name => name

def createKeypair (given : Option Str) (randomName : Str) :
    FixtureRun Unit := do
  let name := keypairName given randomName
  ask services (.createKeypair name)
  addCleanup (.delete .keypair name)

/-- A resource is created by a client and its deletion by the client is
registered. -/
def createDeletable (kind : ResourceKind) (networkId : Option Str) :
    FixtureRun Str := do
  let id ← ask services (.create kind networkId)
  addCleanup (.delete kind id)
  pure id

def copyDefaultImage : FixtureRun Str := do
  ask services .showImage
  ask services .showImageFile
  let imageId ← createDeletable services .image none
  ask services (.storeImageFile imageId)
  pure imageId

def createNetFromPhysicalNetwork : FixtureRun Str :=
  createDeletable services .network none

def createSubnet (networkId : Str) : FixtureRun Str :=
  createDeletable services .subnet (some networkId)

def createPortFromVnicType (networkId : Str) : FixtureRun Str :=
  createDeletable services .port (some networkId)

/-- `self.assertIn('id', volume_type)`. -/
def assertId (body : VolumeTypeBody) : Except FixtureExn VolumeType :=
  match body.id with
  | some id => .ok ⟨id, body.name⟩
  | none => .error .failureException

def createVolumeType : FixtureRun VolumeType := do
  let body ← ask services .createVolumeType
  let volumeType ← Run.lift (assertId body)
  addCleanup (.cleanupVolumeType volumeType)
  pure volumeType

/-- `type_id`, or the id of a new type if it is empty. -/
def givenOrNewType (typeId : Str) : FixtureRun Str :=
  match typeId with
  | [] => do
      let volumeType ← createVolumeType services
      pure volumeType.id
  | given => pure given

def createEncryptionType (typeId : Str) : FixtureRun Unit := do
  let typeId ← givenOrNewType services typeId
  ask services (.createEncryptionType typeId)

def createEncryptedVolume : FixtureRun Str := do
  let volumeType ← createVolumeType services
  createEncryptionType services volumeType.id
  ask services (.createVolume volumeType.name)

/-- `_generate_vgpu_custom_trait_flavor`, and the flavor of `resource_setup`:
the clean-ups are registered after the extra specs are set. -/
def generateVgpuFlavor : FixtureRun Str := do
  let flavorId ← ask services (.create .flavor none)
  ask services (.setFlavorExtraSpec flavorId)
  addClassResourceCleanup (.waitForDeletion .flavor flavorId)
  addClassResourceCleanup (.delete .flavor flavorId)
  pure flavorId

/-- The servers whose deletion is registered. -/
def Stacks.servers (memory : Stacks) : List Str :=
  memory.test.filterMap fun
    | .adminDeleteServer serverId => some serverId
    | _ => none

/-- A test deletes one of its servers itself. -/
def deleteServer (position : Nat) : FixtureRun Unit := fun fixture =>
  match fixture.memory.servers[position]? with
  | some serverId => ask services (.delete .server serverId) fixture
  | none => (.ok ⟨⟩, fixture)

/-- The calls that a test is made of, with any arguments. -/
inductive Call where
  | createTestServer
  | createFlavor (extraSpecs : Bool)
  | createKeypair (given : Option Str) (randomName : Str)
  | copyDefaultImage
  | createNetFromPhysicalNetwork
  | createSubnet (networkId : Str)
  | createPortFromVnicType (networkId : Str)
  | createVolumeType
  | createEncryptionType (typeId : Str)
  | createEncryptedVolume
  | generateVgpuFlavor
  | deleteServer (position : Nat)
  | other

def Call.run : Call → FixtureRun Unit
  | .createTestServer => do let _ ← Fixtures.createTestServer services
  | .createFlavor extraSpecs => do
      let _ ← Fixtures.createFlavor services extraSpecs
  | .createKeypair given randomName =>
      Fixtures.createKeypair services given randomName
  | .copyDefaultImage => do let _ ← Fixtures.copyDefaultImage services
  | .createNetFromPhysicalNetwork => do
      let _ ← Fixtures.createNetFromPhysicalNetwork services
  | .createSubnet networkId => do
      let _ ← Fixtures.createSubnet services networkId
  | .createPortFromVnicType networkId => do
      let _ ← Fixtures.createPortFromVnicType services networkId
  | .createVolumeType => do let _ ← Fixtures.createVolumeType services
  | .createEncryptionType typeId =>
      Fixtures.createEncryptionType services typeId
  | .createEncryptedVolume => do
      let _ ← Fixtures.createEncryptedVolume services
  | .generateVgpuFlavor => do let _ ← Fixtures.generateVgpuFlavor services
  | .deleteServer position => Fixtures.deleteServer services position
  | .other => ask services .other

def newFixture : Fixture := ⟨[], ⟨[], []⟩⟩

/-- A test goes on after a call that raises, or has no more calls. -/
def runCalls (calls : List Call) : Fixture :=
  calls.foldl (fun fixture call => (call.run services fixture).2) newFixture

end Helpers

section Teardown

variable (services : Services)

def adminDeleteServer (serverId : Str) : FixtureRun Unit :=
  Run.tryExcept
    (do
      ask services (.delete .server serverId)
      ask services (.waitForDeletion .server serverId))
    fun _ => pure ⟨⟩

/-- One turn of the loop over the volumes of a type.  The deletion raises what
`call_and_ignore_notfound_exc` lets through. -/
def deleteVolume (volume : Volume) : FixtureRun Unit := do
  ask services (.delete .volume volume.id)
  ask services (.waitForDeletion .volume volume.id)

def cleanupVolumeType (volumeType : VolumeType) : FixtureRun Unit := do
  let volumes ← ask services .listVolumes
  (volumes.filter (·.volumeType == some volumeType.name)).forM
    (deleteVolume services)
  ask services (.delete .volumeType volumeType.id)

def Cleanup.run : Cleanup → FixtureRun Unit
  | .delete kind id => ask services (.delete kind id)
  | .waitForDeletion kind id => ask services (.waitForDeletion kind id)
  | .adminDeleteServer serverId => Fixtures.adminDeleteServer services serverId
  | .cleanupVolumeType volumeType =>
      Fixtures.cleanupVolumeType services volumeType

/-- What a clean-up raises is reported and does not stop the others. -/
def attempt (action : FixtureRun Unit) : FixtureRun Unit :=
  Run.tryExcept action fun _ => pure ⟨⟩

/-- `doCleanups`. -/
def doCleanups : FixtureRun Unit := fun fixture =>
  fixture.memory.test.forM (fun cleanup => attempt (cleanup.run services))
    { fixture with memory := { fixture.memory with test := [] } }

end Teardown

section Owed

/-- The clean-up that the test owes after an exchange. -/
def owed : FixtureExchange → Option Cleanup
  | ⟨.createTestServer, .ok serverId⟩ => some (.adminDeleteServer serverId)
  | ⟨.createKeypair name, .ok _⟩ => some (.delete .keypair name)
  | ⟨.create .flavor _, _⟩ => none
  | ⟨.create kind _, .ok id⟩ => some (.delete kind id)
  | ⟨.createVolumeType, .ok ⟨some id, name⟩⟩ =>
      some (.cleanupVolumeType ⟨id, name⟩)
  | _ => none

/-- The flavor that was created by the last exchange, and the flavors whose
extra specs were set right after their creation, the latest first. -/
def specify : Option Str × List Str → FixtureExchange →
    Option Str × List Str
  | (_, flavors), ⟨.create .flavor _, .ok flavorId⟩ => (some flavorId, flavors)
  | (some flavorId, flavors), ⟨.setFlavorExtraSpec _, .ok _⟩ =>
      (none, flavorId :: flavors)
  | (_, flavors), _ => (none, flavors)

/-- The clean-ups of a flavor, the latest one first. -/
def flavorCleanups (flavorId : Str) : List Cleanup :=
  [.delete .flavor flavorId, .waitForDeletion .flavor flavorId]

/-- What a clean-up is to get rid of. -/
def Cleanup.target : Cleanup → ResourceKind × Str
  | .delete kind id => (kind, id)
  | .waitForDeletion kind id => (kind, id)
  | .adminDeleteServer serverId => (.server, serverId)
  | .cleanupVolumeType volumeType => (.volumeType, volumeType.id)

/-- A deletion is for what the test has created, or for a volume that was listed
with the name of a volume type that the test has created. -/
def Justified (before : List FixtureExchange) (exchange : FixtureExchange) :
    Prop :=
  ∀ kind id, exchange.request = .delete kind id →
    (∃ cleanup ∈ before.filterMap owed, cleanup.target = (kind, id)) ∨
    (kind = .volume ∧ ∃ (volumes : List Volume) (volumeType : VolumeType),
      ⟨.listVolumes, .ok volumes⟩ ∈ before ∧
      .cleanupVolumeType volumeType ∈ before.filterMap owed ∧
      ⟨id, some volumeType.name⟩ ∈ volumes)

theorem owed_error (request : FixtureRequest) (error : FixtureExn) :
    owed ⟨request, .error error⟩ = none := by
  cases request with
  | create kind networkId => cases kind <;> rfl
  | _ => rfl

theorem specify_error (request : FixtureRequest) (error : FixtureExn)
    (pending : Option Str × List Str) :
    specify pending ⟨request, .error error⟩ = (none, pending.2) := by
  obtain ⟨_ | flavorId, flavors⟩ := pending <;>
    cases request with
    | create kind networkId => cases kind <;> rfl
    | _ => rfl

theorem specify_eq (pending : Option Str) (flavors : List Str)
    (exchange : FixtureExchange) :
    specify (pending, flavors) exchange =
      ((specify (pending, []) exchange).1,
        (specify (pending, []) exchange).2 ++ flavors) := by
  unfold specify
  split <;> simp_all

end Owed

section Tests

variable {services : Services}

/-- All that is owed is on the stacks, but for the given clean-ups, and the last
exchange created the given flavor. -/
structure Lacks (missing ofClass : List Cleanup) (pending : Option Str)
    (fixture : Fixture) : Prop where
  test : missing ++ fixture.memory.test =
    (fixture.history.filterMap owed).reverse
  ofClass : ∃ flavors,
    fixture.history.foldl specify (none, []) = (pending, flavors) ∧
      ofClass ++ fixture.memory.ofClass = flavors.flatMap flavorCleanups
  justified : Obeys Justified fixture.history

/-- Nothing is missing. -/
def Settled (fixture : Fixture) : Prop := Lacks [] [] none fixture

theorem Lacks.extend {pending : Option Str} {fixture : Fixture}
    (lacks : Lacks [] [] pending fixture) (exchange : FixtureExchange)
    (allowed : Justified fixture.history exchange) :
    Lacks (owed exchange).toList
      ((specify (pending, []) exchange).2.flatMap flavorCleanups)
      (specify (pending, []) exchange).1 (fixture.extend [exchange]) where
  test := by
    change (owed exchange).toList ++ fixture.memory.test =
      ((fixture.history ++ [exchange]).filterMap owed).reverse
    rw [List.filterMap_append, List.reverse_append, ← lacks.test]
    cases owes : owed exchange with
    | none => simp [owes]
    | some cleanup => simp [owes]
  ofClass := by
    obtain ⟨flavors, tracked, registered⟩ := lacks.ofClass
    refine ⟨(specify (pending, []) exchange).2 ++ flavors, ?_, ?_⟩
    · change (fixture.history ++ [exchange]).foldl specify (none, []) = _
      rw [List.foldl_append, tracked]
      exact specify_eq pending flavors exchange
    · rw [List.flatMap_append, ← registered]
      rfl
  justified := obeys_append_singleton_iff.mpr ⟨lacks.justified, allowed⟩

theorem ask_lacks {pending : Option Str} {request : FixtureRequest}
    (deletesNothing : ∀ kind id, request ≠ .delete kind id) :
    Run.Triple (Lacks [] [] pending) (ask services request)
      (fun answer => Lacks (owed ⟨request, .ok answer⟩).toList
        ((specify (pending, []) ⟨request, .ok answer⟩).2.flatMap flavorCleanups)
        (specify (pending, []) ⟨request, .ok answer⟩).1)
      Settled := by
  have allowed : ∀ history outcome, Justified history ⟨request, outcome⟩ := by
    intro history outcome kind id same
    exact absurd same (deletesNothing kind id)
  apply Dialogue.triple_ask
  · intro fixture answer lacks
    exact lacks.extend _ (allowed _ _)
  · intro fixture error lacks
    have extended := lacks.extend _ (allowed _ (.error error))
    rw [owed_error, specify_error] at extended
    exact extended

theorem addCleanup_lacks {cleanup : Cleanup} {fails : Fixture → Prop} :
    Run.Triple (Lacks [cleanup] [] none) (addCleanup cleanup)
      (fun _ => Settled) fails := by
  apply Dialogue.triple_remember
  intro fixture lacks
  exact ⟨lacks.test, lacks.ofClass, lacks.justified⟩

theorem addClassResourceCleanup_lacks (ofClass : List Cleanup)
    {cleanup : Cleanup} {fails : Fixture → Prop} :
    Run.Triple (Lacks [] (ofClass ++ [cleanup]) none)
      (addClassResourceCleanup cleanup)
      (fun _ => Lacks [] ofClass none) fails := by
  apply Dialogue.triple_remember
  intro fixture lacks
  obtain ⟨flavors, tracked, registered⟩ := lacks.ofClass
  refine ⟨lacks.test, ⟨flavors, tracked, ?_⟩, lacks.justified⟩
  rw [← registered, List.append_assoc]
  rfl

/-- Neither a deletion nor the creation of a flavor by a client. -/
def FixtureRequest.isPlain : FixtureRequest → Bool
  | .delete _ _ => false
  | .create .flavor _ => false
  | _ => true

theorem ne_delete_of_isPlain {request : FixtureRequest}
    (plain : request.isPlain = true) (kind : ResourceKind) (id : Str) :
    request ≠ .delete kind id := by
  intro same
  rw [same] at plain
  cases plain

theorem specify_of_isPlain {request : FixtureRequest}
    (plain : request.isPlain = true)
    {outcome : Except FixtureExn request.Answer} :
    specify (none, []) ⟨request, outcome⟩ = (none, []) := by
  cases request with
  | create kind networkId =>
      cases kind with
      | flavor => cases plain
      | _ => rfl
  | setFlavorExtraSpec flavorId => cases outcome <;> rfl
  | _ => rfl

/-- The computation leaves nothing missing, however it ends. -/
def Settles {α : Type} (action : FixtureRun α) : Prop :=
  Run.Triple Settled action (fun _ => Settled) Settled

namespace Settles

variable {α β : Type}

theorem ret {value : α} : Settles (pure value) :=
  Run.Triple.ret fun _ settled => settled

theorem seq {action : FixtureRun α} {next : α → FixtureRun β}
    (first : Settles action) (second : ∀ value, Settles (next value)) :
    Settles (action >>= next) :=
  Run.Triple.seq _ first second

/-- A plain request, with what is to be registered for its answer. -/
theorem askAnd {request : FixtureRequest} {next : request.Answer → FixtureRun α}
    (plain : request.isPlain = true)
    (registers : ∀ answer, Run.Triple
      (Lacks (owed ⟨request, .ok answer⟩).toList [] none) (next answer)
      (fun _ => Settled) Settled) :
    Settles (Fixtures.ask services request >>= next) := by
  apply Run.Triple.seq _ (ask_lacks (ne_delete_of_isPlain plain))
  intro answer
  rw [specify_of_isPlain plain]
  exact registers answer

/-- A plain request that nothing is owed for. -/
theorem ask {request : FixtureRequest} (plain : request.isPlain = true)
    (owesNothing : ∀ answer, owed ⟨request, .ok answer⟩ = none) :
    Settles (Fixtures.ask services request) := by
  apply (ask_lacks (ne_delete_of_isPlain plain)).consequence
  · intro fixture settled
    exact settled
  · intro answer fixture lacks
    rw [owesNothing, specify_of_isPlain plain] at lacks
    exact lacks
  · intro fixture settled
    exact settled

end Settles

theorem addCleanup_settles {α : Type} {cleanup : Cleanup} {value : α} :
    Run.Triple (Lacks [cleanup] [] none)
      (do addCleanup cleanup; pure value : FixtureRun α)
      (fun _ => Settled) Settled :=
  Run.Triple.seq _ addCleanup_lacks fun _ => Settles.ret

theorem createTestServer_settles : Settles (createTestServer services) :=
  Settles.askAnd rfl fun _ => addCleanup_settles

theorem setExtraSpecs_settles {flavorId : Str} {extraSpecs : Bool} :
    Settles (setExtraSpecs services flavorId extraSpecs) := by
  cases extraSpecs with
  | false => exact Settles.ret
  | true => exact Settles.ask rfl fun _ => rfl

theorem createFlavor_settles {extraSpecs : Bool} :
    Settles (createFlavor services extraSpecs) := by
  apply Settles.seq (Settles.ask rfl fun _ => rfl)
  intro flavorId
  exact Settles.seq setExtraSpecs_settles fun _ => Settles.ret

theorem createKeypair_settles {given : Option Str} {randomName : Str} :
    Settles (createKeypair services given randomName) :=
  Settles.askAnd rfl fun _ => addCleanup_lacks

theorem createDeletable_settles {kind : ResourceKind}
    {networkId : Option Str} (other : kind ≠ .flavor) :
    Settles (createDeletable services kind networkId) := by
  cases kind with
  | flavor => exact absurd rfl other
  | _ => exact Settles.askAnd rfl fun _ => addCleanup_settles

theorem copyDefaultImage_settles : Settles (copyDefaultImage services) := by
  apply Settles.seq (Settles.ask rfl fun _ => rfl)
  intro _
  apply Settles.seq (Settles.ask rfl fun _ => rfl)
  intro _
  apply Settles.seq (createDeletable_settles (by decide))
  intro imageId
  exact Settles.seq (Settles.ask rfl fun _ => rfl) fun _ => Settles.ret

theorem createVolumeType_settles : Settles (createVolumeType services) := by
  apply Settles.askAnd rfl
  rintro ⟨_ | id, name⟩
  · intro fixture outcome reached settled ran
    cases ran
    exact settled
  · exact addCleanup_settles

theorem givenOrNewType_settles {typeId : Str} :
    Settles (givenOrNewType services typeId) := by
  cases typeId with
  | nil => exact Settles.seq createVolumeType_settles fun _ => Settles.ret
  | cons c typeId => exact Settles.ret

theorem createEncryptionType_settles {typeId : Str} :
    Settles (createEncryptionType services typeId) :=
  Settles.seq givenOrNewType_settles fun _ => Settles.ask rfl fun _ => rfl

theorem createEncryptedVolume_settles :
    Settles (createEncryptedVolume services) := by
  apply Settles.seq createVolumeType_settles
  intro volumeType
  apply Settles.seq createEncryptionType_settles
  intro _
  exact Settles.ask rfl fun _ => rfl

/-- The flavor is pending until its extra specs are set. -/
theorem generateVgpuFlavor_settles : Settles (generateVgpuFlavor services) := by
  apply Run.Triple.seq (fun flavorId => Lacks [] [] (some flavorId))
  · apply ask_lacks
    intro kind id same
    cases same
  intro flavorId
  apply Run.Triple.seq (fun _ => Lacks [] (flavorCleanups flavorId) none)
  · exact ask_lacks (ne_delete_of_isPlain rfl)
  intro _
  apply Run.Triple.seq _ (addClassResourceCleanup_lacks [.delete .flavor _])
  intro _
  apply Run.Triple.seq _ (addClassResourceCleanup_lacks [])
  intro _
  exact Settles.ret

theorem mem_servers_iff {memory : Stacks} {serverId : Str} :
    serverId ∈ memory.servers ↔ .adminDeleteServer serverId ∈ memory.test := by
  rw [Stacks.servers, List.mem_filterMap]
  constructor
  · intro found
    obtain ⟨cleanup, member, same⟩ := found
    cases cleanup with
    | adminDeleteServer other =>
        cases same
        exact member
    | _ => cases same
  · intro member
    exact ⟨_, member, rfl⟩

/-- A server whose deletion is registered was created by the test. -/
theorem deleteServer_settles {position : Nat} :
    Settles (deleteServer services position) := by
  intro fixture outcome reached settled ran
  unfold deleteServer at ran
  split at ran
  · next serverId found =>
      have registered := mem_servers_iff.mp (List.mem_of_getElem? found)
      have owes : .adminDeleteServer serverId ∈
          fixture.history.filterMap owed := by
        rw [← List.mem_reverse, ← settled.test]
        exact registered
      have justified : ∀ answer,
          Justified fixture.history ⟨.delete .server serverId, answer⟩ := by
        intro answer kind id same
        cases same
        exact .inl ⟨_, owes, rfl⟩
      cases ran
      split <;> exact settled.extend _ (justified _)
  · cases ran
    exact settled

theorem Call.run_settles (call : Call) : Settles (call.run services) := by
  cases call with
  | createTestServer =>
      exact Settles.seq createTestServer_settles fun _ => Settles.ret
  | createFlavor extraSpecs =>
      exact Settles.seq createFlavor_settles fun _ => Settles.ret
  | createKeypair given randomName => exact createKeypair_settles
  | copyDefaultImage =>
      exact Settles.seq copyDefaultImage_settles fun _ => Settles.ret
  | createNetFromPhysicalNetwork =>
      exact Settles.seq (createDeletable_settles (by decide)) fun _ =>
        Settles.ret
  | createSubnet networkId =>
      exact Settles.seq (createDeletable_settles (by decide)) fun _ =>
        Settles.ret
  | createPortFromVnicType networkId =>
      exact Settles.seq (createDeletable_settles (by decide)) fun _ =>
        Settles.ret
  | createVolumeType =>
      exact Settles.seq createVolumeType_settles fun _ => Settles.ret
  | createEncryptionType typeId => exact createEncryptionType_settles
  | createEncryptedVolume =>
      exact Settles.seq createEncryptedVolume_settles fun _ => Settles.ret
  | generateVgpuFlavor =>
      exact Settles.seq generateVgpuFlavor_settles fun _ => Settles.ret
  | deleteServer position => exact deleteServer_settles
  | other => exact Settles.ask rfl fun _ => rfl

/-- After any calls, all that is owed is on the stacks. -/
theorem runCalls_settled (services : Services) (calls : List Call) :
    Settled (runCalls services calls) := by
  induction calls using List.reverseRecOn with
  | nil => exact ⟨rfl, ⟨[], rfl, rfl⟩, obeys_nil⟩
  | append_singleton calls call induction =>
      rw [runCalls, List.foldl_append]
      rcases ran : call.run services (runCalls services calls) with
        ⟨outcome, reached⟩
      have settled := call.run_settles _ outcome reached induction ran
      change Settled (call.run services (runCalls services calls)).2
      rw [ran]
      cases outcome with
      | ok _ => exact settled
      | error _ => exact settled

end Tests

end Whitebox.Compute.Fixtures
