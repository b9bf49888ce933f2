import Mathlib.Data.List.Nodup
import Mathlib.Data.List.Perm.Basic
import Mathlib.Data.Option.Basic
import Whitebox.Effect.Fallible
import Whitebox.Effect.Run
import Whitebox.Python.Text

/-!
# Disks on a virtio-scsi controller

The virtio-scsi tests attach volumes to a server and compare the serials of the
disks on its one controller with the volumes.  The disk that the server boots
from has no serial.  Another test attaches as many volumes as the deployment
allows and expects one more to be refused.

A cloud is a state with operations on it.  The last results are about clouds
that refuse a volume once a server has reached some number of disks: the test
passes exactly if that number is the configured one.
-/

namespace Whitebox.Compute

open Whitebox.Python
open Whitebox.Effect
open Whitebox.Effect.Fallible

/-- The message of an assertion about disks. -/
inductive ScsiMessage where
  /-- `"One and only one SCSI Disk controller should have been created but
  instead found: {} controllers"`. -/
  | controllers (found : Nat)
  /-- A format with two numbers of disks. -/
  | disks (format : Str) (expected found : Nat)
  /-- `assertCountEqual` without a message. -/
  | notCountEqual (first second : List (Option Str))
  /-- The message of `assertRaises` for a call that returns. -/
  | notRaised
deriving DecidableEq

inductive ScsiExn where
  | keyError (key : Str)
  | forbidden
  | other (message : Str)
  | failureException (message : ScsiMessage)
deriving DecidableEq

section Domains

/-- A `disk` element: the `bus` of its targets, the `controller` of its
addresses and the texts of its serials. -/
structure DiskElement where
  buses : List (Option Str)
  controllers : List (Option Str)
  serials : List (Option Str)

structure ControllerElement where
  type : Option Str
  model : Option Str
  index : Option Str

/-- The devices of a domain that the tests look at. -/
structure ScsiDomain where
  disks : List DiskElement
  controllers : List ControllerElement

def scsiBus : Str := "scsi".toList

def virtioScsi : Str := "virtio-scsi".toList

/-- `disk.find("target[@bus='scsi']")` and
`disk.find("address[@controller='%s']")` find something. -/
def DiskElement.isOn (disk : DiskElement) (controllerIndex : Str) : Bool :=
  disk.buses.contains (some scsiBus) &&
    disk.controllers.contains (some controllerIndex)

def getScsiDisks (domain : ScsiDomain) (controllerIndex : Str) :
    List DiskElement :=
  domain.disks.filter (·.isOn controllerIndex)

def getScsiDiskControllers (domain : ScsiDomain) : List ControllerElement :=
  domain.controllers.filter fun controller =>
    controller.type == some scsiBus && controller.model == some virtioScsi

/-- `getattr(disk.find('serial'), 'text', None)`. -/
def DiskElement.serial (disk : DiskElement) : Option Str :=
  disk.serials.head?.join

def getAttachedSerialIds (disks : List DiskElement) : List Str :=
  disks.filterMap DiskElement.serial

/-- The index of the one controller. -/
def onlyController : List ControllerElement → Except ScsiExn Str
  | [controller] =>
      match controller.index with
      | some index => .ok index
      | none => .error (.keyError "index".toList)
  | found => .error (.failureException (.controllers found.length))

/-- The assertion on the number of disks. -/
def assertDisks (format : Str) (expected : Nat) (disks : List DiskElement) :
    Except ScsiExn PUnit :=
  require (disks.length = expected)
    (.failureException (.disks format expected disks.length))

def assertCountEqual (first second : List (Option Str)) :
    Except ScsiExn PUnit :=
  require (first.Perm second) (.failureException (.notCountEqual first second))

end Domains

section Tests

/-- A block device that a server is booted with. -/
structure BlockDevice where
  uuid : Option Str
  sourceType : Str
  volumeSize : Nat
  bootIndex : Nat
  destinationType : Str
  diskBus : Str
  deleteOnTermination : Bool
deriving DecidableEq

/-- What the tests ask a cloud for, with its state.  The server is the one of
the test. -/
structure ScsiCloud (σ : Type) where
  bootFromVolumes : List BlockDevice → Run σ ScsiExn PUnit
  createTestServer : Run σ ScsiExn PUnit
  createVolume : Run σ ScsiExn Str
  attachVolume : Str → Run σ ScsiExn PUnit
  getServerXml : Run σ ScsiExn ScsiDomain
  /-- The `volumeId` of every attachment. -/
  listVolumeAttachments : Run σ ScsiExn (List (Option Str))

namespace ScsiCloud

variable {σ : Type} (cloud : ScsiCloud σ)

/-- The disks of the server on its one controller. -/
def findScsiDisks (format : Str) (expected : Nat) :
    Run σ ScsiExn (List DiskElement) := do
  let domain ← cloud.getServerXml
  let index ← Run.lift (onlyController (getScsiDiskControllers domain))
  let domain ← cloud.getServerXml
  let scsiDisks := getScsiDisks domain index
  Run.lift (assertDisks format expected scsiDisks)
  pure scsiDisks

/-- The mapping of `test_boot_with_multiple_disks`. -/
def bootMapping (imgId : Str) (flavorVolumeSize disksToCreate : Nat) :
    List BlockDevice :=
  (List.range disksToCreate).map fun i =>
    if i = 0 then ⟨some imgId, "image".toList, flavorVolumeSize, i,
      "volume".toList, scsiBus, true⟩
    else ⟨none, "blank".toList, 1, i, "volume".toList, scsiBus, true⟩

def testBootWithMultipleDisks (imgId : Str)
    (flavorVolumeSize disksToCreate : Nat) : Run σ ScsiExn PUnit := do
  cloud.bootFromVolumes (bootMapping imgId flavorVolumeSize disksToCreate)
  let scsiDisks ← cloud.findScsiDisks
    ("Expected \x7b\x7d scsi disks on the domain but " ++
      "found \x7b\x7d").toList disksToCreate
  let attachedVolumeIds ← cloud.listVolumeAttachments
  Run.lift (assertCountEqual attachedVolumeIds
    ((getAttachedSerialIds scsiDisks).map some))

/-- One turn of the loop that attaches volumes. -/
def addVolume (volIds : List Str) : Run σ ScsiExn (List Str) := do
  let volume ← cloud.createVolume
  cloud.attachVolume volume
  pure (volIds ++ [volume])

/-- `for _ in range(count)`. -/
def attachVolumes : Nat → List Str → Run σ ScsiExn (List Str)
  | 0, volIds => pure volIds
  | count + 1, volIds => do
      let volIds ← cloud.addVolume volIds
      attachVolumes count volIds

/-- The checks on the volumes of a server. -/
def checkVolumes (volIds : List Str) (disksToCreate : Nat) :
    Run σ ScsiExn PUnit := do
  let scsiDisks ← cloud.findScsiDisks
    "Expected \x7b\x7d disks but only found \x7b\x7d".toList disksToCreate
  let attachedVolumeIds ← cloud.listVolumeAttachments
  Run.lift (assertCountEqual (volIds.map some) attachedVolumeIds)
  Run.lift (assertCountEqual (volIds.map some)
    ((getAttachedSerialIds scsiDisks).map some))

def testAttachMultipleScsiDisks (disksToCreate : Nat) :
    Run σ ScsiExn PUnit := do
  cloud.createTestServer
  let volIds ← cloud.attachVolumes (disksToCreate - 1) []
  cloud.checkVolumes volIds disksToCreate

/-- `assertRaises(Forbidden, self.attach_volume, server, volume)`. -/
def assertForbidden (action : Run σ ScsiExn PUnit) : Run σ ScsiExn PUnit :=
  fun state =>
    match action state with
    | (.ok _, reached) => (.error (.failureException .notRaised), reached)
    | (.error .forbidden, reached) => (.ok ⟨⟩, reached)
    | (.error error, reached) => (.error error, reached)

def testMaxIscsiDisksAttachmentEnforced (disksToCreate : Nat) :
    Run σ ScsiExn PUnit := do
  cloud.createTestServer
  let volIds ← cloud.attachVolumes (disksToCreate - 1) []
  cloud.checkVolumes volIds disksToCreate
  let volume ← cloud.createVolume
  assertForbidden (cloud.attachVolume volume)

end ScsiCloud

end Tests

section Serials

/-- A number of disks has no serial, and the serials of the others are the
volumes, each of them once. -/
structure OneDiskEach (disks : List DiskElement) (volIds : List Str)
    (bare : Nat) : Prop where
  bare : disks.countP (·.serial == none) = bare
  each : ∀ volume ∈ volIds, disks.countP (·.serial == some volume) = 1
  only : ∀ disk ∈ disks, ∀ serial, disk.serial = some serial → serial ∈ volIds

variable {disks : List DiskElement} {volIds : List Str} {bare : Nat}

theorem count_serialIds (disks : List DiskElement) (volume : Str) :
    (getAttachedSerialIds disks).count volume =
      disks.countP (·.serial == some volume) := by
  rw [getAttachedSerialIds, List.count_filterMap]

theorem length_serialIds (disks : List DiskElement) :
    disks.length = (getAttachedSerialIds disks).length +
      disks.countP (·.serial == none) := by
  induction disks with
  | nil => rfl
  | cons disk disks induction =>
      rw [getAttachedSerialIds] at induction ⊢
      cases serial : disk.serial with
      | none =>
          simp only [List.filterMap_cons, serial, List.countP_cons,
            List.length_cons, beq_self_eq_true, if_true]
          omega
      | some volume =>
          have named : (some volume == none) = false := rfl
          simp only [List.filterMap_cons, serial, List.countP_cons,
            List.length_cons, named, Bool.false_eq_true, if_false]
          omega

theorem mem_serialIds {volume : Str} :
    volume ∈ getAttachedSerialIds disks ↔
      ∃ disk ∈ disks, disk.serial = some volume := by
  rw [getAttachedSerialIds, List.mem_filterMap]

/-- With so many disks more than volumes, the serials are the volumes in some
order exactly if there is one disk for each volume and the others have no
serial. -/
theorem perm_serialIds_iff (distinct : volIds.Nodup) :
    disks.length = volIds.length + bare ∧
        volIds.Perm (getAttachedSerialIds disks) ↔
      OneDiskEach disks volIds bare := by
  have total := length_serialIds disks
  constructor
  · intro found
    obtain ⟨length, perm⟩ := found
    refine ⟨?_, ?_, ?_⟩
    · have same := perm.length_eq
      omega
    · intro volume member
      rw [← count_serialIds, ← perm.count_eq]
      exact List.count_eq_one_of_mem distinct member
    · intro disk member serial has
      exact perm.mem_iff.mpr (mem_serialIds.mpr ⟨disk, member, has⟩)
  · intro each
    have perm : volIds.Perm (getAttachedSerialIds disks) := by
      rw [List.perm_iff_count]
      intro volume
      rw [count_serialIds]
      by_cases member : volume ∈ volIds
      · rw [each.each volume member]
        exact List.count_eq_one_of_mem distinct member
      · rw [List.count_eq_zero_of_not_mem member, eq_comm, List.countP_eq_zero]
        intro disk inside has
        exact member (each.only disk inside volume (beq_iff_eq.mp has))
    refine ⟨?_, perm⟩
    have without := each.bare
    have same := perm.length_eq
    omega

end Serials

section Checks

variable {σ : Type} {cloud : ScsiCloud σ} {state : σ}

/-- What the server shows in a state of the cloud, which looking at it leaves
alone. -/
structure ScsiCloud.Shows (cloud : ScsiCloud σ) (state : σ)
    (domain : ScsiDomain) (attached : List (Option Str)) : Prop where
  domain : cloud.getServerXml state = (.ok domain, state)
  attached : cloud.listVolumeAttachments state = (.ok attached, state)

theorem onlyController_eq_ok_iff {found : List ControllerElement}
    {index : Str} :
    onlyController found = .ok index ↔
      ∃ controller, found = [controller] ∧ controller.index = some index := by
  unfold onlyController
  split
  · next controller =>
      cases indexed : controller.index <;> simp [indexed]
  · next several =>
      constructor
      · intro returned
        cases returned
      · intro single
        obtain ⟨controller, only, _⟩ := single
        exact absurd only (several controller)

theorem assertCountEqual_eq_ok_iff {first second : List (Option Str)}
    {value : PUnit} :
    assertCountEqual first second = .ok value ↔ first.Perm second := by
  rw [assertCountEqual, require_eq_ok_iff]

theorem perm_map_some_iff {first second : List Str} :
    (first.map some).Perm (second.map some) ↔ first.Perm second :=
  List.map_perm_map_iff (Option.some_injective Str)

/-- The checks on what a server shows. -/
def checkShown (domain : ScsiDomain) (attached : List (Option Str))
    (volIds : List Str) (disksToCreate : Nat) : Except ScsiExn PUnit := do
  let index ← onlyController (getScsiDiskControllers domain)
  let scsiDisks := getScsiDisks domain index
  assertDisks "Expected \x7b\x7d disks but only found \x7b\x7d".toList
    disksToCreate scsiDisks
  assertCountEqual (volIds.map some) attached
  assertCountEqual (volIds.map some) ((getAttachedSerialIds scsiDisks).map some)

theorem checkVolumes_of_shows {domain : ScsiDomain}
    {attached : List (Option Str)} (shows : cloud.Shows state domain attached)
    (volIds : List Str) (disksToCreate : Nat) :
    cloud.checkVolumes volIds disksToCreate state =
      (checkShown domain attached volIds disksToCreate, state) := by
  simp only [ScsiCloud.checkVolumes, ScsiCloud.findScsiDisks, bind_assoc,
    pure_bind]
  rw [Run.bind_ok shows.domain]
  apply Run.lift_bind
  intro index
  rw [Run.bind_ok shows.domain]
  apply Run.lift_bind
  intro _
  rw [Run.bind_ok shows.attached]
  apply Run.lift_bind
  intro _
  rfl

/-- The server has one controller, with one disk that has no serial and one for
each volume, and the volumes are its attachments. -/
structure ShowsVolumes (domain : ScsiDomain) (attached : List (Option Str))
    (volIds : List Str) : Prop where
  listed : (volIds.map some).Perm attached
  disks : ∃ controller index, getScsiDiskControllers domain = [controller] ∧
    controller.index = some index ∧
    OneDiskEach (getScsiDisks domain index) volIds 1

variable {domain : ScsiDomain} {attached : List (Option Str)}
  {volIds : List Str}

theorem checkShown_eq_ok_iff (distinct : volIds.Nodup) :
    checkShown domain attached volIds (volIds.length + 1) = .ok ⟨⟩ ↔
      ShowsVolumes domain attached volIds := by
  simp only [checkShown, bind_eq_ok_iff, onlyController_eq_ok_iff, assertDisks,
    require_eq_ok_iff, exists_const, assertCountEqual_eq_ok_iff,
    perm_map_some_iff]
  constructor
  · intro checks
    obtain ⟨index, ⟨controller, only, indexed⟩, length, listed, serials⟩ :=
      checks
    exact ⟨listed, controller, index, only, indexed,
      (perm_serialIds_iff distinct).mp ⟨length, serials⟩⟩
  · intro shows
    obtain ⟨controller, index, only, indexed, each⟩ := shows.disks
    obtain ⟨length, serials⟩ := (perm_serialIds_iff distinct).mpr each
    exact ⟨index, ⟨controller, only, indexed⟩, length, shows.listed, serials⟩

/-- A server that shows its volumes passes with the right number only. -/
theorem eq_of_checkShown {disksToCreate : Nat} (distinct : volIds.Nodup)
    (shows : ShowsVolumes domain attached volIds)
    (passes : checkShown domain attached volIds disksToCreate = .ok ⟨⟩) :
    disksToCreate = volIds.length + 1 := by
  simp only [checkShown, bind_eq_ok_iff, onlyController_eq_ok_iff, assertDisks,
    require_eq_ok_iff, exists_const] at passes
  obtain ⟨index, ⟨controller, only, indexed⟩, length, _⟩ := passes
  obtain ⟨other, place, otherOnly, otherIndexed, each⟩ := shows.disks
  rw [only, List.cons.injEq] at otherOnly
  rw [← otherOnly.1, indexed, Option.some.injEq] at otherIndexed
  subst otherIndexed
  rw [← length]
  exact ((perm_serialIds_iff distinct).mpr each).1

/-- A server with one disk more than volumes passes the checks exactly if it
has one controller, the volumes are its attachments, and the disks of the
controller are one without a serial and one for each volume. -/
theorem checkVolumes_passes_iff (shows : cloud.Shows state domain attached)
    (distinct : volIds.Nodup) :
    (cloud.checkVolumes volIds (volIds.length + 1) state).1 = .ok ⟨⟩ ↔
      ShowsVolumes domain attached volIds := by
  rw [checkVolumes_of_shows shows]
  exact checkShown_eq_ok_iff distinct

/-- The checks on what a server shows that was booted from its volumes. -/
def checkBooted (domain : ScsiDomain) (attached : List (Option Str))
    (disksToCreate : Nat) : Except ScsiExn PUnit := do
  let index ← onlyController (getScsiDiskControllers domain)
  let scsiDisks := getScsiDisks domain index
  assertDisks ("Expected \x7b\x7d scsi disks on the domain but " ++
    "found \x7b\x7d").toList disksToCreate scsiDisks
  assertCountEqual attached ((getAttachedSerialIds scsiDisks).map some)

theorem testBootWithMultipleDisks_of_shows {imgId : Str}
    {flavorVolumeSize disksToCreate : Nat} {booted : σ}
    (boots : cloud.bootFromVolumes
      (ScsiCloud.bootMapping imgId flavorVolumeSize disksToCreate) state =
        (.ok ⟨⟩, booted))
    (shows : cloud.Shows booted domain attached) :
    cloud.testBootWithMultipleDisks imgId flavorVolumeSize disksToCreate
        state =
      (checkBooted domain attached disksToCreate, booted) := by
  simp only [ScsiCloud.testBootWithMultipleDisks, ScsiCloud.findScsiDisks,
    bind_assoc, pure_bind]
  rw [Run.bind_ok boots, Run.bind_ok shows.domain]
  apply Run.lift_bind
  intro index
  rw [Run.bind_ok shows.domain]
  apply Run.lift_bind
  intro _
  rw [Run.bind_ok shows.attached]
  rfl

/-- A server that was booted from as many volumes as Nova lists passes exactly
if it has one controller, whose disks are one for each volume and no others. -/
theorem testBootWithMultipleDisks_passes_iff {imgId : Str}
    {flavorVolumeSize : Nat} {booted : σ}
    (boots : cloud.bootFromVolumes
      (ScsiCloud.bootMapping imgId flavorVolumeSize volIds.length) state =
        (.ok ⟨⟩, booted))
    (shows : cloud.Shows booted domain (volIds.map some))
    (distinct : volIds.Nodup) :
    (cloud.testBootWithMultipleDisks imgId flavorVolumeSize volIds.length
        state).1 = .ok ⟨⟩ ↔
      ∃ controller index, getScsiDiskControllers domain = [controller] ∧
        controller.index = some index ∧
        OneDiskEach (getScsiDisks domain index) volIds 0 := by
  rw [testBootWithMultipleDisks_of_shows boots shows]
  simp only [checkBooted, bind_eq_ok_iff, onlyController_eq_ok_iff,
    assertDisks, require_eq_ok_iff, exists_const, assertCountEqual_eq_ok_iff,
    perm_map_some_iff, ← perm_serialIds_iff distinct, Nat.add_zero]
  constructor
  · intro checks
    obtain ⟨index, ⟨controller, only, indexed⟩, disks⟩ := checks
    exact ⟨controller, index, only, indexed, disks⟩
  · intro found
    obtain ⟨controller, index, only, indexed, disks⟩ := found
    exact ⟨index, ⟨controller, only, indexed⟩, disks⟩

end Checks

section Limits

variable {σ : Type} {cloud : ScsiCloud σ} {limit : Nat}
  {volumes : σ → List Str} {state : σ} {volIds : List Str}

/-- A cloud that shows the volumes of the server and refuses a volume once the
server has the given number of disks. -/
structure Limited (cloud : ScsiCloud σ) (limit : Nat) (volumes : σ → List Str) :
    Prop where
  boots : ∀ state, ∃ next, cloud.createTestServer state = (.ok ⟨⟩, next) ∧
    volumes next = []
  creates : ∀ state, ∃ volume next,
    cloud.createVolume state = (.ok volume, next) ∧
      volume ∉ volumes state ∧ volumes next = volumes state
  attaches : ∀ state volume, volume ∉ volumes state →
    (volumes state).length + 1 < limit →
      ∃ next, cloud.attachVolume volume state = (.ok ⟨⟩, next) ∧
        volumes next = volumes state ++ [volume]
  refuses : ∀ state volume, limit ≤ (volumes state).length + 1 →
    ∃ next, cloud.attachVolume volume state = (.error .forbidden, next)
  shows : ∀ state, ∃ domain attached, cloud.Shows state domain attached ∧
    ShowsVolumes domain attached (volumes state)

/-- The volumes of the server are the given ones. -/
structure Holds (volumes : σ → List Str) (state : σ) (volIds : List Str) :
    Prop where
  same : volumes state = volIds
  distinct : volIds.Nodup

/-- One turn of the loop attaches a new volume or is refused. -/
theorem addVolume_of_limited (limited : Limited cloud limit volumes)
    (holds : Holds volumes state volIds) :
    (volIds.length + 1 < limit ∧ ∃ volume next,
      cloud.addVolume volIds state = (.ok (volIds ++ [volume]), next) ∧
        Holds volumes next (volIds ++ [volume])) ∨
    (limit ≤ volIds.length + 1 ∧ ∃ next,
      cloud.addVolume volIds state = (.error .forbidden, next)) := by
  obtain ⟨volume, created, creates, fresh, kept⟩ := limited.creates state
  rw [holds.same] at fresh kept
  rw [ScsiCloud.addVolume, Run.bind_ok creates]
  by_cases fits : volIds.length + 1 < limit
  · obtain ⟨next, attaches, grown⟩ :=
      limited.attaches created volume (kept ▸ fresh) (kept ▸ fits)
    rw [kept] at grown
    refine .inl ⟨fits, volume, next, ?_, grown, ?_⟩
    · rw [Run.bind_ok attaches]
      rfl
    · rw [← List.concat_eq_append]
      exact List.Nodup.concat fresh holds.distinct
  · obtain ⟨next, refuses⟩ :=
      limited.refuses created volume (kept ▸ Nat.le_of_not_lt fits)
    exact .inr ⟨Nat.le_of_not_lt fits, next, Run.bind_error refuses⟩

/-- The loop attaches all volumes or is refused. -/
theorem attachVolumes_of_limited (limited : Limited cloud limit volumes)
    (count : Nat) (holds : Holds volumes state volIds)
    (within : volIds.length + 1 ≤ limit) :
    (volIds.length + count + 1 ≤ limit ∧ ∃ found next,
      cloud.attachVolumes count volIds state = (.ok found, next) ∧
        found.length = volIds.length + count ∧ Holds volumes next found) ∨
    (limit < volIds.length + count + 1 ∧ ∃ next,
      cloud.attachVolumes count volIds state = (.error .forbidden, next)) := by
  induction count generalizing state volIds with
  | zero => exact .inl ⟨within, volIds, state, rfl, rfl, holds⟩
  | succ count induction =>
      rw [ScsiCloud.attachVolumes]
      rcases addVolume_of_limited limited holds with
        ⟨fits, volume, next, added, grown⟩ | ⟨full, next, refused⟩
      · have length : (volIds ++ [volume]).length = volIds.length + 1 :=
          List.length_append
        rw [Run.bind_ok added]
        rcases induction grown (by omega) with
          ⟨fitsAll, found, last, attached, total, holdsAll⟩ |
            ⟨tooMany, last, refused⟩
        · exact .inl ⟨by omega, found, last, attached, by omega, holdsAll⟩
        · exact .inr ⟨by omega, last, refused⟩
      · rw [Run.bind_error refused]
        exact .inr ⟨by omega, next, rfl⟩

theorem checkVolumes_of_limited (limited : Limited cloud limit volumes)
    (holds : Holds volumes state volIds) (disksToCreate : Nat) :
    (disksToCreate = volIds.length + 1 ∧
      cloud.checkVolumes volIds disksToCreate state = (.ok ⟨⟩, state)) ∨
    (disksToCreate ≠ volIds.length + 1 ∧ ∃ error,
      cloud.checkVolumes volIds disksToCreate state =
        (.error error, state)) := by
  obtain ⟨domain, attached, shows, volumesShown⟩ := limited.shows state
  rw [holds.same] at volumesShown
  rw [checkVolumes_of_shows shows]
  by_cases right : disksToCreate = volIds.length + 1
  · refine .inl ⟨right, ?_⟩
    rw [right, (checkShown_eq_ok_iff holds.distinct).mpr volumesShown]
  · refine .inr ⟨right, ?_⟩
    cases checked : checkShown domain attached volIds disksToCreate with
    | error error => exact ⟨error, rfl⟩
    | ok value =>
        exact absurd (eq_of_checkShown holds.distinct volumesShown checked)
          right

/-- What the part that both tests have in common comes to. -/
theorem attachAndCheck_of_limited (limited : Limited cloud limit volumes)
    (positive : 1 ≤ limit) (holds : Holds volumes state [])
    (disksToCreate : Nat) :
    (1 ≤ disksToCreate ∧ disksToCreate ≤ limit ∧ ∃ volIds next,
      (cloud.attachVolumes (disksToCreate - 1) [] >>= fun volIds =>
        cloud.checkVolumes volIds disksToCreate) state = (.ok ⟨⟩, next) ∧
        Holds volumes next volIds ∧ disksToCreate = volIds.length + 1) ∨
    (¬ (1 ≤ disksToCreate ∧ disksToCreate ≤ limit) ∧ ∃ error next,
      (cloud.attachVolumes (disksToCreate - 1) [] >>= fun volIds =>
        cloud.checkVolumes volIds disksToCreate) state =
          (.error error, next)) := by
  rcases attachVolumes_of_limited limited (disksToCreate - 1) holds positive
    with ⟨fits, volIds, next, attached, length, holdsAll⟩ |
      ⟨tooMany, next, refused⟩
  · rw [Run.bind_ok attached]
    rw [List.length_nil] at fits length
    rcases checkVolumes_of_limited limited holdsAll disksToCreate with
      ⟨right, passes⟩ | ⟨wrong, error, fails⟩
    · exact .inl ⟨by omega, by omega, volIds, next, passes, holdsAll, right⟩
    · exact .inr ⟨by omega, error, next, fails⟩
  · rw [Run.bind_error refused]
    rw [List.length_nil] at tooMany
    exact .inr ⟨by omega, _, next, rfl⟩

/-- On a cloud with a limit, attaching several volumes passes exactly if the
limit allows the disks. -/
theorem testAttachMultipleScsiDisks_eq_ok_iff
    (limited : Limited cloud limit volumes) (positive : 1 ≤ limit)
    (disksToCreate : Nat) (state : σ) :
    (cloud.testAttachMultipleScsiDisks disksToCreate state).1 = .ok ⟨⟩ ↔
      1 ≤ disksToCreate ∧ disksToCreate ≤ limit := by
  obtain ⟨booted, boots, empty⟩ := limited.boots state
  rw [ScsiCloud.testAttachMultipleScsiDisks, Run.bind_ok boots]
  rcases attachAndCheck_of_limited limited positive ⟨empty, List.nodup_nil⟩
    disksToCreate with ⟨least, most, _, next, passes, _⟩ |
      ⟨outside, error, next, fails⟩
  · rw [passes]
    exact iff_of_true rfl ⟨least, most⟩
  · rw [fails]
    refine iff_of_false ?_ outside
    intro passes
    cases passes

/-- On a cloud with a limit, the test that expects one volume to be refused
passes exactly if the limit is the configured one. -/
theorem testMaxIscsiDisksAttachmentEnforced_passes_iff
    (limited : Limited cloud limit volumes) (positive : 1 ≤ limit)
    (disksToCreate : Nat) (state : σ) :
    (cloud.testMaxIscsiDisksAttachmentEnforced disksToCreate state).1 =
        .ok ⟨⟩ ↔
      limit = disksToCreate := by
  obtain ⟨booted, boots, empty⟩ := limited.boots state
  rw [ScsiCloud.testMaxIscsiDisksAttachmentEnforced, Run.bind_ok boots,
    ← bind_assoc]
  rcases attachAndCheck_of_limited limited positive ⟨empty, List.nodup_nil⟩
    disksToCreate with ⟨least, most, volIds, next, passes, holds, length⟩ |
      ⟨outside, error, next, fails⟩
  · rw [Run.bind_ok passes]
    obtain ⟨volume, created, creates, fresh, kept⟩ := limited.creates next
    rw [holds.same] at fresh kept
    rw [Run.bind_ok creates, ScsiCloud.assertForbidden]
    by_cases full : limit ≤ volIds.length + 1
    · obtain ⟨last, refuses⟩ := limited.refuses created volume (kept ▸ full)
      rw [refuses]
      exact iff_of_true rfl (by omega)
    · obtain ⟨last, attaches, _⟩ := limited.attaches created volume
        (kept ▸ fresh) (kept ▸ Nat.lt_of_not_le full)
      rw [attaches]
      refine iff_of_false ?_ (by omega)
      intro passes
      cases passes
  · rw [Run.bind_error fails]
    refine iff_of_false ?_ (by omega)
    intro passes
    cases passes

end Limits

section LimitedCloud

/-- The volumes of a server in the order of their attachment. -/
structure ServerVolumes where
  volumes : List Str
  distinct : volumes.Nodup

namespace ServerVolumes

/-- A name that no volume of the server has. -/
def newVolume (server : ServerVolumes) : Str :=
  newName server.volumes

/-- A disk on controller 0. -/
def disk (serials : List (Option Str)) : DiskElement :=
  ⟨[some scsiBus], [some "0".toList], serials⟩

def domain (server : ServerVolumes) : ScsiDomain where
  disks := disk [] :: server.volumes.map fun volume => disk [some volume]
  controllers := [⟨some scsiBus, some virtioScsi, some "0".toList⟩]

theorem showsVolumes_domain (server : ServerVolumes) :
    ShowsVolumes server.domain (server.volumes.map some) server.volumes := by
  refine ⟨.refl _, ⟨some scsiBus, some virtioScsi, some "0".toList⟩,
    "0".toList, rfl, rfl, ?_⟩
  have all : getScsiDisks server.domain "0".toList = server.domain.disks := by
    apply List.filter_eq_self.mpr
    intro found member
    rcases List.mem_cons.mp member with rfl | attached
    · rfl
    · obtain ⟨volume, _, rfl⟩ := List.mem_map.mp attached
      rfl
  have serials : getAttachedSerialIds server.domain.disks =
      server.volumes := by
    rw [getAttachedSerialIds, domain, List.filterMap_cons_none rfl,
      List.filterMap_map]
    exact List.filterMap_some
  rw [all, ← perm_serialIds_iff server.distinct, serials]
  exact ⟨by simp [domain], .refl _⟩

end ServerVolumes

/-- A cloud whose state is the volumes of the server. -/
def limitedCloud (limit : Nat) : ScsiCloud ServerVolumes where
  bootFromVolumes _ server := (.ok ⟨⟩, server)
  createTestServer _ := (.ok ⟨⟩, ⟨[], List.nodup_nil⟩)
  createVolume server := (.ok server.newVolume, server)
  attachVolume volume server :=
    if limit ≤ server.volumes.length + 1 then (.error .forbidden, server)
    else if fresh : volume ∉ server.volumes then
      (.ok ⟨⟩, ⟨server.volumes.concat volume, .concat fresh server.distinct⟩)
    else (.error (.other "already attached".toList), server)
  getServerXml server := (.ok server.domain, server)
  listVolumeAttachments server := (.ok (server.volumes.map some), server)

theorem limitedCloud_limited (limit : Nat) :
    Limited (limitedCloud limit) limit ServerVolumes.volumes where
  boots _ := ⟨_, rfl, rfl⟩
  creates server := ⟨_, _, rfl, newName_notMem _, rfl⟩
  attaches server volume fresh fits := by
    refine ⟨⟨server.volumes.concat volume, .concat fresh server.distinct⟩, ?_,
      List.concat_eq_append⟩
    simp only [limitedCloud, if_neg (Nat.not_le_of_lt fits), dif_pos fresh]
  refuses server volume full := ⟨server, if_pos full⟩
  shows server :=
    ⟨server.domain, server.volumes.map some, ⟨rfl, rfl⟩,
      server.showsVolumes_domain⟩

theorem testMaxIscsiDisksAttachmentEnforced_three :
    ((limitedCloud 3).testMaxIscsiDisksAttachmentEnforced 3
        ⟨[], List.nodup_nil⟩).1 = .ok ⟨⟩ ∧
      ((limitedCloud 4).testMaxIscsiDisksAttachmentEnforced 3
        ⟨[], List.nodup_nil⟩).1 ≠ .ok ⟨⟩ := by
  have verdict : ∀ limit, 1 ≤ limit → _ := fun limit positive =>
    testMaxIscsiDisksAttachmentEnforced_passes_iff
      (limitedCloud_limited limit) positive 3 ⟨[], List.nodup_nil⟩
  refine ⟨(verdict 3 (by decide)).mpr rfl, ?_⟩
  rw [ne_eq, verdict 4 (by decide)]
  decide

theorem checkVolumes_passes_twoVolumes :
    let server : ServerVolumes := ⟨["a".toList, "b".toList], by decide⟩
    ((limitedCloud 5).checkVolumes ["a".toList, "b".toList] 3 server).1 =
      .ok ⟨⟩ := by
  intro server
  exact (checkVolumes_passes_iff ⟨rfl, rfl⟩ server.distinct).mpr
    server.showsVolumes_domain

end LimitedCloud

end Whitebox.Compute
