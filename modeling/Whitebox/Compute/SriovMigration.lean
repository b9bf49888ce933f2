import Whitebox.Compute.DomainDevices
import Whitebox.Compute.LiveMigration
import Whitebox.Effect.Bounded

/-!
# Live migration with an SR-IOV port

The test migrates a server to another host and, where this is configured, back
to its first host.  After each migration it looks up the interface of the port
in the domain and the devices of the server in the database, and waits for the
number of allocated devices to be one.

The status to wait for depends on whether ports can be hot-plugged.  Where they
cannot, two statuses are meant, but no row has the text with both of them.
-/

namespace Whitebox.Compute

open Whitebox.Python
open Whitebox.Effect
open Whitebox.Effect.Fallible

inductive SriovMigrationExn where
  | device (error : DeviceExn)
  | binding (error : BindingExn)
  | allocation (error : AllocationExn)
  | liveMigration (message : LiveMigrationMessage)
  | other (message : Str)

/-- What the cloud answers during a migration and the checks after it. -/
structure MigrationRound where
  hostBefore : Str
  /-- The request and the wait for the status `ACTIVE`. -/
  migrated : Except SriovMigrationExn Unit
  hostAfter : Str
  port : PortDetails
  domain : Element
  /-- The port and the table when the binding is verified. -/
  boundPort : Port
  table : PciTable
  clock : PollClock
  /-- The tables that the wait looks at. -/
  tables : Nat → PciTable

namespace MigrationRound

variable (round : MigrationRound) (serverId : Uuid)

def liveMigrate (targetHost : Option Str) : Except SriovMigrationExn Unit :=
  LiveMigration.run ⟨.ok round.hostBefore, round.migrated, .ok round.hostAfter⟩
    (Except.mapError .liveMigration) serverId.text targetHost

/-- The checks before the wait. -/
def inspect (vlanId : Int) : Except SriovMigrationExn Unit := do
  let element ← (getXmlInterfaceDevice round.domain round.port).mapError .device
  (validatePortXmlVlanTag element vlanId).mapError .device
  (verifyNeutronPortBinding round.table serverId round.boundPort).mapError
    .binding

def validatePciAllocation (timeout : Int) (status : Str) :
    Bounded AllocationExn Unit :=
  .loop (allocationTurn timeout round.clock round.tables status) (0, none)

/-- A migration and the checks after it. -/
def run (targetHost : Option Str) (vlanId timeout : Int) (status : Str) :
    Bounded SriovMigrationExn Unit := do
  .lift (round.liveMigrate serverId targetHost)
  .lift (round.inspect serverId vlanId)
  (round.validatePciAllocation timeout status).mapError .allocation

end MigrationRound

structure SriovMigration where
  sriovHotplug : Bool
  liveMigrateBackAndForth : Bool
  vlanId : Int
  timeout : Int
  /-- The creation of the flavor, the port and the server. -/
  createServer : Except SriovMigrationExn Uuid
  host : Str
  there : MigrationRound
  back : MigrationRound

namespace SriovMigration

variable (test : SriovMigration)

def pciDeviceStatusRegex : Str :=
  (liveMigrationPattern test.sriovHotplug).text

def migrateBack (serverId : Uuid) : Bounded SriovMigrationExn Unit :=
  if test.liveMigrateBackAndForth then
    test.back.run serverId (some test.host) test.vlanId test.timeout
      test.pciDeviceStatusRegex
  else pure ()

def baseTestLiveMigration : Bounded SriovMigrationExn Unit := do
  let serverId ← .lift test.createServer
  test.there.run serverId none test.vlanId test.timeout
    test.pciDeviceStatusRegex
  test.migrateBack serverId

end SriovMigration

/-- The domain that is looked at is that of a guest with the devices. -/
structure MigrationRound.Shows (round : MigrationRound)
    (devices : GuestDevices) (vnicType : Str) : Prop where
  listed : devices.ShownBy round.domain
  vnic : round.port.vnicType = some vnicType

/-- The port survives the migration. -/
structure MigrationRound.Keeps (round : MigrationRound) (serverId : Uuid)
    (targetHost : Option Str) (devices : GuestDevices) (vnicType : Str)
    (vlanId timeout : Int) : Prop where
  migrated : round.migrated = .ok ()
  moves : Moves round.hostBefore targetHost round.hostAfter
  inDomain : devices.HasPort round.port vnicType vlanId
  inTable : ∀ row ∈ round.table, row.instanceUuid = some serverId →
    RecordsAllocation serverId round.boundPort row
  once : ∃ n, PolledInTime timeout round.clock n ∧
    (round.tables n).countP (fun row => row.status = allocated) = 1

section Wait

variable {timeout : Int} {clock : PollClock} {tables : Nat → PciTable}

/-- The wait always ends. -/
theorem exists_validatePciAllocation (timeout : Int) (clock : PollClock)
    (tables : Nat → PciTable) (status : Str) :
    ∃ outcome, ValidatePciAllocation timeout clock tables status outcome := by
  by_cases found : ∃ n, PolledInTime timeout clock n ∧
      getPciStatusCount (tables n) status none = 1
  · exact ⟨.ok (), validatePciAllocation_returns_iff.mpr found⟩
  · obtain ⟨n, _, ends⟩ :=
      (allocationTurn_polls timeout clock tables status).ends_late found
        (exists_late timeout clock)
    exact ⟨_, ends⟩

theorem getPciStatusCount_allocated (table : PciTable) :
    getPciStatusCount table (liveMigrationPattern true).text none =
      table.countP fun row => row.status = allocated := by
  have counts := (getPciStatusCount_text_iff table
    (liveMigrationPattern true)).mpr (.inl rfl)
  rw [counts, countAmong]
  simp [liveMigrationPattern, StatusPattern.alternatives]

theorem getPciStatusCount_without_hotplug (table : PciTable) :
    getPciStatusCount table (liveMigrationPattern false).text none = 0 := by
  apply getPciStatusCount_of_bar
  apply bar_mem_text
  exact List.cons_ne_nil claimed []

/-- The wait for the pattern of the test returns only where ports can be
hot-plugged. -/
theorem validatePciAllocation_pattern_iff {sriovHotplug : Bool} :
    ValidatePciAllocation timeout clock tables
        (liveMigrationPattern sriovHotplug).text (.ok ()) ↔
      sriovHotplug = true ∧ ∃ n, PolledInTime timeout clock n ∧
        (tables n).countP (fun row => row.status = allocated) = 1 := by
  rw [validatePciAllocation_returns_iff]
  cases sriovHotplug with
  | true => simp only [getPciStatusCount_allocated, true_and]
  | false =>
      simp only [getPciStatusCount_without_hotplug, zero_ne_one, and_false,
        exists_false, Bool.false_eq_true, false_and]

end Wait

section Rounds

variable {round : MigrationRound} {serverId : Uuid} {targetHost : Option Str}
  {devices : GuestDevices} {vnicType : Str} {vlanId timeout : Int}

theorem inspect_eq_ok_iff (shows : round.Shows devices vnicType)
    {value : Unit} :
    round.inspect serverId vlanId = .ok value ↔
      devices.HasPort round.port vnicType vlanId ∧
      ∀ row ∈ round.table, row.instanceUuid = some serverId →
        RecordsAllocation serverId round.boundPort row := by
  rw [← exists_taggedInterface_iff shows.listed shows.vnic vlanId,
    ← verifyNeutronPortBinding_eq_ok_iff]
  cases value
  simp only [MigrationRound.inspect, bind_eq_ok_iff, mapError_eq_ok_iff,
    Unique.exists_iff, PUnit.default_eq_unit, exists_and_right, ← and_assoc]

theorem run_terminates (round : MigrationRound) (serverId : Uuid)
    (targetHost : Option Str) (vlanId timeout : Int) (status : Str) :
    (round.run serverId targetHost vlanId timeout status).Terminates := by
  apply Bounded.seq_terminates (Bounded.lift_terminates _)
  intro _
  apply Bounded.seq_terminates (Bounded.lift_terminates _)
  intro _
  apply Bounded.mapError_terminates
  exact exists_validatePciAllocation timeout round.clock round.tables status

/-- A migration passes its checks exactly if the port survives it and ports can
be hot-plugged. -/
theorem run_ends_ok_iff (shows : round.Shows devices vnicType)
    {sriovHotplug : Bool} :
    (round.run serverId targetHost vlanId timeout
        (liveMigrationPattern sriovHotplug).text).Ends (.ok ()) ↔
      sriovHotplug = true ∧
        round.Keeps serverId targetHost devices vnicType vlanId timeout := by
  have waits : (round.validatePciAllocation timeout
      (liveMigrationPattern sriovHotplug).text).Ends (.ok ()) ↔ _ :=
    validatePciAllocation_pattern_iff
  simp only [MigrationRound.run, Bounded.seq_ends_ok_iff,
    Bounded.lift_ends_iff, Bounded.mapError_ends_ok_iff, exists_const,
    MigrationRound.liveMigrate, LiveMigration.run_eq_ok_iff,
    inspect_eq_ok_iff shows, waits]
  constructor
  · intro passes
    obtain ⟨⟨migrated, moves⟩, ⟨inDomain, inTable⟩, hotplug, once⟩ := passes
    exact ⟨hotplug, migrated, moves, inDomain, inTable, once⟩
  · intro both
    obtain ⟨hotplug, keeps⟩ := both
    exact ⟨⟨keeps.migrated, keeps.moves⟩, ⟨keeps.inDomain, keeps.inTable⟩,
      hotplug, keeps.once⟩

end Rounds

section Verdict

variable {test : SriovMigration} {serverId : Uuid}
  {devices devicesBack : GuestDevices} {vnicType vnicTypeBack : Str}

theorem migrateBack_terminates (test : SriovMigration) (serverId : Uuid) :
    (test.migrateBack serverId).Terminates := by
  unfold SriovMigration.migrateBack
  split
  · exact run_terminates _ _ _ _ _ _
  · exact Bounded.lift_terminates _

theorem baseTestLiveMigration_terminates (test : SriovMigration) :
    test.baseTestLiveMigration.Terminates := by
  apply Bounded.seq_terminates (Bounded.lift_terminates _)
  intro serverId
  apply Bounded.seq_terminates (run_terminates _ _ _ _ _ _)
  intro _
  exact migrateBack_terminates test serverId

theorem migrateBack_ends_ok_iff
    (shows : test.back.Shows devices vnicType) :
    (test.migrateBack serverId).Ends (.ok ()) ↔
      (test.liveMigrateBackAndForth = true → test.sriovHotplug = true ∧
        test.back.Keeps serverId (some test.host) devices vnicType test.vlanId
          test.timeout) := by
  unfold SriovMigration.migrateBack
  split
  · next back =>
      rw [SriovMigration.pciDeviceStatusRegex, run_ends_ok_iff shows]
      simp only [back, forall_const]
  · next back =>
      rw [Bounded.pure_ends_iff]
      exact iff_of_true rfl fun forth => absurd forth back

/-- The test passes exactly if ports can be hot-plugged and the port survives
the migrations, and otherwise it raises. -/
theorem baseTestLiveMigration_passes_iff
    (created : test.createServer = .ok serverId)
    (there : test.there.Shows devices vnicType)
    (back : test.back.Shows devicesBack vnicTypeBack) :
    (test.baseTestLiveMigration.Ends (.ok ()) ↔
      test.sriovHotplug = true ∧
      test.there.Keeps serverId none devices vnicType test.vlanId
        test.timeout ∧
      (test.liveMigrateBackAndForth = true →
        test.back.Keeps serverId (some test.host) devicesBack vnicTypeBack
          test.vlanId test.timeout)) ∧
    (¬ test.baseTestLiveMigration.Ends (.ok ()) →
      ∃ error, test.baseTestLiveMigration.Ends (.error error)) := by
  constructor
  · simp only [SriovMigration.baseTestLiveMigration, Bounded.seq_ends_ok_iff,
      Bounded.lift_ends_iff, created, Except.ok.injEq, exists_eq_left',
      exists_const, SriovMigration.pciDeviceStatusRegex, run_ends_ok_iff there,
      migrateBack_ends_ok_iff back]
    constructor
    · intro passes
      obtain ⟨⟨hotplug, keeps⟩, keepsBack⟩ := passes
      exact ⟨hotplug, keeps, fun both => (keepsBack both).2⟩
    · intro conditions
      obtain ⟨hotplug, keeps, keepsBack⟩ := conditions
      exact ⟨⟨hotplug, keeps⟩, fun both => ⟨hotplug, keepsBack both⟩⟩
  · intro fails
    apply (baseTestLiveMigration_terminates test).raises
    intro returns
    obtain ⟨_, ends⟩ := returns
    exact fails ends

end Verdict

section BackAndForth

/-- A migration after which the server has its device. -/
def keptRound (serverId : Uuid) (hostBefore hostAfter : Str) :
    MigrationRound where
  hostBefore := hostBefore
  migrated := .ok ()
  hostAfter := hostAfter
  port := ⟨⟨none, some "direct".toList⟩, "a".toList⟩
  domain := interfaceDomain "a".toList
  boundPort := ⟨some [(pciSlot, "0000:05:10.1".toList)], some "direct".toList⟩
  table := [⟨some serverId, "0000:05:10.1".toList, allocated,
    "type-VF".toList⟩]
  clock := secondsClock
  tables _ := [⟨some serverId, "0000:05:10.1".toList, allocated,
    "type-VF".toList⟩]

/-- A migration to another host and back. -/
def keptMigration (serverId : Uuid) (sriovHotplug : Bool) :
    SriovMigration where
  sriovHotplug := sriovHotplug
  liveMigrateBackAndForth := true
  vlanId := 101
  timeout := 2
  createServer := .ok serverId
  host := "first".toList
  there := keptRound serverId "first".toList "second".toList
  back := keptRound serverId "second".toList "first".toList

theorem keptRound_shows (serverId : Uuid) (hostBefore hostAfter : Str) :
    (keptRound serverId hostBefore hostAfter).Shows
      (interfaceDevices "a".toList) "direct".toList :=
  ⟨interfaceDevices_shown _, rfl⟩

theorem keptRound_keeps (serverId : Uuid) (hostBefore hostAfter : Str)
    {targetHost : Option Str}
    (moves : Moves hostBefore targetHost hostAfter) :
    (keptRound serverId hostBefore hostAfter).Keeps serverId targetHost
      (interfaceDevices "a".toList) "direct".toList 101 2 where
  migrated := rfl
  moves := moves
  inDomain := interfaceDevices_hasPort _
  inTable := by
    intro row member server
    cases List.mem_singleton.mp member
    have admissible : Admissible (some "direct".toList) "type-VF".toList :=
      .inr (.inr (by decide))
    exact ⟨server, ⟨_, rfl, List.lookup_cons_self⟩, rfl, admissible⟩
  once := by
    have begins : PolledInTime 2 secondsClock 0 := by
      intro m atMost
      cases Nat.le_zero.mp atMost
      decide
    exact ⟨0, begins, rfl⟩

/-- One deployment where the port survives both migrations passes with
hot-plugging and fails without it. -/
theorem baseTestLiveMigration_passes_hotplug :
    let serverId : Uuid := ⟨"7d2f".toList, by decide⟩
    (keptMigration serverId true).baseTestLiveMigration.Ends (.ok ()) ∧
      ¬ (keptMigration serverId false).baseTestLiveMigration.Ends (.ok ()) := by
  intro serverId
  have there := keptRound_shows serverId "first".toList "second".toList
  have back := keptRound_shows serverId "second".toList "first".toList
  constructor
  · have verdict := baseTestLiveMigration_passes_iff
      (rfl : (keptMigration serverId true).createServer = .ok serverId)
      there back
    apply verdict.1.mpr
    refine ⟨rfl, keptRound_keeps _ _ _ ?_, fun _ =>
      keptRound_keeps _ _ _ ?_⟩
    · change "first".toList ≠ "second".toList
      decide
    · rfl
  · intro passes
    have verdict := baseTestLiveMigration_passes_iff
      (rfl : (keptMigration serverId false).createServer = .ok serverId)
      there back
    exact Bool.false_ne_true (verdict.1.mp passes).1

end BackAndForth

end Whitebox.Compute
