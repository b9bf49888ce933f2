import Whitebox.Common.Waiters
import Whitebox.Effect.Fallible

/-!
# PCI devices in the database

The SR-IOV tests look at the `pci_devices` table of the database.
`_verify_neutron_port_binding` checks every row of a server, and a server
without rows has none that fails.  `_validate_pci_allocation` waits until
exactly one row has a status, which it calls a regular expression, and which
the database compares as it is.
-/

namespace Whitebox.Compute

open Whitebox.Common
open Whitebox.Effect
open Whitebox.Effect.Fallible
open Whitebox.Python

/-- The text of a UUID, which is the same in a quoted literal. -/
structure Uuid where
  text : Str
  plain : text.all (fun c => c.isAlphanum || c == '-') = true
deriving DecidableEq

/-- A status of a PCI device, which is one word. -/
structure PciStatus where
  text : Str
  word : text.all Char.isAlpha = true
deriving DecidableEq

def allocated : PciStatus := ⟨"allocated".toList, by decide⟩

def claimed : PciStatus := ⟨"claimed".toList, by decide⟩

/-- The columns of a row that are read. -/
structure PciDevice where
  instanceUuid : Option Uuid
  address : Str
  status : PciStatus
  devType : Str
deriving DecidableEq

/-- The `pci_devices` table. -/
abbrev PciTable := List PciDevice

section PortBinding

inductive BindingMessage where
  /-- `'PCI function %s is status %s and not status allocated'`. -/
  | notAllocated (address status : Str)
  /-- `'PCI device information in Nova and and Binding profile information in
  Neutron mismatch'`. -/
  | slotMismatch
  /-- `assertEqual` without a message. -/
  | notEqual (expected observed : Str)
  /-- `assertIn` without a message. -/
  | notIn (needle : Str) (haystack : List Str)
deriving DecidableEq

inductive BindingExn where
  | typeError
  | keyError (key : Str)
  | failureException (message : BindingMessage)
deriving DecidableEq

/-- The attributes of a port that are read. -/
structure Port where
  bindingProfile : Option (List (Str × Str))
  vnicType : Option Str

/-- `_search_pci_devices('instance_uuid', server_id)`. -/
def searchPciDevices (table : PciTable) (serverId : Uuid) : List PciDevice :=
  table.filter fun row => row.instanceUuid = some serverId

def pciSlot : Str := "pci_slot".toList

/-- `binding_profile['pci_slot']`. -/
def bindingSlot : Option (List (Str × Str)) → Except BindingExn Str
  | none => .error .typeError
  | some profile =>
      match profile.lookup pciSlot with
      | none => .error (.keyError pciSlot)
      | some slot => .ok slot

def vdpaType : Str := "vdpa".toList
def directPhysicalType : Str := "direct-physical".toList
def pfType : Str := "type-PF".toList
def vfTypes : List Str := ["type-VF".toList, "type-PCI".toList]

/-- The assertions on `dev_type`. -/
def checkDevType (vnicType : Option Str) (devType : Str) :
    Except BindingExn Unit :=
  if vnicType = some vdpaType then
    require (devType = vdpaType) (.failureException (.notEqual devType vdpaType))
  else if vnicType = some directPhysicalType then
    require (devType = pfType) (.failureException (.notEqual devType pfType))
  else
    -- vnic_type direct, macvtap or virtio-forwarder
    require (devType ∈ vfTypes) (.failureException (.notIn devType vfTypes))

/-- One turn of the loop over the rows. -/
def checkPciDevice (port : Port) (row : PciDevice) :
    Except BindingExn Unit := do
  require (row.status = allocated)
    (.failureException (.notAllocated row.address row.status.text))
  let slot ← bindingSlot port.bindingProfile
  require (row.address = slot) (.failureException .slotMismatch)
  checkDevType port.vnicType row.devType

def verifyNeutronPortBinding (table : PciTable) (serverId : Uuid)
    (port : Port) : Except BindingExn Unit :=
  (searchPciDevices table serverId).forM (checkPciDevice port)

/-- The device types that a port can have. -/
def Admissible (vnicType : Option Str) (devType : Str) : Prop :=
  (vnicType = some vdpaType ∧ devType = vdpaType) ∨
  (vnicType = some directPhysicalType ∧ devType = pfType) ∨
  (vnicType ≠ some vdpaType ∧ vnicType ≠ some directPhysicalType ∧
    devType ∈ vfTypes)

/-- The row records that the device of the port is allocated to the server. -/
structure RecordsAllocation (serverId : Uuid) (port : Port)
    (row : PciDevice) : Prop where
  server : row.instanceUuid = some serverId
  slot : ∃ profile, port.bindingProfile = some profile ∧
    profile.lookup pciSlot = some row.address
  status : row.status = allocated
  devType : Admissible port.vnicType row.devType

theorem bindingSlot_eq_ok_iff {profile : Option (List (Str × Str))}
    {slot : Str} :
    bindingSlot profile = .ok slot ↔
      ∃ entries, profile = some entries ∧
        entries.lookup pciSlot = some slot := by
  cases profile with
  | none => simp [bindingSlot]
  | some entries =>
      cases found : entries.lookup pciSlot with
      | none => simp [bindingSlot, found]
      | some present => simp [bindingSlot, found]

theorem checkDevType_eq_ok_iff {vnicType : Option Str} {devType : Str} :
    checkDevType vnicType devType = .ok () ↔ Admissible vnicType devType := by
  have apart : vdpaType ≠ directPhysicalType := by decide
  unfold checkDevType Admissible
  by_cases vdpa : vnicType = some vdpaType
  · simp [vdpa, require_eq_ok_iff, apart]
  · by_cases physical : vnicType = some directPhysicalType
    · simp [physical, require_eq_ok_iff, apart.symm]
    · simp [vdpa, physical, require_eq_ok_iff]

theorem checkPciDevice_eq_ok_iff {serverId : Uuid} {port : Port}
    {row : PciDevice} (server : row.instanceUuid = some serverId) :
    checkPciDevice port row = .ok () ↔
      RecordsAllocation serverId port row := by
  unfold checkPciDevice
  constructor
  · intro returned
    obtain ⟨_, status, rest⟩ := bind_eq_ok_iff.mp returned
    obtain ⟨slot, bound, rest⟩ := bind_eq_ok_iff.mp rest
    obtain ⟨_, address, devType⟩ := bind_eq_ok_iff.mp rest
    have same := require_eq_ok_iff.mp address
    obtain ⟨profile, present, lookup⟩ := bindingSlot_eq_ok_iff.mp bound
    refine ⟨server, ⟨profile, present, ?_⟩, ?_, ?_⟩
    · rw [same]
      exact lookup
    · exact require_eq_ok_iff.mp status
    · exact checkDevType_eq_ok_iff.mp devType
  · intro records
    apply bind_eq_ok_iff.mpr
    refine ⟨(), require_eq_ok_iff.mpr records.status, ?_⟩
    apply bind_eq_ok_iff.mpr
    refine ⟨row.address, bindingSlot_eq_ok_iff.mpr records.slot, ?_⟩
    apply bind_eq_ok_iff.mpr
    refine ⟨(), require_eq_ok_iff.mpr rfl, ?_⟩
    exact checkDevType_eq_ok_iff.mpr records.devType

/-- The check passes exactly if every row of the server records the allocation,
of which there may be none. -/
theorem verifyNeutronPortBinding_eq_ok_iff {table : PciTable} {serverId : Uuid}
    {port : Port} :
    verifyNeutronPortBinding table serverId port = .ok () ↔
      ∀ row ∈ table, row.instanceUuid = some serverId →
        RecordsAllocation serverId port row := by
  apply forM_eq_ok_iff.trans
  simp only [searchPciDevices, List.mem_filter, decide_eq_true_eq]
  constructor
  · intro checked row member server
    exact (checkPciDevice_eq_ok_iff server).mp (checked row ⟨member, server⟩)
  · intro records row both
    exact (checkPciDevice_eq_ok_iff both.2).mpr (records row both.1 both.2)

/-- The check cannot pass on a lost allocation exactly if the table has a row
of the server. -/
theorem verifyNeutronPortBinding_detects_iff (table : PciTable)
    (serverId : Uuid) (port : Port) :
    (verifyNeutronPortBinding table serverId port = .ok () →
        ∃ row ∈ table, RecordsAllocation serverId port row) ↔
      ∃ row ∈ table, row.instanceUuid = some serverId := by
  rw [verifyNeutronPortBinding_eq_ok_iff]
  constructor
  · intro detects
    by_contra absent
    have lost : ∀ row ∈ table, row.instanceUuid = some serverId →
        RecordsAllocation serverId port row := by
      intro row member server
      exact absurd ⟨row, member, server⟩ absent
    obtain ⟨row, member, records⟩ := detects lost
    exact absent ⟨row, member, records.server⟩
  · intro present records
    obtain ⟨row, member, server⟩ := present
    exact ⟨row, member, records row member server⟩

/-- After the loss of its device a server passes the check. -/
theorem verifyNeutronPortBinding_lost_device :
    let serverId : Uuid := ⟨"7d2f".toList, by decide⟩
    let port : Port :=
      ⟨some [(pciSlot, "0000:05:10.1".toList)], some "direct".toList⟩
    let table : PciTable :=
      [⟨none, "0000:05:10.1".toList, ⟨"available".toList, by decide⟩,
        "type-VF".toList⟩]
    verifyNeutronPortBinding table serverId port = .ok () ∧
      ¬ ∃ row ∈ table, RecordsAllocation serverId port row := by
  refine ⟨by decide, ?_⟩
  intro found
  obtain ⟨row, member, records⟩ := found
  cases List.mem_singleton.mp member
  cases records.server

end PortBinding

section Allocation

/-- `_get_pci_status_count(status, pci_address)`; an empty address is not put
into the query. -/
def getPciStatusCount (table : PciTable) (status : Str)
    (pciAddress : Option Str) : Nat :=
  match pciAddress with
  | none | some [] => table.countP fun row => row.status.text = status
  | some address => table.countP fun row =>
      row.status.text = status ∧ row.address = address

/-- Statuses with bars between them. -/
structure StatusPattern where
  first : PciStatus
  others : List PciStatus

namespace StatusPattern

def alternatives (pattern : StatusPattern) : List PciStatus :=
  pattern.first :: pattern.others

def text (pattern : StatusPattern) : Str :=
  join '|' (pattern.alternatives.map PciStatus.text)

end StatusPattern

/-- The pattern of `_base_test_live_migration`. -/
def liveMigrationPattern (sriovHotplug : Bool) : StatusPattern :=
  if sriovHotplug then ⟨allocated, []⟩ else ⟨allocated, [claimed]⟩

/-- The rows whose status is one of the alternatives. -/
def countAmong (table : PciTable) (pattern : StatusPattern) : Nat :=
  table.countP fun row => row.status ∈ pattern.alternatives

inductive AllocationExn where
  /-- `TimeoutException(count, 1, 'Total allocated pci devices should be 1 but
  instead is %s' % count)`. -/
  | timeoutException (count : Nat)
  | unboundLocalError (name : Str)
deriving DecidableEq

/-- The readings of a clock between which the loop sleeps. -/
structure PollClock where
  reading : Nat → ℚ
  passes : ∀ limit : Int, ∃ n, limit < seconds (reading (n + 1))

variable (timeout : Int) (clock : PollClock) (tables : Nat → PciTable)

/-- The exception after the loop, where the count is unbound if there was no
turn. -/
def allocationTimeout : Option Nat → AllocationExn
  | none => .unboundLocalError "pci_allocated_count".toList
  | some count => .timeoutException count

/-- One turn of the loop, with the number of the turn and the last count. -/
def allocationTurn (status : Str) (state : Nat × Option Nat) :
    Turn (Nat × Option Nat) (Except AllocationExn Unit) :=
  if inTime timeout clock.reading state.1 then
    let count := getPciStatusCount (tables state.1) status none
    if count = 1 then .done (.ok ())
    else .again (state.1 + 1, some count)
  else .done (.error (allocationTimeout state.2))

/-- `_validate_pci_allocation(status)` ends with the outcome. -/
def ValidatePciAllocation (status : Str)
    (outcome : Except AllocationExn Unit) : Prop :=
  Turn.Ends (allocationTurn timeout clock tables status) (0, none) outcome

/-- The table is looked at unless an earlier one ends the wait. -/
def PolledInTime (n : Nat) : Prop :=
  ∀ m ≤ n, inTime timeout clock.reading m

/-- Some table in time has exactly one row with one of the statuses. -/
def OneAmong (pattern : StatusPattern) : Prop :=
  ∃ n, PolledInTime timeout clock n ∧ countAmong (tables n) pattern = 1

/-- The wait returns exactly if some table in time has one row with one of the
statuses, and otherwise it raises the timeout. -/
def WaitsForOneAmong (pattern : StatusPattern) : Prop :=
  (ValidatePciAllocation timeout clock tables pattern.text (.ok ()) ↔
    OneAmong timeout clock tables pattern) ∧
  (¬ OneAmong timeout clock tables pattern →
    ∃ count, ValidatePciAllocation timeout clock tables pattern.text
      (.error (.timeoutException count)))

section Count

/-- A bar in the pattern stands in no status. -/
theorem getPciStatusCount_of_bar (table : PciTable) {status : Str}
    (bar : '|' ∈ status) : getPciStatusCount table status none = 0 := by
  unfold getPciStatusCount
  rw [List.countP_eq_zero]
  intro row _ same
  have letter := List.all_eq_true.mp row.status.word '|' (by
    rw [of_decide_eq_true same]
    exact bar)
  exact absurd letter (by decide)

theorem bar_mem_text {pattern : StatusPattern} (several : pattern.others ≠ []) :
    '|' ∈ pattern.text := by
  obtain ⟨second, others, shape⟩ := List.exists_cons_of_ne_nil several
  rw [StatusPattern.text, StatusPattern.alternatives, shape, List.map_cons,
    List.map_cons, join_cons_cons]
  simp

theorem getPciStatusCount_single (table : PciTable) (status : PciStatus) :
    getPciStatusCount table (StatusPattern.text ⟨status, []⟩) none =
      countAmong table ⟨status, []⟩ := by
  have same : ∀ row : PciDevice, row.status.text = status.text ↔
      row.status = status := by
    intro row
    obtain ⟨text, word⟩ := status
    constructor
    · intro texts
      cases found : row.status
      rw [found] at texts
      cases texts
      rfl
    · intro equal
      rw [equal]
  unfold getPciStatusCount countAmong
  apply List.countP_congr
  intro row _
  simp [StatusPattern.text, StatusPattern.alternatives, same]

/-- The count is the one of the alternatives exactly if there is one of them or
none of them occurs. -/
theorem getPciStatusCount_text_iff (table : PciTable)
    (pattern : StatusPattern) :
    getPciStatusCount table pattern.text none = countAmong table pattern ↔
      pattern.others = [] ∨ countAmong table pattern = 0 := by
  by_cases single : pattern.others = []
  · obtain ⟨first, others⟩ := pattern
    cases single
    exact iff_of_true (getPciStatusCount_single table first) (.inl rfl)
  · rw [getPciStatusCount_of_bar table (bar_mem_text single), eq_comm]
    exact (or_iff_right single).symm

end Count

section Wait

variable {timeout clock tables} {status : Str}

/-- The state before each turn. -/
def allocationState (tables : Nat → PciTable) (status : Str) :
    Nat → Nat × Option Nat
  | 0 => (0, none)
  | n + 1 => (n + 1, some (getPciStatusCount (tables n) status none))

theorem allocationState_fst (n : Nat) :
    (allocationState tables status n).1 = n := by
  cases n <;> rfl

/-- The wait polls the table until one row has the whole text as its status. -/
theorem allocationTurn_polls (timeout : Int) (clock : PollClock)
    (tables : Nat → PciTable) (status : Str) :
    Turn.Polls (allocationTurn timeout clock tables status)
      (allocationState tables status) (inTime timeout clock.reading)
      (fun n => getPciStatusCount (tables n) status none = 1)
      (fun n => .error (allocationTimeout (allocationState tables status n).2))
      (.ok ()) where
  givesUp := by
    intro n late
    rw [allocationTurn, allocationState_fst, if_neg late]
  finds := by
    intro n timely one
    rw [allocationTurn, allocationState_fst, if_pos timely]
    exact if_pos one
  goesOn := by
    intro n timely other
    rw [allocationTurn, allocationState_fst, if_pos timely]
    exact if_neg other

/-- The wait returns exactly if some table in time has one row with the whole
text as its status. -/
theorem validatePciAllocation_returns_iff :
    ValidatePciAllocation timeout clock tables status (.ok ()) ↔
      ∃ n, PolledInTime timeout clock n ∧
        getPciStatusCount (tables n) status none = 1 := by
  apply (allocationTurn_polls timeout clock tables status).ends_found_iff
  intro n same
  cases same

theorem exists_late (timeout : Int) (clock : PollClock) :
    ∃ n, ¬ inTime timeout clock.reading n := by
  obtain ⟨n, passed⟩ := clock.passes (timeout + seconds (clock.reading 0))
  refine ⟨n, ?_⟩
  unfold inTime
  omega

/-- The wait raises the timeout exactly if it has a first turn and no table in
time has one row with the whole text as its status. -/
theorem validatePciAllocation_raises_iff :
    (∃ count, ValidatePciAllocation timeout clock tables status
        (.error (.timeoutException count))) ↔
      inTime timeout clock.reading 0 ∧
        ¬ ∃ n, PolledInTime timeout clock n ∧
          getPciStatusCount (tables n) status none = 1 := by
  have polls := allocationTurn_polls timeout clock tables status
  constructor
  · intro raises
    obtain ⟨count, ends⟩ := raises
    constructor
    · obtain ⟨n, ended, before⟩ := polls.ends_iff.mp ends
      cases n with
      | zero =>
          -- Without a turn the count is unbound.
          rcases ended with ⟨_, same⟩ | ⟨_, _, same⟩
          · cases same
          · cases same
      | succ n => exact (before 0 (Nat.succ_pos n)).1
    · intro found
      cases ends.unique (validatePciAllocation_returns_iff.mpr found)
  · intro both
    obtain ⟨begins, missing⟩ := both
    obtain ⟨n, late, ends⟩ :=
      polls.ends_late missing (exists_late timeout clock)
    cases n with
    | zero => exact absurd begins late
    | succ n => exact ⟨_, ends⟩

end Wait

/-- The wait counts the alternatives of its pattern exactly if it has a first
turn and there is only one alternative or nothing to wait for, and a count is
right exactly if there is only one alternative or nothing to count. -/
theorem validatePciAllocation_counts_iff (pattern : StatusPattern) :
    (WaitsForOneAmong timeout clock tables pattern ↔
      inTime timeout clock.reading 0 ∧
        (pattern.others = [] ∨ ¬ OneAmong timeout clock tables pattern)) ∧
    ∀ table, getPciStatusCount table pattern.text none =
        countAmong table pattern ↔
      pattern.others = [] ∨ countAmong table pattern = 0 := by
  refine ⟨?_, fun table => getPciStatusCount_text_iff table pattern⟩
  unfold WaitsForOneAmong
  rw [validatePciAllocation_returns_iff, validatePciAllocation_raises_iff]
  by_cases single : pattern.others = []
  · have counts : ∀ table, getPciStatusCount table pattern.text none =
        countAmong table pattern := by
      intro table
      exact (getPciStatusCount_text_iff table pattern).mpr (.inl single)
    have begins : OneAmong timeout clock tables pattern →
        inTime timeout clock.reading 0 := by
      intro one
      obtain ⟨n, polled, _⟩ := one
      exact polled 0 (Nat.zero_le n)
    simp only [counts]
    constructor
    · intro waits
      refine ⟨?_, .inl single⟩
      by_cases one : OneAmong timeout clock tables pattern
      · exact begins one
      · exact (waits.2 one).1
    · intro condition
      exact ⟨Iff.rfl, fun missing => ⟨condition.1, missing⟩⟩
  · have zero : ∀ table, getPciStatusCount table pattern.text none = 0 := by
      intro table
      exact getPciStatusCount_of_bar table (bar_mem_text single)
    have never : ¬ ∃ n, PolledInTime timeout clock n ∧
        getPciStatusCount (tables n) pattern.text none = 1 := by
      intro found
      obtain ⟨n, _, one⟩ := found
      rw [zero] at one
      cases one
    constructor
    · intro waits
      have missing : ¬ OneAmong timeout clock tables pattern :=
        fun one => never (waits.1.mpr one)
      exact ⟨(waits.2 missing).1, .inr missing⟩
    · intro condition
      have missing := condition.2.resolve_left single
      exact ⟨iff_of_false never missing, fun _ => ⟨condition.1, never⟩⟩

theorem seconds_natCast (n : Nat) : seconds (n : ℚ) = n := by
  rw [seconds, truncate, if_neg (not_lt.mpr (Nat.cast_nonneg n)),
    Int.floor_natCast]

/-- A clock that is one second later at each reading. -/
def secondsClock : PollClock where
  reading := fun n => n
  passes := by
    intro limit
    refine ⟨limit.toNat, ?_⟩
    rw [seconds_natCast]
    omega

/-- Without hot-plugging, the wait for the only allocated device times out. -/
theorem validatePciAllocation_live_migration :
    let pattern := liveMigrationPattern false
    let table : PciTable := [⟨none, "0000:05:10.1".toList, allocated,
      "type-VF".toList⟩]
    pattern.text = "allocated|claimed".toList ∧
      OneAmong 2 secondsClock (fun _ => table) pattern ∧
      ValidatePciAllocation 2 secondsClock (fun _ => table) pattern.text
        (.error (.timeoutException 0)) := by
  refine ⟨rfl, ⟨0, ?_, by decide⟩, 3, by decide⟩
  intro m atMost
  cases Nat.le_zero.mp atMost
  decide

end Allocation

end Whitebox.Compute
