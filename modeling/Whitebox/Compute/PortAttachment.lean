import Whitebox.Compute.DomainDevices
import Whitebox.Effect.Trace

/-!
# Attaching a port to one server after the other

The hot-plug tests attach one SR-IOV port to a server, look at it from all
sides, detach it, wait until Neutron shows it without a device, and go on with
the next server.  A port has a phase, and the protocol that every run obeys
says in which phase it is attached and detached.  Only what is done to this port
and seen of it changes its phase.
-/

namespace Whitebox.Compute

open Whitebox.Python
open Whitebox.Effect
open Whitebox.Effect.Fallible
open Whitebox.Common

section Checks

/-- The port that was created, with the addresses of its `fixed_ips`. -/
structure CreatedPort where
  id : Str
  fixedIps : List Str
  macAddress : Str
  vnicType : Option Str

/-- `['interfaceAttachment']` of the answer to an attachment. -/
structure InterfaceAttachment where
  portId : Str
  netId : Str
  fixedIps : List Str
  macAddr : Str

/-- `fixed_ips[0]['ip_address']`. -/
def firstAddress : List Str → Except DeviceExn Str
  | [] => .error .indexError
  | address :: _ => .ok address

def ensureEqual (first second : Str) : Except DeviceExn Unit :=
  require (first = second) (.failureException (.notEqual first second))

def validatePortDataAfterAttach (netId : Str) (port : CreatedPort)
    (iface : InterfaceAttachment) : Except DeviceExn Unit := do
  let portIpAddr ← firstAddress port.fixedIps
  ensureEqual iface.portId port.id
  ensureEqual iface.netId netId
  let ifaceIpAddr ← firstAddress iface.fixedIps
  ensureEqual ifaceIpAddr portIpAddr
  let vnicType ← requireVnicType port.vnicType
  if vnicType = directPhysicalType then
    -- A physical port takes over the address of the device.
    require (iface.macAddr ≠ port.macAddress)
      (.failureException (.equal iface.macAddr))
  else
    ensureEqual iface.macAddr port.macAddress

/-- The identifiers of a device as `lspci -nn` prints them. -/
def idsText (vendor product : VendorId) : Str :=
  vendor.text ++ ':' :: product.text

/-- A line of `lspci -nn`: the identifiers are in brackets, and nothing else in
the line looks like identifiers. -/
structure ListedDevice where
  front : Str
  vendor : VendorId
  product : VendorId
  back : Str
  oneLine : '\n' ∉ front ∧ '\n' ∉ back
  plain : ∀ vendor product, ¬ idsText vendor product <:+: front ∧
    ¬ idsText vendor product <:+: back

def ListedDevice.line (device : ListedDevice) : Str :=
  device.front ++ '[' :: (idsText device.vendor device.product ++
    ']' :: device.back)

/-- The output of `lspci -nn  | grep {0}:{1} | wc -l` in a guest. -/
def lspciCommand (vendor product : VendorId) (devices : List ListedDevice) :
    Str :=
  Posix.countLines (Posix.grep (Posix.Regex.word (idsText vendor product))
    (Posix.terminated (devices.map ListedDevice.line)))

/-- `_check_device_in_guest`, after the command has returned. -/
def checkDeviceInGuest (sysOut : Option Str) : Except DeviceExn Unit :=
  match sysOut with
  | none => .error (.failureException (.text
      ("Unable to find vendor id sriov vendor id when checking the " ++
        "guest").toList))
  | some output =>
      match int output with
      | none => .error .valueError
      | some found => require (found = 1) (.failureException (.text
          (("Should only find 1 pci device device in guest but instead " ++
            "found ").toList ++ str found)))

end Checks

section Wait

/-- A call of `wait_for_port_detach`: the devices of the port as it is shown
again and again, and the clock, which is read after each of them. -/
structure DetachWait where
  portId : Str
  timeout : Int
  interval : Int
  deviceIds : Nat → Option Str
  clock : PollClock

namespace DetachWait

variable (wait : DetachWait)

/-- `bool(device_id)`. -/
def Attached (n : Nat) : Prop :=
  wait.deviceIds n ≠ none ∧ wait.deviceIds n ≠ some []

instance (n : Nat) : Decidable (wait.Attached n) :=
  inferInstanceAs (Decidable (_ ∧ _))

/-- `int(time.time()) - start >= self.build_timeout`. -/
def TimedOut (n : Nat) : Prop :=
  wait.timeout ≤
    seconds (wait.clock.reading n) - seconds (wait.clock.reading 0)

instance (n : Nat) : Decidable (wait.TimedOut n) :=
  inferInstanceAs (Decidable (_ ≤ _))

def timeoutMessage (n : Nat) : Str :=
  "Port ".toList ++ wait.portId ++ " failed to detach (device_id ".toList ++
    (wait.deviceIds n).getD [] ++ ") within the required time (".toList ++
    str wait.timeout ++ " s).".toList

/-- One turn of the loop after the given number of repetitions, which ends with
the number of the last look and the outcome. -/
def turn (n : Nat) : Turn Nat (Nat × Except WaitExn Unit) :=
  if wait.Attached n then
    if wait.Attached (n + 1) ∧ wait.TimedOut (n + 1) then
      .done (n + 1, .error (.timeoutException [wait.timeoutMessage (n + 1)]))
    else .again (n + 1)
  else .done (n, .ok ())

/-- `wait_for_port_detach` ends at a look with an outcome. -/
def WaitForPortDetach (n : Nat) (outcome : Except WaitExn Unit) : Prop :=
  Turn.Ends wait.turn 0 (n, outcome)

/-- The wait is over at a look without a device, and no earlier look but the
first was late. -/
def Detached (n : Nat) : Prop :=
  ¬ wait.Attached n ∧ ∀ m < n, wait.Attached m ∧ (0 < m → ¬ wait.TimedOut m)

/-- The wait is given up at the first late look but the first, if all looks had
a device. -/
def GivenUp (n : Nat) : Prop :=
  0 < n ∧ (∀ m ≤ n, wait.Attached m) ∧ wait.TimedOut n ∧
    ∀ m < n, 0 < m → ¬ wait.TimedOut m

variable {wait} {n : Nat} {outcome : Except WaitExn Unit}

theorem turn_eq_again_iff {next : Nat} :
    wait.turn n = .again next ↔
      next = n + 1 ∧ wait.Attached n ∧
        (wait.Attached (n + 1) → ¬ wait.TimedOut (n + 1)) := by
  unfold turn
  split
  · next attached =>
      split
      · next both => simp [both.1, both.2]
      · next other =>
          rw [not_and] at other
          simp only [Turn.again.injEq, attached, true_and]
          exact ⟨fun same => ⟨same.symm, other⟩, fun both => both.1.symm⟩
  · next detached => simp [detached]

theorem turn_eq_done_iff {last : Nat} :
    wait.turn n = .done (last, outcome) ↔
      (last = n ∧ outcome = .ok () ∧ ¬ wait.Attached n) ∨
      (last = n + 1 ∧ outcome = .error
          (.timeoutException [wait.timeoutMessage (n + 1)]) ∧
        wait.Attached n ∧ wait.Attached (n + 1) ∧ wait.TimedOut (n + 1)) := by
  unfold turn
  split
  · next attached =>
      split
      · next both => simp [attached, both.1, both.2, eq_comm]
      · next other =>
          simp only [reduceCtorEq, attached, not_true_eq_false, and_false,
            false_or, other]
  · next detached => simp [detached, eq_comm]

theorem turns_before_iff :
    (∀ m < n, wait.turn m = .again (m + 1)) ↔
      ∀ m < n, wait.Attached m ∧
        (wait.Attached (m + 1) → ¬ wait.TimedOut (m + 1)) := by
  simp only [turn_eq_again_iff, true_and]

theorem waitForPortDetach_iff_exists {last : Nat} :
    wait.WaitForPortDetach last outcome ↔
      ∃ n, wait.turn n = .done (last, outcome) ∧
        ∀ m < n, wait.turn m = .again (m + 1) := by
  have follows : ∀ n next, wait.turn n = .again next → next = n + 1 :=
    fun n next continued => (turn_eq_again_iff.mp continued).1
  exact @Turn.ends_iff_exists _ _ wait.turn _ (fun n => n) follows

theorem waitForPortDetach_returns_iff :
    wait.WaitForPortDetach n (.ok ()) ↔ wait.Detached n := by
  rw [waitForPortDetach_iff_exists]
  constructor
  · intro ends
    obtain ⟨k, ended, before⟩ := ends
    rcases turn_eq_done_iff.mp ended with ⟨rfl, _, detached⟩ | ⟨_, raised, _⟩
    · have attached := turns_before_iff.mp before
      refine ⟨detached, ?_⟩
      intro m below
      refine ⟨(attached m below).1, ?_⟩
      intro positive
      obtain ⟨k, rfl⟩ := Nat.exists_eq_succ_of_ne_zero positive.ne'
      exact (attached k (by omega)).2 (attached (k + 1) below).1
    · cases raised
  · intro detached
    obtain ⟨gone, before⟩ := detached
    refine ⟨n, turn_eq_done_iff.mpr (.inl ⟨rfl, rfl, gone⟩), ?_⟩
    apply turns_before_iff.mpr
    intro m below
    refine ⟨(before m below).1, ?_⟩
    intro attached
    by_cases last : m + 1 = n
    · exact absurd (last ▸ attached) gone
    · exact (before (m + 1) (by omega)).2 (Nat.succ_pos m)

theorem waitForPortDetach_raises_iff {error : WaitExn} :
    wait.WaitForPortDetach n (.error error) ↔
      wait.GivenUp n ∧
        error = .timeoutException [wait.timeoutMessage n] := by
  rw [waitForPortDetach_iff_exists]
  constructor
  · intro ends
    obtain ⟨k, ended, before⟩ := ends
    rcases turn_eq_done_iff.mp ended with
      ⟨_, returned, _⟩ | ⟨rfl, raised, attached, still, late⟩
    · cases returned
    · cases raised
      have earlier := turns_before_iff.mp before
      have always : ∀ m ≤ k + 1, wait.Attached m := by
        intro m atMost
        rcases Nat.lt_trichotomy m k with below | rfl | above
        · exact (earlier m below).1
        · exact attached
        · exact (show m = k + 1 by omega) ▸ still
      refine ⟨⟨Nat.succ_pos k, always, late, ?_⟩, rfl⟩
      intro m below positive
      obtain ⟨j, rfl⟩ := Nat.exists_eq_succ_of_ne_zero positive.ne'
      exact (earlier j (by omega)).2 (always (j + 1) (by omega))
  · intro both
    obtain ⟨⟨positive, always, late, before⟩, rfl⟩ := both
    obtain ⟨k, rfl⟩ := Nat.exists_eq_succ_of_ne_zero positive.ne'
    refine ⟨k, turn_eq_done_iff.mpr (.inr ⟨rfl, rfl, always k (by omega),
      always (k + 1) le_rfl, late⟩), ?_⟩
    apply turns_before_iff.mpr
    intro m below
    exact ⟨always m (by omega), fun _ => before (m + 1) (by omega)
      (Nat.succ_pos m)⟩

/-- A look without a device or a late look comes, and the first one of them
ends the wait. -/
theorem exists_detached_or_givenUp (wait : DetachWait) :
    ∃ n, wait.Detached n ∨ wait.GivenUp n := by
  classical
  have finished : ∃ n, ¬ wait.Attached n ∨ (0 < n ∧ wait.TimedOut n) := by
    obtain ⟨n, passed⟩ := wait.clock.passes
      (wait.timeout + seconds (wait.clock.reading 0))
    refine ⟨n + 1, .inr ⟨Nat.succ_pos n, ?_⟩⟩
    unfold TimedOut
    omega
  have before : ∀ m < Nat.find finished, wait.Attached m ∧
      (0 < m → ¬ wait.TimedOut m) := by
    intro m below
    have neither := Nat.find_min finished below
    rw [not_or, not_not, not_and] at neither
    exact neither
  refine ⟨Nat.find finished, ?_⟩
  by_cases attached : wait.Attached (Nat.find finished)
  · obtain ⟨positive, late⟩ :=
      (Nat.find_spec finished).resolve_left (not_not.mpr attached)
    refine .inr ⟨positive, ?_, late, fun m below => (before m below).2⟩
    intro m atMost
    rcases Nat.eq_or_lt_of_le atMost with rfl | below
    · exact attached
    · exact (before m below).1
  · exact .inl ⟨attached, before⟩

/-- The wait ends at the first look without a device, or raises the timeout at
the first late look if every look had one; the first look is never late.  One
of the two comes, whatever the timeout is. -/
theorem waitForPortDetach_exact (wait : DetachWait) :
    (∀ n, wait.WaitForPortDetach n (.ok ()) ↔ wait.Detached n) ∧
    (∀ n error, wait.WaitForPortDetach n (.error error) ↔
      wait.GivenUp n ∧ error = .timeoutException [wait.timeoutMessage n]) ∧
    ∃ n outcome, wait.WaitForPortDetach n outcome := by
  refine ⟨fun n => waitForPortDetach_returns_iff,
    fun n error => waitForPortDetach_raises_iff, ?_⟩
  obtain ⟨n, detached | givenUp⟩ := exists_detached_or_givenUp wait
  · exact ⟨n, _, waitForPortDetach_returns_iff.mpr detached⟩
  · exact ⟨n, _, waitForPortDetach_raises_iff.mpr ⟨givenUp, rfl⟩⟩

end DetachWait

end Wait

section Test

/-- What can be seen of a hot-plug test.  The port is shown for a lookup, for
its binding profile, for its type and for its device. -/
inductive AttachmentEvent where
  | attach (serverId : Uuid) (portId : Str)
  | detach (serverId : Uuid) (portId : Str)
  | port (portId : Str) (details : PortDetails)
  | domain (serverId : Uuid) (root : Element)
  | guest (serverId : Uuid) (output : Option Str)
  | profile (portId : Str) (bindingProfile : Option (List (Str × Str)))
  | pciDevices (table : PciTable)
  | vnicType (portId : Str) (vnicType : Option Str)
  | shown (portId : Str) (deviceId : Option Str)
  | sleep (interval : Int)

inductive AttachmentExn where
  | api (name : Str)
  | device (error : DeviceExn)
  | wait (error : WaitExn)

abbrev AttachmentRun := Traced AttachmentEvent AttachmentExn

def liftDevice {α : Type} (outcome : Except DeviceExn α) : AttachmentRun α :=
  Traced.lift (outcome.mapError .device)

/-- The events of a wait up to one of its looks. -/
def DetachWait.seen (wait : DetachWait) : Nat → List AttachmentEvent
  | 0 => [.shown wait.portId (wait.deviceIds 0)]
  | n + 1 => wait.seen n ++
      [.sleep wait.interval, .shown wait.portId (wait.deviceIds (n + 1))]

/-- The events of a wait at a moment before it ends. -/
def DetachWait.Happens (wait : DetachWait) (log : List AttachmentEvent) :
    Prop :=
  ∃ n, Turn.Reaches wait.turn 0 n ∧ (log <+: wait.seen n ∨
    (wait.Attached n ∧ log = wait.seen n ++ [.sleep wait.interval]))

/-- `wait_for_port_detach`, with any clock and any answers; a request for the
port can raise. -/
inductive WaitsForDetach (portId : Str) : AttachmentRun Unit where
  | running {wait : DetachWait} {log : List AttachmentEvent}
      (named : wait.portId = portId) (happens : wait.Happens log) :
      WaitsForDetach portId log .running
  | lost {wait : DetachWait} {log : List AttachmentEvent} {name : Str}
      (named : wait.portId = portId) (happens : wait.Happens log) :
      WaitsForDetach portId log (.raised (.api name))
  | raised {wait : DetachWait} {n : Nat} {error : WaitExn}
      (named : wait.portId = portId)
      (ended : wait.WaitForPortDetach n (.error error)) :
      WaitsForDetach portId (wait.seen n) (.raised (.wait error))
  | returned {wait : DetachWait} {n : Nat}
      (named : wait.portId = portId)
      (ended : wait.WaitForPortDetach n (.ok ())) :
      WaitsForDetach portId (wait.seen n) (.returned ())

/-- What a hot-plug test works with. -/
structure AttachmentTest where
  physical : Bool
  netId : Str
  vlanId : Int
  port : CreatedPort

/-- The checks of a virtual function in the domain of its server. -/
def checkFunction (vlanId : Int) (iface : InterfaceAttachment)
    (port : PortDetails) (root : Element) : Except DeviceExn Unit := do
  let element ← getXmlInterfaceDevice root port
  let mac ← interfaceMac element
  require (mac = some iface.macAddr)
    (.failureException (.notEqual iface.macAddr (mac.getD "None".toList)))
  validatePortXmlVlanTag element vlanId

def inspectFunction (serverId : Uuid) (portId : Str) (vlanId : Int)
    (iface : InterfaceAttachment) : AttachmentRun Unit := do
  let port ← Traced.Query (.port portId)
  let _ ← liftDevice (requireVnicType port.vnicType)
  let root ← Traced.Query (.domain serverId)
  liftDevice (checkFunction vlanId iface port root)

def inspectPhysical (serverId : Uuid) (portId : Str) : AttachmentRun Unit := do
  let root ← Traced.Query (.domain serverId)
  let hostDevXml ← liftDevice (getXmlPfDevice root)
  let bindingProfile ← Traced.Query (.profile portId)
  liftDevice (validatePfPciAddressInXml bindingProfile hostDevXml)

/-- `_verify_neutron_port_binding`. -/
def inspectBinding (serverId : Uuid) (portId : Str) : AttachmentRun Unit := do
  let bindingProfile ← Traced.Query (.profile portId)
  let table ← Traced.Query .pciDevices
  let vnicType ← Traced.Query (.vnicType portId)
  liftDevice ((verifyNeutronPortBinding table serverId
    ⟨bindingProfile, vnicType⟩).mapError .raised)

def AttachmentTest.inspectDomain (test : AttachmentTest) (serverId : Uuid)
    (iface : InterfaceAttachment) : AttachmentRun Unit :=
  if test.physical then inspectPhysical serverId test.port.id
  else inspectFunction serverId test.port.id test.vlanId iface

/-- What a test looks at while the port is attached to a server. -/
def AttachmentTest.inspect (test : AttachmentTest) (serverId : Uuid)
    (iface : InterfaceAttachment) : AttachmentRun Unit := do
  liftDevice (validatePortDataAfterAttach test.netId test.port iface)
  test.inspectDomain serverId iface
  let output ← Traced.Query (.guest serverId)
  liftDevice (checkDeviceInGuest output)
  inspectBinding serverId test.port.id

/-- One turn of the loop over the servers. -/
def AttachmentTest.turn (test : AttachmentTest) (serverId : Uuid) :
    AttachmentRun Unit := do
  let iface ← Traced.Request (.attach serverId test.port.id)
  test.inspect serverId iface
  let _ : Unit ← Traced.Request (.detach serverId test.port.id)
  WaitsForDetach test.port.id

/-- `_base_test_attach_and_detach_sriov_port` and
`test_sriov_direct_physical_attach_detach_port` from the point where the
servers and the port are there. -/
def AttachmentTest.run (test : AttachmentTest) (servers : List Uuid) :
    AttachmentRun PUnit :=
  servers.forM test.turn

end Test

section Protocol

/-- Where a port is in its way from one server to the next. -/
inductive PortPhase where
  | free
  | attached (serverId : Uuid)
  | leaving (serverId : Uuid)
deriving DecidableEq

/-- What an event about the port itself makes of its phase. -/
def PortPhase.next : PortPhase → AttachmentEvent → PortPhase
  | _, .attach serverId _ => .attached serverId
  | .attached serverId, .detach other _ =>
      if serverId = other then .leaving serverId else .attached serverId
  -- Nova unsets the device with an empty text, and `None` counts as well.
  | .leaving _, .shown _ none => .free
  | .leaving _, .shown _ (some []) => .free
  | phase, _ => phase

/-- The port that an event is about. -/
def AttachmentEvent.portId : AttachmentEvent → Option Str
  | .attach _ portId | .detach _ portId | .port portId _ | .profile portId _
  | .vnicType portId _ | .shown portId _ => some portId
  | .domain _ _ | .guest _ _ | .pciDevices _ | .sleep _ => none

def PortPhase.step (portId : Str) (phase : PortPhase)
    (event : AttachmentEvent) : PortPhase :=
  if event.portId = some portId then phase.next event else phase

def phaseOf (portId : Str) (log : List AttachmentEvent) : PortPhase :=
  log.foldl (PortPhase.step portId) .free

/-- The servers that the port was attached to. -/
def attachments (portId : Str) (log : List AttachmentEvent) : List Uuid :=
  log.filterMap fun
    | .attach serverId other => if other = portId then some serverId else none
    | _ => none

/-- What a test saw while the port was attached to a server: the answer to the
attachment, what was read for the domain, the output of the command in the
guest, the table and the binding of the port. -/
structure Looks where
  iface : InterfaceAttachment
  inDomain : (PortDetails × Element) ⊕
    (Element × Option (List (Str × Str)))
  output : Option Str
  table : PciTable
  binding : Port

/-- The events of the reads. -/
def Looks.events (serverId : Uuid) (portId : Str) (looks : Looks) :
    List AttachmentEvent :=
  (match looks.inDomain with
    | .inl (details, root) => [.port portId details, .domain serverId root]
    | .inr (root, bindingProfile) =>
        [.domain serverId root, .profile portId bindingProfile]) ++
  [.guest serverId looks.output,
    .profile portId looks.binding.bindingProfile, .pciDevices looks.table,
    .vnicType portId looks.binding.vnicType]

/-- What was read for the domain passes its checks. -/
def AttachmentTest.DomainPasses (test : AttachmentTest) (looks : Looks) :
    Prop :=
  match looks.inDomain with
  | .inl (details, root) => test.physical = false ∧
      checkFunction test.vlanId looks.iface details root = .ok ()
  | .inr (root, bindingProfile) => test.physical = true ∧
      ∃ hostDevXml, getXmlPfDevice root = .ok hostDevXml ∧
        validatePfPciAddressInXml bindingProfile hostDevXml = .ok ()

/-- All checks of a test pass on what it saw. -/
structure AttachmentTest.Passes (test : AttachmentTest) (serverId : Uuid)
    (looks : Looks) : Prop where
  data : validatePortDataAfterAttach test.netId test.port looks.iface = .ok ()
  inDomain : test.DomainPasses looks
  inGuest : checkDeviceInGuest looks.output = .ok ()
  inTable : verifyNeutronPortBinding looks.table serverId looks.binding = .ok ()

/-- The port was attached to the server, passed the checks there and was
detached from it. -/
def AttachmentTest.Visited (test : AttachmentTest) (log : List AttachmentEvent)
    (serverId : Uuid) : Prop :=
  ∃ before looks after, test.Passes serverId looks ∧
    log = before ++ .attach serverId test.port.id ::
      (looks.events serverId test.port.id ++
        .detach serverId test.port.id :: after)

end Protocol

section Inspection

variable {serverId : Uuid} {portId : Str} {log : List AttachmentEvent}

/-- The events that leave the port as it is. -/
def AttachmentEvent.isRead : AttachmentEvent → Prop
  | .attach _ _ | .detach _ _ | .shown _ _ | .sleep _ => False
  | _ => True

end Inspection

section Verdict

theorem idsText_infix_iff {vendor product other otherProduct : VendorId} :
    idsText vendor product <:+: idsText other otherProduct ↔
      other = vendor ∧ otherProduct = product := by
  constructor
  · intro part
    have same : idsText vendor product = idsText other otherProduct := by
      apply part.eq_of_length
      simp [idsText, Digits.length_text]
    obtain ⟨vendors, rest⟩ := List.append_inj same (by
      rw [Digits.length_text, Digits.length_text])
    exact ⟨Digits.ext vendors.symm, Digits.ext (List.cons.inj rest).2.symm⟩
  · intro both
    rw [both.1, both.2]

theorem notMem_idsText {vendor product : VendorId} {c : Char}
    (foreign : isHexDigit c = false) (notColon : c ≠ ':') :
    c ∉ idsText vendor product := by
  intro member
  rcases List.mem_append.mp member with inVendor | later
  · exact ne_of_isHexDigit (vendor.accepted c inVendor) foreign rfl
  · rcases List.mem_cons.mp later with same | inProduct
    · exact notColon same
    · exact ne_of_isHexDigit (product.accepted c inProduct) foreign rfl

/-- The identifiers are in a line exactly if they are those of its device. -/
theorem ListedDevice.infix_line_iff (device : ListedDevice)
    (vendor product : VendorId) :
    idsText vendor product <:+: device.line ↔
      device.vendor = vendor ∧ device.product = product := by
  have opening : '[' ∉ idsText vendor product :=
    notMem_idsText (by decide) (by decide)
  have closing : ']' ∉ idsText vendor product :=
    notMem_idsText (by decide) (by decide)
  obtain ⟨notFront, notBack⟩ := device.plain vendor product
  rw [ListedDevice.line, infix_append_cons_iff opening,
    infix_append_cons_iff closing, idsText_infix_iff]
  simp [notFront, notBack]

theorem ListedDevice.newline_notMem_line (device : ListedDevice) :
    '\n' ∉ device.line := by
  have inIds : '\n' ∉ idsText device.vendor device.product :=
    notMem_idsText (by decide) (by decide)
  obtain ⟨notFront, notBack⟩ := device.oneLine
  simp [ListedDevice.line, notFront, notBack, inIds]

/-- The devices of a guest with the identifiers. -/
def countIds (vendor product : VendorId) (devices : List ListedDevice) : Nat :=
  devices.countP fun device =>
    device.vendor = vendor ∧ device.product = product

theorem lspciCommand_eq (vendor product : VendorId)
    (devices : List ListedDevice) :
    lspciCommand vendor product devices =
      str (countIds vendor product devices) ++ ['\n'] := by
  have noNewline : ∀ line ∈ devices.map ListedDevice.line, '\n' ∉ line := by
    intro line member
    obtain ⟨device, _, rfl⟩ := List.mem_map.mp member
    exact device.newline_notMem_line
  have kept : ∀ line ∈ (devices.map ListedDevice.line).filter
      (Posix.Regex.word (idsText vendor product)).search, '\n' ∉ line := by
    intro line member
    exact noNewline line (List.mem_of_mem_filter member)
  have found : (Posix.Regex.word (idsText vendor product)).search ∘
      ListedDevice.line = fun device =>
        decide (device.vendor = vendor ∧ device.product = product) := by
    funext device
    rw [Function.comp_apply, Bool.eq_iff_iff, decide_eq_true_iff,
      Posix.Regex.search_word_iff]
    exact device.infix_line_iff vendor product
  rw [lspciCommand, Posix.grep_terminated _ noNewline,
    Posix.countLines_terminated kept, ← List.countP_eq_length_filter,
    List.countP_map, found]
  rfl

theorem checkDeviceInGuest_eq_ok_iff (vendor product : VendorId)
    (devices : List ListedDevice) :
    checkDeviceInGuest (some (lspciCommand vendor product devices)) = .ok () ↔
      countIds vendor product devices = 1 := by
  have number : int (lspciCommand vendor product devices) =
      some (countIds vendor product devices : Int) := by
    rw [lspciCommand_eq, int_append_blank _ (by decide), int_str]
  simp only [checkDeviceInGuest, number, require_eq_ok_iff]
  omega

theorem firstAddress_eq_ok_iff {addresses : List Str} {address : Str} :
    firstAddress addresses = .ok address ↔
      addresses.head? = some address := by
  cases addresses <;> simp [firstAddress]

theorem ensureEqual_eq_ok_iff {first second : Str} :
    ensureEqual first second = .ok () ↔ first = second := by
  rw [ensureEqual, require_eq_ok_iff]

/-- The answer to the attachment is about the port, with its first address; the
hardware address is another one for a physical port and only for such a one. -/
structure DataAgrees (netId : Str) (port : CreatedPort)
    (iface : InterfaceAttachment) : Prop where
  samePort : iface.portId = port.id
  sameNet : iface.netId = netId
  address : ∃ address, port.fixedIps.head? = some address ∧
    iface.fixedIps.head? = some address
  mac : ∃ vnicType, port.vnicType = some vnicType ∧
    (iface.macAddr = port.macAddress ↔ vnicType ≠ directPhysicalType)

theorem validatePortDataAfterAttach_eq_ok_iff {netId : Str}
    {port : CreatedPort} {iface : InterfaceAttachment} :
    validatePortDataAfterAttach netId port iface = .ok () ↔
      DataAgrees netId port iface := by
  have vnic : ∀ vnicType, requireVnicType port.vnicType = .ok vnicType ↔
      port.vnicType = some vnicType := by
    cases port.vnicType <;> simp [requireVnicType]
  have mac : ∀ vnicType,
      (if vnicType = directPhysicalType then
        require (iface.macAddr ≠ port.macAddress)
          (.failureException (.equal iface.macAddr))
      else ensureEqual iface.macAddr port.macAddress) = .ok () ↔
        (iface.macAddr = port.macAddress ↔ vnicType ≠ directPhysicalType) := by
    intro vnicType
    split
    · next physical => simp [require_eq_ok_iff, physical]
    · next virtual => simp [ensureEqual_eq_ok_iff, virtual]
  constructor
  · intro returned
    obtain ⟨portIp, portFirst, rest⟩ := bind_eq_ok_iff.mp returned
    obtain ⟨_, samePort, rest⟩ := bind_eq_ok_iff.mp rest
    obtain ⟨_, sameNet, rest⟩ := bind_eq_ok_iff.mp rest
    obtain ⟨ifaceIp, ifaceFirst, rest⟩ := bind_eq_ok_iff.mp rest
    obtain ⟨_, sameIp, rest⟩ := bind_eq_ok_iff.mp rest
    obtain ⟨vnicType, typed, checked⟩ := bind_eq_ok_iff.mp rest
    refine ⟨ensureEqual_eq_ok_iff.mp samePort, ensureEqual_eq_ok_iff.mp sameNet,
      ⟨portIp, firstAddress_eq_ok_iff.mp portFirst, ?_⟩,
      vnicType, (vnic vnicType).mp typed, (mac vnicType).mp checked⟩
    rw [← ensureEqual_eq_ok_iff.mp sameIp]
    exact firstAddress_eq_ok_iff.mp ifaceFirst
  · intro agrees
    obtain ⟨address, portFirst, ifaceFirst⟩ := agrees.address
    obtain ⟨vnicType, typed, checked⟩ := agrees.mac
    refine bind_eq_ok_iff.mpr ⟨address, firstAddress_eq_ok_iff.mpr portFirst,
      bind_eq_ok_iff.mpr ⟨(), ensureEqual_eq_ok_iff.mpr agrees.samePort,
      bind_eq_ok_iff.mpr ⟨(), ensureEqual_eq_ok_iff.mpr agrees.sameNet,
      bind_eq_ok_iff.mpr ⟨address, firstAddress_eq_ok_iff.mpr ifaceFirst,
      bind_eq_ok_iff.mpr ⟨(), ensureEqual_eq_ok_iff.mpr rfl,
      bind_eq_ok_iff.mpr ⟨vnicType, (vnic vnicType).mpr typed,
        (mac vnicType).mpr checked⟩⟩⟩⟩⟩⟩

/-- The domain that was read. -/
def Looks.root (looks : Looks) : Element :=
  match looks.inDomain with
  | .inl (_, root) => root
  | .inr (root, _) => root

/-- The guest has one interface of the port, with the hardware address of the
attachment and the tag of the network, or one host device, which is where the
binding profile says. -/
def AttachmentTest.GuestAgrees (test : AttachmentTest) (guest : GuestDevices)
    (looks : Looks) : Prop :=
  match looks.inDomain with
  | .inl (details, _) => test.physical = false ∧
      ∃ vnicType nic, details.vnicType = some vnicType ∧
        guest.nicsOf vnicType details.macAddress = [nic] ∧
        nic.mac = looks.iface.macAddr ∧
        nic.vlan.map Int.ofNat = some test.vlanId
  | .inr (_, bindingProfile) => test.physical = true ∧
      ∃ address, guest.hostDevices = [address] ∧
        bindingSlot bindingProfile = .ok address.text

theorem checkFunction_eq_ok_iff {guest : GuestDevices} {root : Element}
    (shown : guest.ShownBy root) {vlanId : Int} {iface : InterfaceAttachment}
    {details : PortDetails} :
    checkFunction vlanId iface details root = .ok () ↔
      ∃ vnicType nic, details.vnicType = some vnicType ∧
        guest.nicsOf vnicType details.macAddress = [nic] ∧
        nic.mac = iface.macAddr ∧ nic.vlan.map Int.ofNat = some vlanId := by
  rw [checkFunction, bind_eq_ok_iff]
  cases vnic : details.vnicType with
  | none => simp [getXmlInterfaceDevice, vnic, requireVnicType, bind, Except.bind]
  | some vnicType =>
      simp only [Option.some.injEq, exists_and_left, exists_eq_left']
      apply exists_interface_iff shown vnic
      intro element nic shownNic
      rw [interfaceMac_of_shown shownNic]
      change (require _ _ >>= fun _ => _) = _ ↔ _
      rw [bind_eq_ok_iff, ← validatePortXmlVlanTag_eq_ok_iff shownNic]
      constructor
      · intro returned
        obtain ⟨_, same, tagged⟩ := returned
        exact ⟨Option.some.inj (require_eq_ok_iff.mp same), tagged⟩
      · intro both
        refine ⟨(), require_eq_ok_iff.mpr ?_, both.2⟩
        rw [both.1]

/-- The checks of a test pass on what it saw of a guest exactly if the answer
to the attachment, the domain, the devices in the guest and the rows of the
database all agree with the port. -/
theorem attachmentTest_passes_iff (test : AttachmentTest) (serverId : Uuid)
    (looks : Looks) (guest : GuestDevices) (vendor product : VendorId)
    (devices : List ListedDevice) (shown : guest.ShownBy looks.root)
    (printed : looks.output = some (lspciCommand vendor product devices)) :
    test.Passes serverId looks ↔
      DataAgrees test.netId test.port looks.iface ∧
      test.GuestAgrees guest looks ∧
      countIds vendor product devices = 1 ∧
      ∀ row ∈ looks.table, row.instanceUuid = some serverId →
        RecordsAllocation serverId looks.binding row := by
  have domain : test.DomainPasses looks ↔ test.GuestAgrees guest looks := by
    unfold AttachmentTest.DomainPasses AttachmentTest.GuestAgrees
    unfold Looks.root at shown
    split
    · next details root read =>
        rw [read] at shown
        exact and_congr_right fun _ => checkFunction_eq_ok_iff shown
    · next root bindingProfile read =>
        rw [read] at shown
        apply and_congr_right
        intro _
        apply exists_onlyOne_iff shown.hostDevices
        intro element address shownAddress
        exact validatePfPciAddressInXml_eq_ok_iff shownAddress bindingProfile
  have counted := checkDeviceInGuest_eq_ok_iff vendor product devices
  rw [← printed] at counted
  rw [← validatePortDataAfterAttach_eq_ok_iff, ← domain, ← counted,
    ← verifyNeutronPortBinding_eq_ok_iff]
  constructor
  · intro passes
    exact ⟨passes.data, passes.inDomain, passes.inGuest, passes.inTable⟩
  · intro all
    exact ⟨all.1, all.2.1, all.2.2.1, all.2.2.2⟩

/-- The port of a virtual function. -/
def functionPort : CreatedPort where
  id := "port".toList
  fixedIps := ["10.0.0.5".toList]
  macAddress := "fa:16:3e:00:00:01".toList
  vnicType := some "direct".toList

/-- A domain with the interface of the port. -/
def functionDomain : Element :=
  interfaceDomain functionPort.macAddress

def functionTest : AttachmentTest where
  physical := false
  netId := "net".toList
  vlanId := 101
  port := functionPort

def functionBinding : Port where
  bindingProfile := some [(pciSlot, "0000:05:10.1".toList)]
  vnicType := some "direct".toList

def functionServer : Uuid :=
  ⟨"7d2f".toList, by decide⟩

def functionIface : InterfaceAttachment where
  portId := functionPort.id
  netId := "net".toList
  fixedIps := functionPort.fixedIps
  macAddr := functionPort.macAddress

/-- The table with the device of the port. -/
def functionTable : PciTable :=
  [⟨some functionServer, "0000:05:10.1".toList, allocated, "type-VF".toList⟩]

/-- What the test sees of a guest with the interface of the port. -/
def functionLooks : Looks where
  iface := functionIface
  inDomain := .inl (⟨functionBinding, functionPort.macAddress⟩, functionDomain)
  output := some "1\n".toList
  table := functionTable
  binding := functionBinding

/-- A virtual function as it is listed in a guest. -/
def functionListed : ListedDevice where
  front := "00:05.0 ".toList
  vendor := ⟨"8086".toList, by decide, by decide⟩
  product := ⟨"154c".toList, by decide, by decide⟩
  back := []
  oneLine := by decide
  plain := by
    intro vendor product
    have long : (idsText vendor product).length = 9 := by
      simp [idsText, Digits.length_text]
    constructor
    · intro part
      have short := part.length_le
      rw [long] at short
      exact absurd short (by decide)
    · intro part
      have short := part.length_le
      rw [long] at short
      exact absurd short (by decide)

/-- The checks of the test pass on what it sees of such a guest. -/
theorem attachmentTest_passes_function :
    functionTest.Passes functionServer functionLooks := by
  let guest : GuestDevices :=
    ⟨[⟨"hostdev".toList, functionPort.macAddress, some 101⟩], []⟩
  have shown : guest.ShownBy functionLooks.root := by
    refine ⟨.cons ⟨rfl, rfl, rfl⟩ .nil, ?_⟩
    have missing : findHostdevs functionLooks.root = [] := rfl
    rw [missing]
    exact .nil
  apply (attachmentTest_passes_iff functionTest functionServer functionLooks
    guest functionListed.vendor functionListed.product [functionListed] shown
    (by rw [lspciCommand_eq]; rfl)).mpr
  refine ⟨validatePortDataAfterAttach_eq_ok_iff.mp (by decide), ?_, by decide,
    verifyNeutronPortBinding_eq_ok_iff.mp (by decide)⟩
  exact ⟨rfl, "direct".toList, _, rfl, rfl, rfl, rfl⟩

end Verdict

section Phases

variable {portId : Str} {log more : List AttachmentEvent}

theorem phaseOf_append :
    phaseOf portId (log ++ more) =
      more.foldl (PortPhase.step portId) (phaseOf portId log) :=
  List.foldl_append

theorem attachments_append :
    attachments portId (log ++ more) =
      attachments portId log ++ attachments portId more :=
  List.filterMap_append

theorem AttachmentEvent.isRead.step {event : AttachmentEvent}
    (read : event.isRead) (phase : PortPhase) :
    phase.step portId event = phase := by
  have kept : phase.next event = phase := by
    cases event with
    | attach serverId other => exact read.elim
    | detach serverId other => exact read.elim
    | shown other deviceId => exact read.elim
    | _ => cases phase <;> rfl
  rw [PortPhase.step, kept, ite_self]

theorem foldl_step_of_reads (reads : ∀ event ∈ log, event.isRead)
    (phase : PortPhase) :
    log.foldl (PortPhase.step portId) phase = phase := by
  induction log generalizing phase with
  | nil => rfl
  | cons event log induction =>
      obtain ⟨first, later⟩ := List.forall_mem_cons.mp reads
      rw [List.foldl_cons, first.step, induction later]

theorem Looks.events_read (looks : Looks) (serverId : Uuid) (portId : Str) :
    ∀ event ∈ looks.events serverId portId, event.isRead := by
  obtain ⟨_, inDomain, _, _, _⟩ := looks
  cases inDomain with
  | inl pair => simp [Looks.events, AttachmentEvent.isRead]
  | inr pair => simp [Looks.events, AttachmentEvent.isRead]

/-- The events of a wait. -/
def AttachmentEvent.isWait : AttachmentEvent → Prop
  | .shown _ _ | .sleep _ => True
  | _ => False

theorem attachments_of_quiet
    (quiet : ∀ event ∈ log, event.isRead ∨ event.isWait) :
    attachments portId log = [] := by
  apply List.filterMap_eq_nil_iff.mpr
  intro event member
  cases event with
  | attach serverId other =>
      rcases quiet _ member with read | waits
      · exact read.elim
      · exact waits.elim
  | _ => rfl

theorem DetachWait.seen_waits (wait : DetachWait) (n : Nat) :
    ∀ event ∈ wait.seen n, event.isWait := by
  induction n with
  | zero => simp [DetachWait.seen, AttachmentEvent.isWait]
  | succ n induction =>
      simp only [DetachWait.seen, List.forall_mem_append]
      refine ⟨induction, ?_⟩
      simp [AttachmentEvent.isWait]

theorem WaitsForDetach.waits {portId : Str}
    {status : Status AttachmentExn Unit}
    (moment : WaitsForDetach portId log status) :
    ∀ event ∈ log, event.isWait := by
  have early : ∀ wait : DetachWait, wait.Happens log →
      ∀ event ∈ log, event.isWait := by
    intro wait happens event member
    obtain ⟨n, _, part | ⟨_, rfl⟩⟩ := happens
    · exact wait.seen_waits n event (part.subset member)
    · rcases List.mem_append.mp member with seen | slept
      · exact wait.seen_waits n event seen
      · cases List.mem_singleton.mp slept
        trivial
  cases moment with
  | running _ happens => exact early _ happens
  | lost _ happens => exact early _ happens
  | @raised wait n _ _ _ => exact wait.seen_waits n
  | @returned wait n _ _ => exact wait.seen_waits n

/-- While the test waits, the port is on its way or free. -/
theorem foldl_step_of_waits {serverId : Uuid} {phase : PortPhase}
    (waits : ∀ event ∈ log, event.isWait)
    (start : phase = .leaving serverId ∨ phase = .free) :
    log.foldl (PortPhase.step portId) phase = .leaving serverId ∨
      log.foldl (PortPhase.step portId) phase = .free := by
  induction log generalizing phase with
  | nil => exact start
  | cons event log induction =>
      obtain ⟨first, later⟩ := List.forall_mem_cons.mp waits
      apply induction later
      unfold PortPhase.step
      split
      · cases event with
        | shown other deviceId =>
            rcases start with rfl | rfl
            · rcases deviceId with _ | _ | _
              · exact .inr rfl
              · exact .inr rfl
              · exact .inl rfl
            · rcases deviceId with _ | _ | _ <;> exact .inr rfl
        | sleep interval =>
            rcases start with rfl | rfl
            · exact .inl rfl
            · exact .inr rfl
        | _ => exact first.elim
      · exact start

/-- A wait that returns leaves the port free. -/
theorem WaitsForDetach.frees {portId : Str} {serverId : Uuid}
    (returned : WaitsForDetach portId log (.returned ())) :
    log.foldl (PortPhase.step portId) (.leaving serverId) = .free := by
  cases returned with
  | @returned wait n named ended =>
      have gone := (DetachWait.waitForPortDetach_returns_iff.mp ended).1
      obtain ⟨before, shape⟩ : ∃ before, wait.seen n =
          before ++ [.shown portId (wait.deviceIds n)] := by
        rw [← named]
        cases n with
        | zero => exact ⟨[], rfl⟩
        | succ n =>
            refine ⟨wait.seen n ++ [.sleep wait.interval], ?_⟩
            rw [DetachWait.seen, List.append_assoc]
            rfl
      have waits := wait.seen_waits n
      rw [shape] at waits ⊢
      rw [List.foldl_append, List.foldl_cons, List.foldl_nil, PortPhase.step,
        AttachmentEvent.portId, if_pos rfl]
      have onTheWay := @foldl_step_of_waits portId before serverId _
        (List.forall_mem_append.mp waits).1 (.inl rfl)
      unfold DetachWait.Attached at gone
      rw [not_and_or, not_not, not_not] at gone
      rcases onTheWay with leaving | free
      · rw [leaving]
        rcases gone with unset | empty
        · rw [unset]
          rfl
        · rw [empty]
          rfl
      · rw [free]
        rcases gone with unset | empty
        · rw [unset]
          rfl
        · rw [empty]
          rfl

end Phases

section Statements

variable {test : AttachmentTest} {servers done : List Uuid} {serverId : Uuid}
  {log : List AttachmentEvent}

/-- The port is free after it was at some of the servers. -/
structure AttachmentTest.Progress (test : AttachmentTest) (done : List Uuid)
    (log : List AttachmentEvent) : Prop where
  free : phaseOf test.port.id log = .free
  attached : attachments test.port.id log = done
  visited : ∀ serverId ∈ done, test.Visited log serverId

theorem AttachmentTest.Visited.append (visited : test.Visited log serverId)
    (more : List AttachmentEvent) : test.Visited (log ++ more) serverId := by
  obtain ⟨before, looks, after, passes, rfl⟩ := visited
  exact ⟨before, looks, after ++ more, passes, by simp⟩

/-- The port was attached to a server and looked at there. -/
def AttachmentTest.Inspected (test : AttachmentTest) (done : List Uuid)
    (serverId : Uuid) (log : List AttachmentEvent) : Prop :=
  ∃ before looks, test.Progress done before ∧ test.Passes serverId looks ∧
    log = before ++ .attach serverId test.port.id ::
      looks.events serverId test.port.id

theorem AttachmentTest.Inspected.phase
    (inspected : test.Inspected done serverId log) :
    phaseOf test.port.id log = .attached serverId := by
  obtain ⟨before, looks, progress, _, rfl⟩ := inspected
  rw [phaseOf_append, List.foldl_cons, progress.free, PortPhase.step,
    AttachmentEvent.portId, if_pos rfl]
  exact foldl_step_of_reads (looks.events_read serverId test.port.id) _

theorem AttachmentTest.Inspected.progress
    (inspected : test.Inspected done serverId log)
    {more : List AttachmentEvent}
    (waited : WaitsForDetach test.port.id more (.returned ())) :
    test.Progress (done ++ [serverId])
      (log ++ [.detach serverId test.port.id] ++ more) := by
  have phase := inspected.phase
  obtain ⟨before, looks, progress, passes, rfl⟩ := inspected
  refine ⟨?_, ?_, ?_⟩
  · rw [phaseOf_append, phaseOf_append, phase, List.foldl_cons,
      List.foldl_nil, PortPhase.step, AttachmentEvent.portId, if_pos rfl,
      PortPhase.next, if_pos rfl]
    exact waited.frees
  · have reads : attachments test.port.id
        (.attach serverId test.port.id ::
          looks.events serverId test.port.id) = [serverId] := by
      rw [← List.singleton_append, attachments_append, attachments_of_quiet
        fun event member => .inl (looks.events_read _ _ event member)]
      simp [attachments]
    have waits : attachments test.port.id more = [] := by
      apply attachments_of_quiet
      exact fun event member => .inr (waited.waits event member)
    have detaches : attachments test.port.id
        [.detach serverId test.port.id] = [] := rfl
    rw [attachments_append, attachments_append, attachments_append, reads,
      detaches, waits, progress.attached, List.append_nil, List.append_nil]
  · intro other member
    rw [List.append_assoc, List.append_assoc]
    rcases List.mem_append.mp member with earlier | last
    · exact (progress.visited other earlier).append _
    · cases List.mem_singleton.mp last
      exact ⟨before, looks, more, passes, by simp⟩

end Statements

end Whitebox.Compute
