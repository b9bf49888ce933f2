import Mathlib.Data.List.Forall2
import Whitebox.Compute.PciDevices
import Whitebox.Compute.VgpuGuest
import Whitebox.Python.ElementTree

/-!
# Network and host devices of a domain

The SR-IOV, vDPA and PCI passthrough tests look a device of a server up in its
domain.  A network interface is found by the type that belongs to the type of
its port and by its MAC address, and a host device by being the only one.  The
address of a host device is put together from attributes that are hexadecimal
numbers with a prefix.
-/

namespace Whitebox.Compute

open Whitebox.Posix.Regex (isBetween)
open Whitebox.Python
open Whitebox.Effect.Fallible

/-- The message of an assertion about a device. -/
inductive DeviceMessage where
  | text (message : Str)
  /-- `'PCI device found in XML %sdoes not match what is tracked in binding
  profile for port %s'`. -/
  | slotMismatch (pciAddress : Str) (bindingProfile : List (Str × Str))
  /-- `'Interface should have have vlan tag %s but instead it is tagged with
  %s'`. -/
  | vlanMismatch (expectedVlan : Int) (foundVlan : Option Int)
  /-- `assertEqual` without a message. -/
  | notEqual (first second : Str)
  /-- `assertNotEqual` without a message. -/
  | equal (value : Str)
  /-- `assertTrue` without a message. -/
  | notTrue
deriving DecidableEq

inductive DeviceExn where
  | attributeError
  | indexError
  | valueError
  | raised (error : BindingExn)
  | failureException (message : DeviceMessage)
deriving DecidableEq

/-- `'... but instead found %d instances' % len(found)`. -/
def instancesMessage (kind : Str) (found : Nat) : DeviceMessage :=
  .text ("Expect to find one and only one instance of ".toList ++ kind ++
    " but instead found ".toList ++ str (found : Int) ++ " instances".toList)

/-- The assertion that a list has one element, which is returned. -/
def onlyOne (kind : Str) : List Element → Except DeviceExn Element
  | [element] => .ok element
  | found => .error (.failureException (instancesMessage kind found.length))

theorem onlyOne_eq_ok_iff {kind : Str} {found : List Element}
    {element : Element} :
    onlyOne kind found = .ok element ↔ found = [element] := by
  unfold onlyOne
  split
  · simp
  · next several =>
      constructor
      · intro returned
        cases returned
      · intro single
        exact absurd single (several element)

/-- If the elements that were found describe some things, then the one element
has a property exactly if the one thing has the property it stands for. -/
theorem exists_onlyOne_iff {α : Type} {kind : Str} {found : List Element}
    {things : List α} {describes : Element → α → Prop}
    (related : List.Forall₂ describes found things)
    {visible : Element → Prop} {meant : α → Prop}
    (agree : ∀ element thing, describes element thing →
      (visible element ↔ meant thing)) :
    (∃ element, onlyOne kind found = .ok element ∧ visible element) ↔
      ∃ thing, things = [thing] ∧ meant thing := by
  simp only [onlyOne_eq_ok_iff]
  constructor
  · intro single
    obtain ⟨element, rfl, holds⟩ := single
    obtain ⟨thing, _, first, others, rfl⟩ :=
      List.forall₂_cons_left_iff.mp related
    cases others
    exact ⟨thing, rfl, (agree element thing first).mp holds⟩
  · intro single
    obtain ⟨thing, rfl, holds⟩ := single
    obtain ⟨element, _, first, others, rfl⟩ :=
      List.forall₂_cons_right_iff.mp related
    cases others
    exact ⟨element, rfl, (agree element thing first).mpr holds⟩

section Interfaces

/-- A port as the ports client shows it. -/
structure PortDetails extends Port where
  macAddress : Str

def vnicMapping : List (Str × Str) :=
  [("vdpa".toList, "vdpa".toList), ("direct".toList, "hostdev".toList),
    ("macvtap".toList, "direct".toList)]

def getExpectedXmlInterfaceType (vnicType : Str) : Option Str :=
  vnicMapping.lookup vnicType

/-- `[@type='%s']` with an expected type, where `None` becomes a text. -/
def interfaceType (vnicType : Str) : Str :=
  (getExpectedXmlInterfaceType vnicType).getD "None".toList

def devicesTag : Str := "devices".toList
def interfaceTag : Str := "interface".toList
def macTag : Str := "mac".toList
def typeName : Str := "type".toList
def addressName : Str := "address".toList
def vnicTypeKey : Str := "binding:vnic_type".toList

/-- `mac[@address='%s']` has a match below the element. -/
def hasMac (macAddress : Str) (element : Element) : Bool :=
  element.children.any fun child =>
    child.tag == macTag && child.get addressName == some macAddress

/-- The path `./devices/interface[@type='%s']/mac[@address='%s']..`.  An
interface with several matching children is selected once. -/
def findInterfaces (root : Element) (type macAddress : Str) : List Element :=
  (root.findall [devicesTag, interfaceTag]).filter fun element =>
    element.get typeName == some type && hasMac macAddress element

/-- `port['port']['binding:vnic_type']`. -/
def requireVnicType : Option Str → Except DeviceExn Str
  | none => .error (.raised (.keyError vnicTypeKey))
  | some vnicType => .ok vnicType

def getXmlInterfaceDevice (root : Element) (port : PortDetails) :
    Except DeviceExn Element := do
  let vnicType ← requireVnicType port.vnicType
  onlyOne interfaceTag
    (findInterfaces root (interfaceType vnicType) port.macAddress)

def vlanPath : List Str := ["vlan".toList, "tag".toList]

/-- `int(interface_vlan) if interface_vlan else None`. -/
def vlanNumber : Option Str → Except DeviceExn (Option Int)
  | none | some [] => .ok none
  | some text =>
      match int text with
      | none => .error .valueError
      | some number => .ok (some number)

def validatePortXmlVlanTag (element : Element) (expectedVlan : Int) :
    Except DeviceExn Unit :=
  match element.find vlanPath with
  | none => .error .attributeError
  | some tag => do
      let foundVlan ← vlanNumber (tag.get "id".toList)
      require (foundVlan = some expectedVlan)
        (.failureException (.vlanMismatch expectedVlan foundVlan))

/-- `interface_xml_element.find('mac').attrib.get('address')`. -/
def interfaceMac (element : Element) : Except DeviceExn (Option Str) :=
  match element.find [macTag] with
  | none => .error .attributeError
  | some mac => .ok (mac.get addressName)

end Interfaces

section HostDevices

def getPciAddress (domain bus slot func : Str) : Str :=
  domain ++ ':' :: (bus ++ ':' :: (slot ++ '.' :: func))

def hexPrefix : Str := "0x".toList

/-- `pci_addr_element.get(name).replace('0x', '')`. -/
def plainDigits (element : Element) (name : Str) : Except DeviceExn Str :=
  match element.get name with
  | none => .error .attributeError
  | some text => .ok (replace hexPrefix [] text)

def getPciAddressFromXmlDevice (element : Option Element) :
    Except DeviceExn Str :=
  match element with
  | none => .error .attributeError
  | some element => do
      let domain ← plainDigits element "domain".toList
      let bus ← plainDigits element "bus".toList
      let slot ← plainDigits element "slot".toList
      let func ← plainDigits element "function".toList
      pure (getPciAddress domain bus slot func)

def hostdevTag : Str := "hostdev".toList

def sourceAddress : List Str := ["source".toList, "address".toList]

/-- The path `./devices/hostdev[@type='pci']`. -/
def findHostdevs (root : Element) : List Element :=
  (root.findall [devicesTag, hostdevTag]).filter fun element =>
    element.get typeName == some "pci".toList

/-- `_get_xml_pf_device`. -/
def getXmlPfDevice (root : Element) : Except DeviceExn Element :=
  onlyOne "hostdev device".toList (findHostdevs root)

/-- `_validate_pf_pci_address_in_xml`. -/
def validatePfPciAddressInXml (bindingProfile : Option (List (Str × Str)))
    (hostDevXml : Element) : Except DeviceExn Unit := do
  let pciAddress ← getPciAddressFromXmlDevice (hostDevXml.find sourceAddress)
  let slot ← (bindingSlot bindingProfile).mapError .raised
  require (pciAddress = slot)
    (.failureException (.slotMismatch pciAddress (bindingProfile.getD [])))

/-- `text.lower()`, for ASCII letters. -/
def lower (text : Str) : Str :=
  text.map Char.toLower

/-- The checks of `test_pci_passthrough_boot` on an active server. -/
def checkPassthrough (root : Element) (pciAddresses : List Str)
    (table : PciTable) : Except DeviceExn Unit := do
  let hostDevXml ← getXmlPfDevice root
  let pciAddress ← getPciAddressFromXmlDevice (hostDevXml.find sourceAddress)
  require (∃ address ∈ pciAddresses, lower pciAddress = lower address)
    (.failureException .notTrue)
  let allocatedCount :=
    getPciStatusCount table allocated.text (some pciAddress)
  require (allocatedCount = 1)
    (.failureException (.notEqual (str 1) (str (allocatedCount : Int))))

end HostDevices

section Guests

/-- A network interface of a guest. -/
structure Nic where
  kind : Str
  mac : Str
  vlan : Option Nat

/-- The devices of a guest that the tests look up. -/
structure GuestDevices where
  nics : List Nic
  hostDevices : List PciAddress

/-- The element describes the network interface. -/
structure Nic.ShownBy (element : Element) (nic : Nic) : Prop where
  kind : element.get typeName = some nic.kind
  mac : (element.children.filter (·.tag == macTag)).map (·.get addressName) =
    [some nic.mac]
  vlan : (element.find vlanPath).map (·.get "id".toList) =
    nic.vlan.map fun number : Nat => some (str (Int.ofNat number))

/-- The element describes the device at an address. -/
structure AddressShownBy (element : Element) (address : PciAddress) : Prop where
  source : ∃ source, element.find sourceAddress = some source ∧
    source.get "domain".toList = some (hexPrefix ++ address.domain.text) ∧
    source.get "bus".toList = some (hexPrefix ++ address.bus.text) ∧
    source.get "slot".toList = some (hexPrefix ++ address.slot.text) ∧
    source.get "function".toList = some (hexPrefix ++ address.function.text)

/-- The domain describes the devices of the guest. -/
structure GuestDevices.ShownBy (root : Element) (guest : GuestDevices) :
    Prop where
  nics : List.Forall₂ Nic.ShownBy (root.findall [devicesTag, interfaceTag])
    guest.nics
  hostDevices : List.Forall₂ AddressShownBy (findHostdevs root)
    guest.hostDevices

/-- The interfaces of the guest that a port is looked up as. -/
def GuestDevices.nicsOf (guest : GuestDevices) (vnicType macAddress : Str) :
    List Nic :=
  guest.nics.filter fun nic =>
    nic.kind == interfaceType vnicType && nic.mac == macAddress

/-- The guest has one interface of the port, with the VLAN tag. -/
def GuestDevices.HasPort (devices : GuestDevices) (port : PortDetails)
    (vnicType : Str) (vlanId : Int) : Prop :=
  ∃ nic, devices.nicsOf vnicType port.macAddress = [nic] ∧
    nic.vlan.map Int.ofNat = some vlanId

end Guests

section Lookups

variable {root element : Element} {guest : GuestDevices} {nic : Nic}

theorem Nic.ShownBy.hasMac_iff (shown : nic.ShownBy element)
    (macAddress : Str) :
    hasMac macAddress element = (nic.mac == macAddress) := by
  have addresses : hasMac macAddress element =
      ((element.children.filter (·.tag == macTag)).map
        (·.get addressName)).any (· == some macAddress) := by
    rw [hasMac, List.any_map, List.any_filter]
    rfl
  rw [addresses, shown.mac]
  simp

/-- The interfaces that are found describe the interfaces of the port. -/
theorem GuestDevices.ShownBy.findInterfaces (shown : guest.ShownBy root)
    (vnicType macAddress : Str) :
    List.Forall₂ Nic.ShownBy
      (findInterfaces root (interfaceType vnicType) macAddress)
      (guest.nicsOf vnicType macAddress) := by
  refine List.rel_filter ?_ shown.nics
  intro element nic shownNic
  simp only [shownNic.hasMac_iff, shownNic.kind, Option.some_beq_some]

theorem validatePortXmlVlanTag_eq_ok_iff (shown : nic.ShownBy element)
    (expectedVlan : Int) :
    validatePortXmlVlanTag element expectedVlan = .ok () ↔
      nic.vlan.map Int.ofNat = some expectedVlan := by
  have tagged := shown.vlan
  unfold validatePortXmlVlanTag
  cases vlan : nic.vlan with
  | none =>
      rw [vlan, Option.map_none, Option.map_eq_none_iff] at tagged
      simp [tagged]
  | some number =>
      rw [vlan, Option.map_some, Option.map_eq_some_iff] at tagged
      obtain ⟨tag, found, identifier⟩ := tagged
      have read : vlanNumber (tag.get "id".toList) =
          .ok (some (Int.ofNat number)) := by
        rw [identifier]
        cases text : str (Int.ofNat number) with
        | nil => exact absurd text (str_ne_nil _)
        | cons c rest =>
            rw [vlanNumber, ← text, Int.ofNat_eq_natCast, int_str]
            exact List.cons_ne_nil c rest
      simp only [found, read]
      simp [bind, Except.bind, require_eq_ok_iff]

theorem interfaceMac_of_shown (shown : nic.ShownBy element) :
    interfaceMac element = .ok (some nic.mac) := by
  have addresses := shown.mac
  unfold interfaceMac Element.find Element.findall
  cases macs : element.children.filter (·.tag == macTag) with
  | nil => simp [macs] at addresses
  | cons mac rest =>
      rw [macs, List.map_cons, List.cons.injEq] at addresses
      simp [Element.findall, addresses.1]

/-- The one interface of a port has a property exactly if the guest has one
interface of the port, with the property it stands for. -/
theorem exists_interface_iff (shown : guest.ShownBy root)
    {port : PortDetails} {vnicType : Str}
    (vnic : port.vnicType = some vnicType) {visible : Element → Prop}
    {meant : Nic → Prop}
    (agree : ∀ element nic, Nic.ShownBy element nic →
      (visible element ↔ meant nic)) :
    (∃ element, getXmlInterfaceDevice root port = .ok element ∧
        visible element) ↔
      ∃ nic, guest.nicsOf vnicType port.macAddress = [nic] ∧ meant nic := by
  have lookup : getXmlInterfaceDevice root port =
      onlyOne interfaceTag
        (findInterfaces root (interfaceType vnicType) port.macAddress) := by
    rw [getXmlInterfaceDevice, vnic]
    rfl
  rw [lookup]
  exact exists_onlyOne_iff (shown.findInterfaces vnicType port.macAddress) agree

/-- Looking up the interface and checking its VLAN tag succeeds exactly if the
guest has the port. -/
theorem exists_taggedInterface_iff (shown : guest.ShownBy root)
    {port : PortDetails} {vnicType : Str}
    (vnic : port.vnicType = some vnicType) (vlanId : Int) :
    (∃ element, getXmlInterfaceDevice root port = .ok element ∧
        validatePortXmlVlanTag element vlanId = .ok ()) ↔
      guest.HasPort port vnicType vlanId := by
  apply exists_interface_iff shown vnic
  intro element nic shownNic
  exact validatePortXmlVlanTag_eq_ok_iff shownNic vlanId

/-- A domain with one interface of a virtual function. -/
def interfaceDomain (mac : Str) : Element :=
  .node "domain".toList [] [.node devicesTag [] [.node interfaceTag
    [(typeName, "hostdev".toList)]
    [.node macTag [(addressName, mac)] [],
      .node "vlan".toList [] [.node "tag".toList
        [("id".toList, "101".toList)] []]]]]

def interfaceDevices (mac : Str) : GuestDevices :=
  ⟨[⟨"hostdev".toList, mac, some 101⟩], []⟩

theorem interfaceDevices_shown (mac : Str) :
    (interfaceDevices mac).ShownBy (interfaceDomain mac) := by
  have missing : findHostdevs (interfaceDomain mac) = [] := rfl
  refine ⟨.cons ⟨rfl, rfl, rfl⟩ .nil, ?_⟩
  rw [missing]
  exact .nil

theorem interfaceDevices_hasPort (port : PortDetails) :
    (interfaceDevices port.macAddress).HasPort port "direct".toList 101 := by
  refine ⟨⟨"hostdev".toList, port.macAddress, some 101⟩, ?_, rfl⟩
  have kind : "hostdev".toList = interfaceType "direct".toList := by decide
  rw [GuestDevices.nicsOf, ← kind]
  simp [interfaceDevices]

theorem plainDigits_of_digits {name : Str} {width : Nat}
    {digits : Digits isLowerHexDigit width}
    (present : element.get name = some (hexPrefix ++ digits.text)) :
    plainDigits element name = .ok digits.text := by
  have foreign : 'x' ∉ digits.text := digits.notMem (by decide)
  simp only [plainDigits, present]
  rw [replace_append (by decide), replace_of_not_mem (by decide) foreign,
    List.nil_append]

theorem getPciAddressFromXmlDevice_of_shown {address : PciAddress}
    (shown : AddressShownBy element address) :
    getPciAddressFromXmlDevice (element.find sourceAddress) =
      .ok address.text := by
  obtain ⟨source, found, domain, bus, slot, func⟩ := shown.source
  simp only [found, getPciAddressFromXmlDevice, plainDigits_of_digits domain,
    plainDigits_of_digits bus, plainDigits_of_digits slot,
    plainDigits_of_digits func]
  rfl

theorem validatePfPciAddressInXml_eq_ok_iff {address : PciAddress}
    (shown : AddressShownBy element address)
    (bindingProfile : Option (List (Str × Str))) :
    validatePfPciAddressInXml bindingProfile element = .ok () ↔
      bindingSlot bindingProfile = .ok address.text := by
  rw [validatePfPciAddressInXml, getPciAddressFromXmlDevice_of_shown shown]
  cases bindingSlot bindingProfile with
  | error error => simp [bind, Except.bind, Except.mapError]
  | ok slot =>
      simp [bind, Except.bind, Except.mapError, require_eq_ok_iff,
        @eq_comm _ slot]

theorem toLower_of_isLowerHexDigit {c : Char}
    (digit : isLowerHexDigit c = true) : c.toLower = c := by
  have notUpper : ¬ (c.val ≥ 'A'.val ∧ c.val ≤ 'Z'.val) := by
    simp only [isLowerHexDigit, isBetween, Bool.or_eq_true, Bool.and_eq_true,
      decide_eq_true_eq] at digit
    intro both
    have least : 'A'.toNat ≤ c.toNat := both.1
    have most : c.toNat ≤ 'Z'.toNat := both.2
    have nine : '9'.toNat < 'A'.toNat := by decide
    have letterA : 'Z'.toNat < 'a'.toNat := by decide
    omega
  exact dif_neg notUpper

theorem Digits.lower_text {width : Nat}
    (digits : Digits isLowerHexDigit width) :
    digits.text.map Char.toLower = digits.text := by
  rw [List.map_congr_left (g := id), List.map_id]
  intro c member
  exact toLower_of_isLowerHexDigit (digits.accepted c member)

theorem lower_address (address : PciAddress) :
    lower address.text = address.text := by
  have colon : ':'.toLower = ':' := by decide
  have period : '.'.toLower = '.' := by decide
  simp only [lower, PciAddress.text, List.map_append, List.map_cons,
    Digits.lower_text, colon, period]

theorem address_text_ne_nil (address : PciAddress) : address.text ≠ [] := by
  simp [PciAddress.text]

theorem status_text_eq_iff {status other : PciStatus} :
    status.text = other.text ↔ status = other := by
  cases status
  cases other
  simp

theorem getPciStatusCount_address (table : PciTable) (status : PciStatus)
    (address : PciAddress) :
    getPciStatusCount table status.text (some address.text) =
      table.countP fun row =>
        row.status = status ∧ row.address = address.text := by
  unfold getPciStatusCount
  cases text : address.text with
  | nil => exact absurd text (address_text_ne_nil address)
  | cons c rest =>
      apply List.countP_congr
      intro row _
      simp only [status_text_eq_iff]

/-- The check of a passed-through device passes exactly if the guest has one
host device, which is a configured one, and its address is the one of a single
allocated device of the database. -/
theorem checkPassthrough_eq_ok_iff (shown : guest.ShownBy root)
    (pciAddresses : List Str) (table : PciTable) :
    checkPassthrough root pciAddresses table = .ok () ↔
      ∃ address, guest.hostDevices = [address] ∧
        (∃ configured ∈ pciAddresses, lower configured = address.text) ∧
        (table.countP fun row =>
          row.status = allocated ∧ row.address = address.text) = 1 := by
  rw [checkPassthrough, bind_eq_ok_iff]
  apply exists_onlyOne_iff shown.hostDevices
  intro element address shownAddress
  rw [getPciAddressFromXmlDevice_of_shown shownAddress]
  constructor
  · intro returned
    obtain ⟨_, same, rest⟩ := bind_eq_ok_iff.mp returned
    cases same
    obtain ⟨_, configured, rest⟩ := bind_eq_ok_iff.mp rest
    obtain ⟨entry, member, equal⟩ := require_eq_ok_iff.mp configured
    rw [lower_address] at equal
    have counted := require_eq_ok_iff.mp rest
    rw [getPciStatusCount_address] at counted
    exact ⟨⟨entry, member, equal.symm⟩, counted⟩
  · intro both
    obtain ⟨⟨entry, member, equal⟩, counted⟩ := both
    apply bind_eq_ok_iff.mpr
    refine ⟨address.text, rfl, bind_eq_ok_iff.mpr ⟨(), ?_, ?_⟩⟩
    · apply require_eq_ok_iff.mpr
      refine ⟨entry, member, ?_⟩
      rw [lower_address, equal]
    · apply require_eq_ok_iff.mpr
      rw [getPciStatusCount_address, counted]

/-- A configured device that is allocated passes. -/
theorem checkPassthrough_allocated_device :
    let device : PciAddress :=
      ⟨⟨"0000".toList, by decide, by decide⟩, ⟨"0a".toList, by decide, by decide⟩,
        ⟨"10".toList, by decide, by decide⟩, ⟨"1".toList, by decide, by decide⟩⟩
    let root : Element := .node "domain".toList [] [.node devicesTag []
      [.node hostdevTag [(typeName, "pci".toList)] [.node "source".toList []
        [.node addressName [("domain".toList, "0x0000".toList),
          ("bus".toList, "0x0a".toList), ("slot".toList, "0x10".toList),
          ("function".toList, "0x1".toList)] []]]]]
    (GuestDevices.mk [] [device]).ShownBy root ∧
      checkPassthrough root ["0000:0A:10.1".toList]
        [⟨none, "0000:0a:10.1".toList, allocated, "type-PCI".toList⟩] =
          .ok () := by
  intro device root
  have shown : (GuestDevices.mk [] [device]).ShownBy root :=
    ⟨.nil, .cons ⟨_, rfl, rfl, rfl, rfl, rfl⟩ .nil⟩
  refine ⟨shown, (checkPassthrough_eq_ok_iff shown _ _).mpr ?_⟩
  exact ⟨device, rfl, ⟨_, List.mem_cons_self, by decide⟩, by decide⟩

end Lookups

end Whitebox.Compute
