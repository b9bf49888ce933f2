import Whitebox.Posix.Regex

/-!
# Counting the virtual GPUs of a guest

The vGPU tests look for the vendor files of the guest's PCI devices that hold
the configured vendor, keep the lines in which an extended regular expression
finds a PCI address, and count them.  The bracket expression `[0-9a-e]` leaves
one hexadecimal digit out, so a device with that digit in its address is lost.
-/

namespace Whitebox.Compute

open Whitebox.Posix
open Whitebox.Posix.Regex
open Whitebox.Python

def isLowerHexDigit (c : Char) : Bool :=
  isBetween '0' '9' c || isBetween 'a' 'f' c

def isHexDigit (c : Char) : Bool :=
  isLowerHexDigit c || isBetween 'A' 'F' c

/-- A text of digits with a fixed width. -/
@[ext]
structure Digits (accepts : Char → Bool) (width : Nat) where
  text : Str
  length_text : text.length = width
  all_text : text.all accepts = true
deriving DecidableEq

/-- The address of a PCI device, as sysfs names the device. -/
structure PciAddress where
  domain : Digits isLowerHexDigit 4
  bus : Digits isLowerHexDigit 2
  slot : Digits isLowerHexDigit 2
  function : Digits isLowerHexDigit 1

def PciAddress.text (address : PciAddress) : Str :=
  address.domain.text ++ ':' :: (address.bus.text ++
    ':' :: (address.slot.text ++ '.' :: address.function.text))

abbrev VendorId := Digits isHexDigit 4

structure GuestDevice where
  address : PciAddress
  vendor : VendorId

def vendorText (vendor : VendorId) : Str :=
  '0' :: 'x' :: vendor.text

/-- A path that `/sys/bus/pci/devices/*/vendor` expands to. -/
def GuestDevice.vendorPath (device : GuestDevice) : Str :=
  "/sys/bus/pci/devices/".toList ++ (device.address.text ++
    "/vendor".toList)

/-- The bracket expression `[0-9a-e]`. -/
def isAddressDigit (c : Char) : Bool :=
  isBetween '0' '9' c || isBetween 'a' 'e' c

/-- `[0-9a-e]{4}:[0-9a-e]{2}:[0-9a-e]{2}.[0-9a-e]{1}`. -/
def addressRegex : Regex :=
  .seq (.times 4 (.one isAddressDigit)) (.seq (literal ':')
    (.seq (.times 2 (.one isAddressDigit)) (.seq (literal ':')
      (.seq (.times 2 (.one isAddressDigit)) (.seq (.one fun _ => true)
        (.times 1 (.one isAddressDigit)))))))

/-- The output of `grep -nr 0x%s /sys/bus/pci/devices/*/vendor | grep -E
'[0-9a-e]{4}:[0-9a-e]{2}:[0-9a-e]{2}.[0-9a-e]{1}' | wc -l` in a guest. -/
def vendorCommand (vendor : VendorId) (devices : List GuestDevice) : Str :=
  countLines (grep addressRegex (devices.flatMap fun device =>
    grepNumbered (word (vendorText vendor)) device.vendorPath
      (vendorText device.vendor ++ ['\n'])))

inductive GuestExn where
  | valueError
  | assertionError (message : Str)
deriving DecidableEq

/-- `_assert_vendor_id_in_guest`, after `exec_command` has returned the output
of the command. -/
def assertVendorIdInGuest (vendor : VendorId) (sysOut : Option Str)
    (expectedDeviceCount : Int) : Except GuestExn Unit :=
  match sysOut with
  | none => .error (.assertionError ("Unable to find vendor id ".toList ++
      vendor.text ++ " when checking the guest".toList))
  | some output =>
      match int output with
      | none => .error .valueError
      | some found =>
          if expectedDeviceCount = found then
            .ok ()
          else
            .error (.assertionError ("Should only find ".toList ++
              str expectedDeviceCount ++
              " vGPU device in guest but instead found ".toList ++ str found))

section Digits

theorem Digits.accepted {accepts : Char → Bool} {width : Nat}
    (digits : Digits accepts width) : ∀ c ∈ digits.text, accepts c = true :=
  List.all_eq_true.mp digits.all_text

theorem ne_of_isHexDigit {c other : Char} (digit : isHexDigit c = true)
    (foreign : isHexDigit other = false) : c ≠ other := by
  intro same
  rw [same, foreign] at digit
  cases digit

theorem isHexDigit_of_isLowerHexDigit {c : Char}
    (digit : isLowerHexDigit c = true) : isHexDigit c = true := by
  rw [isHexDigit, digit, Bool.true_or]

/-- The bracket expression takes every digit but one. -/
theorem isAddressDigit_iff {c : Char} (digit : isLowerHexDigit c = true) :
    isAddressDigit c = true ↔ c ≠ 'f' := by
  simp only [isLowerHexDigit, isAddressDigit, isBetween, Bool.or_eq_true,
    Bool.and_eq_true, decide_eq_true_eq] at digit ⊢
  rw [Ne, ← Char.toNat_inj]
  have letterE : 'e'.toNat + 1 = 'f'.toNat := rfl
  have digitNine : '9'.toNat < 'f'.toNat := by decide
  omega

theorem Digits.notMem {width : Nat} (digits : Digits isLowerHexDigit width)
    {c : Char} (foreign : isHexDigit c = false) : c ∉ digits.text := by
  intro member
  apply ne_of_isHexDigit _ foreign rfl
  exact isHexDigit_of_isLowerHexDigit (digits.accepted c member)

theorem Digits.isAddressDigit_iff {width : Nat}
    (digits : Digits isLowerHexDigit width) :
    (∀ c ∈ digits.text, isAddressDigit c = true) ↔ 'f' ∉ digits.text := by
  constructor
  · intro accepted member
    exact (Compute.isAddressDigit_iff (digits.accepted _ member)).mp
      (accepted _ member) rfl
  · intro absent c member
    apply (Compute.isAddressDigit_iff (digits.accepted c member)).mpr
    intro same
    exact absent (same ▸ member)

theorem vendorText_notMem {vendor : VendorId} {c : Char}
    (foreign : isHexDigit c = false) (different : c ≠ 'x') :
    c ∉ vendorText vendor := by
  intro member
  rcases List.mem_cons.mp member with same | member
  · exact ne_of_isHexDigit (c := '0') rfl foreign same.symm
  rcases List.mem_cons.mp member with same | member
  · exact different same
  · exact ne_of_isHexDigit (vendor.accepted c member) foreign rfl

/-- Vendor texts have one length, so none is a proper part of another. -/
theorem vendorText_infix_iff {vendor other : VendorId} :
    vendorText vendor <:+: vendorText other ↔ other = vendor := by
  constructor
  · intro part
    have same : vendorText vendor = vendorText other := by
      apply part.eq_of_length
      simp [vendorText, vendor.length_text, other.length_text]
    apply Digits.ext
    exact (List.cons.inj (List.cons.inj same).2).2.symm
  · intro same
    rw [same]

end Digits

section Address

theorem matches_addressRegex_iff {text : Str} :
    Matches addressRegex text ↔
      ∃ (domain bus slot : Str) (c : Char) (function : Str),
        text = domain ++ ':' :: (bus ++ ':' :: (slot ++ c :: function)) ∧
        (domain.length = 4 ∧ ∀ c ∈ domain, isAddressDigit c = true) ∧
        (bus.length = 2 ∧ ∀ c ∈ bus, isAddressDigit c = true) ∧
        (slot.length = 2 ∧ ∀ c ∈ slot, isAddressDigit c = true) ∧
        (function.length = 1 ∧ ∀ c ∈ function, isAddressDigit c = true) := by
  constructor
  · intro holds
    obtain ⟨domain, _, rfl, isDomain, later⟩ := matches_seq_iff.mp holds
    obtain ⟨_, _, rfl, isColon, later⟩ := matches_seq_iff.mp later
    obtain ⟨bus, _, rfl, isBus, later⟩ := matches_seq_iff.mp later
    obtain ⟨_, _, rfl, isSecond, later⟩ := matches_seq_iff.mp later
    obtain ⟨slot, _, rfl, isSlot, later⟩ := matches_seq_iff.mp later
    obtain ⟨_, function, rfl, isPeriod, isFunction⟩ :=
      matches_seq_iff.mp later
    obtain ⟨c, rfl, _⟩ := matches_one_iff.mp isPeriod
    cases matches_literal_iff.mp isColon
    cases matches_literal_iff.mp isSecond
    exact ⟨domain, bus, slot, c, function, rfl,
      matches_times_one_iff.mp isDomain, matches_times_one_iff.mp isBus,
      matches_times_one_iff.mp isSlot, matches_times_one_iff.mp isFunction⟩
  · intro shape
    obtain ⟨domain, bus, slot, c, function, rfl, isDomain, isBus, isSlot,
      isFunction⟩ := shape
    apply Matches.seq (matches_times_one_iff.mpr isDomain)
    apply Matches.seq (matches_literal_iff.mpr rfl)
    apply Matches.seq (matches_times_one_iff.mpr isBus)
    apply Matches.seq (matches_literal_iff.mpr rfl)
    apply Matches.seq (matches_times_one_iff.mpr isSlot)
    apply Matches.seq (matches_one_iff.mpr ⟨c, rfl, rfl⟩)
    exact matches_times_one_iff.mpr isFunction

/-- The colons of a text locate a piece between two of them by its length. -/
theorem between_colons {first second third fourth fifth : Str}
    (solid : ∀ piece ∈ [first, second, third, fourth, fifth], ':' ∉ piece)
    (thirdLength : third.length ≠ 2) (fourthLength : fourth.length ≠ 2)
    {before piece after : Str} (colon : ':' ∉ piece)
    (length : piece.length = 2)
    (same : join ':' [first, second, third, fourth, fifth] =
      before ++ ':' :: (piece ++ ':' :: after)) :
    before = first ∧ piece = second ∧
      after = join ':' [third, fourth, fifth] := by
  have parts : [first, second, third, fourth, fifth] =
      split ':' before ++ piece :: split ':' after := by
    rw [← List.splitOn_intercalate ':' solid (List.cons_ne_nil _ _)]
    change split ':' (join ':' _) = _
    rw [same, split_append, split_append, split_of_not_mem colon,
      List.singleton_append]
  have joined : join ':' (split ':' before) = before :=
    List.intercalate_splitOn ':'
  have rest : join ':' (split ':' after) = after :=
    List.intercalate_splitOn ':'
  have last : split ':' after ≠ [] := List.splitOn_ne_nil ':' after
  -- The piece is the second of the five: the first has no colon before it, two
  -- have another length, and the last has no colon after it.
  rcases shape : split ':' before with _ | ⟨p, _ | ⟨q, _ | ⟨r, _ | ⟨s, more⟩⟩⟩⟩
  · exact absurd shape (List.splitOn_ne_nil ':' before)
  · rw [shape] at parts joined
    injection parts with isFirst parts
    injection parts with isSecond isRest
    rw [← joined, ← rest, ← isFirst, ← isSecond, ← isRest, join_singleton]
    exact ⟨rfl, rfl, rfl⟩
  · rw [shape] at parts
    injection parts with _ parts
    injection parts with _ parts
    injection parts with isThird _
    exact absurd length (isThird ▸ thirdLength)
  · rw [shape] at parts
    injection parts with _ parts
    injection parts with _ parts
    injection parts with _ parts
    injection parts with isFourth _
    exact absurd length (isFourth ▸ fourthLength)
  · rw [shape] at parts
    have lengths := congrArg List.length parts
    have positive := List.length_pos_iff.mpr last
    simp only [List.length_cons, List.length_nil, List.length_append] at lengths
    omega

theorem notMem_address_iff {address : PciAddress} {c : Char}
    (notColon : c ≠ ':') (notPeriod : c ≠ '.') :
    c ∉ address.text ↔
      c ∉ address.domain.text ∧ c ∉ address.bus.text ∧
        c ∉ address.slot.text ∧ c ∉ address.function.text := by
  simp [PciAddress.text, notColon, notPeriod]

/-- The line that the first `grep` prints for a device. -/
def GuestDevice.report (device : GuestDevice) : Str :=
  device.vendorPath ++ ':' :: '1' :: ':' :: vendorText device.vendor

/-- The pieces of the line between its colons. -/
def GuestDevice.pieces (device : GuestDevice) : List Str :=
  ["/sys/bus/pci/devices/".toList ++ device.address.domain.text,
    device.address.bus.text,
    device.address.slot.text ++ '.' ::
      (device.address.function.text ++ "/vendor".toList),
    ['1'], vendorText device.vendor]

theorem report_eq_join (device : GuestDevice) :
    device.report = join ':' device.pieces := by
  unfold GuestDevice.report GuestDevice.vendorPath PciAddress.text
    GuestDevice.pieces
  generalize "/sys/bus/pci/devices/".toList = root
  generalize "/vendor".toList = file
  simp only [join_cons_cons, join_singleton, List.append_assoc,
    List.cons_append, List.nil_append]

/-- A character that is no digit is in a piece only as a part of the path. -/
theorem notMem_pieces (device : GuestDevice) {c : Char}
    (foreign : isHexDigit c = false)
    (root : c ∉ "/sys/bus/pci/devices/".toList)
    (file : c ∉ "/vendor".toList) (notPeriod : c ≠ '.') (notX : c ≠ 'x') :
    ∀ piece ∈ device.pieces, c ∉ piece := by
  have one : c ≠ '1' := (ne_of_isHexDigit rfl foreign).symm
  have vendor : c ∉ vendorText device.vendor := vendorText_notMem foreign notX
  unfold GuestDevice.pieces
  generalize "/sys/bus/pci/devices/".toList = rootText at root ⊢
  generalize "/vendor".toList = fileText at file ⊢
  simp [Digits.notMem, foreign, root, file, notPeriod, one, vendor]

/-- A match in the line of a device is its address. -/
theorem address_of_match {device : GuestDevice}
    {before domain bus slot function after : Str} {c : Char}
    (same : device.report = before ++ ((domain ++ ':' :: (bus ++
      ':' :: (slot ++ c :: function))) ++ after))
    (colon : ':' ∉ bus) (domainLength : domain.length = 4)
    (busLength : bus.length = 2) (slotLength : slot.length = 2)
    (functionLength : function.length = 1) :
    domain = device.address.domain.text ∧ bus = device.address.bus.text ∧
      slot = device.address.slot.text ∧
      function = device.address.function.text := by
  have solid : ∀ piece ∈ device.pieces, ':' ∉ piece := by
    apply notMem_pieces device
    all_goals decide
  have thirdLength : (device.address.slot.text ++ '.' ::
      (device.address.function.text ++ "/vendor".toList)).length ≠ 2 := by
    rw [List.length_append, List.length_cons, Digits.length_text]
    omega
  have located : join ':' device.pieces = (before ++ domain) ++ ':' :: (bus ++
      ':' :: (slot ++ c :: (function ++ after))) := by
    rw [← report_eq_join, same]
    simp only [List.append_assoc, List.cons_append]
  obtain ⟨first, isBus, rest⟩ := between_colons solid thirdLength (by decide)
    colon busLength located
  rw [join_cons_cons, List.append_assoc] at rest
  obtain ⟨isSlot, rest⟩ := List.append_inj rest (by
    rw [slotLength, Digits.length_text])
  rw [List.cons_append, List.append_assoc] at rest
  have rest := (List.cons.inj rest).2
  refine ⟨?_, isBus, isSlot, ?_⟩
  · apply List.append_inj_right' first
    rw [domainLength, Digits.length_text]
  · apply List.append_inj_left rest
    rw [functionLength, Digits.length_text]

/-- The second `grep` keeps the line of a device exactly if the digit that its
bracket expression leaves out is not in the address. -/
theorem search_report_iff (device : GuestDevice) :
    addressRegex.search device.report = true ↔
      'f' ∉ device.address.text := by
  rw [search_iff, notMem_address_iff (by decide) (by decide)]
  constructor
  · intro found
    obtain ⟨before, matched, after, same, holds⟩ := found
    obtain ⟨domain, bus, slot, c, function, rfl, isDomain, isBus, isSlot,
      isFunction⟩ := matches_addressRegex_iff.mp holds
    have colon : ':' ∉ bus := by
      intro member
      exact absurd (isBus.2 _ member) (by decide)
    obtain ⟨rfl, rfl, rfl, rfl⟩ :=
      address_of_match same colon isDomain.1 isBus.1 isSlot.1 isFunction.1
    exact ⟨(Digits.isAddressDigit_iff _).mp isDomain.2,
      (Digits.isAddressDigit_iff _).mp isBus.2,
      (Digits.isAddressDigit_iff _).mp isSlot.2,
      (Digits.isAddressDigit_iff _).mp isFunction.2⟩
  · intro absent
    obtain ⟨inDomain, inBus, inSlot, inFunction⟩ := absent
    refine ⟨"/sys/bus/pci/devices/".toList, device.address.text,
      "/vendor".toList ++ ':' :: '1' :: ':' :: vendorText device.vendor, ?_,
      ?_⟩
    · unfold GuestDevice.report GuestDevice.vendorPath
      rw [List.append_assoc, List.append_assoc]
    apply matches_addressRegex_iff.mpr
    exact ⟨_, _, _, _, _, rfl,
      ⟨Digits.length_text _, (Digits.isAddressDigit_iff _).mpr inDomain⟩,
      ⟨Digits.length_text _, (Digits.isAddressDigit_iff _).mpr inBus⟩,
      ⟨Digits.length_text _, (Digits.isAddressDigit_iff _).mpr inSlot⟩,
      ⟨Digits.length_text _, (Digits.isAddressDigit_iff _).mpr inFunction⟩⟩

end Address

section Count

variable (vendor : VendorId) (devices : List GuestDevice)

/-- The devices that the count is about. -/
def devicesOfVendor : List GuestDevice :=
  devices.filter fun device => device.vendor = vendor

theorem newline_notMem_report (device : GuestDevice) :
    '\n' ∉ device.report := by
  have solid : ∀ piece ∈ device.pieces, '\n' ∉ piece := by
    apply notMem_pieces device
    all_goals decide
  intro member
  rw [report_eq_join] at member
  rcases mem_of_mem_join member with same | ⟨piece, inPieces, member⟩
  · exact absurd same (by decide)
  · exact solid piece inPieces member

theorem grepNumbered_vendor (device : GuestDevice) :
    grepNumbered (word (vendorText vendor)) device.vendorPath
        (vendorText device.vendor ++ ['\n']) =
      if device.vendor = vendor then terminated [device.report] else [] := by
  rw [grepNumbered_line _ _ (vendorText_notMem (by decide) (by decide))]
  simp only [search_word_iff, vendorText_infix_iff]
  rfl

/-- The first `grep` reports the devices of the vendor. -/
theorem flatMap_grepNumbered :
    (devices.flatMap fun device =>
      grepNumbered (word (vendorText vendor)) device.vendorPath
        (vendorText device.vendor ++ ['\n'])) =
      terminated ((devicesOfVendor vendor devices).map
        GuestDevice.report) := by
  induction devices with
  | nil => rfl
  | cons device rest induction =>
      rw [List.flatMap_cons, induction, grepNumbered_vendor]
      by_cases same : device.vendor = vendor
      · simp [devicesOfVendor, terminated, same]
      · simp [devicesOfVendor, same]

/-- The command counts the devices of the vendor whose address has no digit
that the bracket expression leaves out. -/
theorem vendorCommand_eq :
    vendorCommand vendor devices =
      str ((devicesOfVendor vendor devices).countP fun device =>
        'f' ∉ device.address.text) ++ ['\n'] := by
  have noNewline : ∀ line ∈ (devicesOfVendor vendor devices).map
      GuestDevice.report, '\n' ∉ line := by
    intro line member
    obtain ⟨device, _, rfl⟩ := List.mem_map.mp member
    exact newline_notMem_report device
  have kept : ∀ line ∈ ((devicesOfVendor vendor devices).map
      GuestDevice.report).filter addressRegex.search, '\n' ∉ line := by
    intro line member
    exact noNewline line (List.mem_of_mem_filter member)
  have found : addressRegex.search ∘ GuestDevice.report =
      fun device => decide ('f' ∉ device.address.text) := by
    funext device
    rw [Function.comp_apply, Bool.eq_iff_iff, decide_eq_true_iff]
    exact search_report_iff device
  rw [vendorCommand, flatMap_grepNumbered, grep_terminated _ noNewline,
    countLines_terminated kept, ← List.countP_eq_length_filter,
    List.countP_map, found]

theorem assertVendorIdInGuest_eq_ok_iff {found : Nat} {expected : Int} :
    assertVendorIdInGuest vendor (some (str found ++ ['\n'])) expected = .ok () ↔
      expected = found := by
  have number : int (str found ++ ['\n']) = some (found : Int) := by
    rw [int_append_blank _ (by decide), int_str]
  simp only [assertVendorIdInGuest, number]
  split
  · simp [*]
  · simp [*]

/-- The command prints the number of devices of the vendor, and the assertion
compares that number, exactly if no address of theirs has the digit that the
bracket expression leaves out. -/
theorem vendorCommand_exact_iff :
    (vendorCommand vendor devices =
        str (devicesOfVendor vendor devices).length ++ ['\n'] ∧
      ∀ expected : Int,
        assertVendorIdInGuest vendor (some (vendorCommand vendor devices))
            expected = .ok () ↔
          ((devicesOfVendor vendor devices).length : Int) = expected) ↔
      ∀ device ∈ devices, device.vendor = vendor →
        'f' ∉ device.address.text := by
  have all : (devicesOfVendor vendor devices).countP
        (fun device => 'f' ∉ device.address.text) =
          (devicesOfVendor vendor devices).length ↔
      ∀ device ∈ devices, device.vendor = vendor →
        'f' ∉ device.address.text := by
    simp [List.countP_eq_length, devicesOfVendor]
  rw [← all, vendorCommand_eq]
  constructor
  · intro correct
    have numbers := str_injective (List.append_cancel_right correct.1)
    exact Int.ofNat.inj numbers
  · intro counted
    rw [counted]
    refine ⟨rfl, ?_⟩
    intro expected
    rw [assertVendorIdInGuest_eq_ok_iff, eq_comm]

end Count

/-- One of the two virtual GPUs of the guest is on the bus `0f` and is not
counted.  The other one is found, so every command of the pipeline succeeds. -/
theorem vendorCommand_lost_device :
    let vendor : VendorId := ⟨"10de".toList, by decide, by decide⟩
    let onBus (bus : Digits isLowerHexDigit 2) : GuestDevice :=
      ⟨⟨⟨"0000".toList, by decide, by decide⟩, bus,
        ⟨"00".toList, by decide, by decide⟩,
        ⟨"0".toList, by decide, by decide⟩⟩, vendor⟩
    let devices := [onBus ⟨"05".toList, by decide, by decide⟩,
      onBus ⟨"0f".toList, by decide, by decide⟩]
    (devicesOfVendor vendor devices).length = 2 ∧
    vendorCommand vendor devices = "1\n".toList ∧
    assertVendorIdInGuest vendor (some (vendorCommand vendor devices)) 2 =
      .error (.assertionError ("Should only find 2 vGPU device in guest but "
        ++ "instead found 1").toList) := by
  decide

end Whitebox.Compute
