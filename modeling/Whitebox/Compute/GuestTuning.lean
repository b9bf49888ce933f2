import Whitebox.Compute.CpuMask
import Whitebox.Compute.ServerPinning

/-!
# What a domain says about its CPUs

The pinning tests read five kinds of elements from the domain XML of a server:
the host CPUs of every virtual CPU, of the emulator threads and of the I/O
threads, the host cells of every virtual NUMA cell, and the CPUs that unpinned
virtual CPUs float over.  A guest states all of this by itself, and the domain
is how libvirt writes it down.  Every reader gets back what the guest states.
-/

namespace Whitebox.Compute

open Whitebox.Python
open Whitebox.Hardware
open Whitebox.Association
open Whitebox.Effect.Fallible

/-- A `memnode` or `iothreadpin` element with its `cellid` and `nodeset`, or
its `iothread` and `cpuset`. -/
structure NumberedCpuset where
  number : Option Str
  cpuset : Option Str

/-- What is read of a domain. -/
structure DomainXml where
  cputune : ServerXml
  memnodes : List NumberedCpuset
  /-- The text of the `iothreads` element, if there is such an element. -/
  iothreads : Option (Option Str)
  iothreadpins : List NumberedCpuset
  /-- The `cpuset` of the `vcpu` element, if there is such an element. -/
  vcpu : Option (Option Str)

/-- A `dict` from threads or cells to sets of CPUs. -/
abbrev CpusByNumber := List (Int × Finset Int)

/-- `hardware.parse_cpu_spec(attribute)`; `None` cannot be split. -/
def parseCpuset : Option Str → Except SpecError (Finset Int)
  | none => .error .attributeError
  | some cpuset => parseCpuSpec int cpuset

/-- One turn of the loop over the `memnode` elements.  The set is read before
the number. -/
def addCell (cellPins : CpusByNumber) (memnode : NumberedCpuset) :
    Except SpecError CpusByNumber := do
  let cells ← parseCpuset memnode.cpuset
  let cell ← intAttribute memnode.number
  pure (assign cell cells cellPins)

def getServerCellPinning (root : DomainXml) : Except SpecError CpusByNumber :=
  root.memnodes.foldlM addCell []

/-- The entry of one `iothreadpin` element.  The number is read before the
set. -/
def addIothread (iothreadPins : CpusByNumber) (pin : NumberedCpuset) :
    Except SpecError CpusByNumber := do
  let iothread ← intAttribute pin.number
  let cpus ← parseCpuset pin.cpuset
  pure (assign iothread cpus iothreadPins)

/-- `int(root.find('./iothreads').text)`. -/
def numberOfIothreads : Option (Option Str) → Except SpecError Int
  | none => .error .attributeError
  | some text => intAttribute text

def getServerIothreads (root : DomainXml) :
    Except SpecError (Int × Option CpusByNumber) := do
  let nrOfIothreads ← numberOfIothreads root.iothreads
  match root.iothreadpins with
  | [] => pure (nrOfIothreads, none)
  | pins => do
      let iothreadPins ← pins.foldlM addIothread []
      pure (nrOfIothreads, some iothreadPins)

/-- `_get_shared_cpuset`. -/
def getSharedCpuset (root : DomainXml) : Except SpecError (Finset Int) :=
  match root.vcpu with
  | none => .error .attributeError
  | some cpuset => parseCpuset cpuset

/-- CPUs or cells of the host for each of some numbered threads or cells. -/
structure NumberedMasks where
  entries : List (Nat × CpuMask)
  distinct : (entries.map Prod.fst).Nodup

namespace NumberedMasks

variable (masks : NumberedMasks)

/-- The masks as a `dict` of sets. -/
def cpus : CpusByNumber :=
  masks.entries.map fun entry => ((entry.1 : Int), entry.2.cpuSet)

def united : Finset Int :=
  CpuMask.unite (masks.entries.map Prod.snd)

/-- The elements that show the masks. -/
def elements : List NumberedCpuset :=
  masks.entries.map fun entry =>
    ⟨some (str (entry.1 : Int)), some entry.2.text⟩

/-- The `vcpupin` elements that show the masks. -/
def pins : List PinElement :=
  masks.entries.map fun entry =>
    ⟨some (str (entry.1 : Int)), some entry.2.text⟩

theorem distinct_cpus : (masks.cpus.map Prod.fst).Nodup := by
  have keys : masks.cpus.map Prod.fst =
      (masks.entries.map Prod.fst).map Int.ofNat := by
    rw [cpus, List.map_map, List.map_map]
    rfl
  rw [keys]
  exact masks.distinct.map fun _ _ same => Int.ofNat.inj same

end NumberedMasks

/-- What a guest states about its CPUs. -/
structure Guest where
  vcpus : NumberedMasks
  emulator : List CpuMask
  iothreads : Nat
  iothreadPins : NumberedMasks
  cells : NumberedMasks
  /-- The CPUs that unpinned virtual CPUs float over. -/
  floating : Option CpuMask

namespace Guest

variable (guest : Guest)

/-- How libvirt writes the guest down. -/
def xml : DomainXml where
  cputune := ⟨guest.vcpus.pins,
    guest.emulator.map fun mask => ⟨none, some mask.text⟩⟩
  memnodes := guest.cells.elements
  iothreads := some (some (str (guest.iothreads : Int)))
  iothreadpins := guest.iothreadPins.elements
  vcpu := some (guest.floating.map CpuMask.text)

/-- The I/O threads as they are read: none is pinned if the domain says
nothing about them. -/
def iothreadCpus : Option CpusByNumber :=
  if guest.iothreadPins.entries = [] then none else some guest.iothreadPins.cpus

end Guest

section Readers

theorem parseCpuset_text (mask : CpuMask) :
    parseCpuset (some mask.text) = .ok mask.cpuSet :=
  mask.parseCpuSpec_text

theorem intAttribute_str (number : Nat) :
    intAttribute (some (str (number : Int))) = .ok (number : Int) :=
  intAttribute_eq_ok_iff.mpr (int_str number)

/-- Elements that show masks are united to the CPUs of the masks. -/
theorem uniteCpusets_eq {pins : List PinElement} {masks : List CpuMask}
    (shown : pins.map PinElement.cpuset = masks.map fun mask => some mask.text) :
    uniteCpusets int pins = .ok (CpuMask.unite masks) := by
  rw [uniteCpusets, CpuMask.unite]
  generalize (∅ : Finset Int) = cpus
  induction pins generalizing masks cpus with
  | nil =>
      cases masks with
      | nil => rfl
      | cons mask masks => cases shown
  | cons pin pins induction =>
      cases masks with
      | nil => cases shown
      | cons mask masks =>
          obtain ⟨cpuset, others⟩ := List.cons_eq_cons.mp shown
          have parsed : pin.parse int = .ok mask.cpuSet := by
            rw [PinElement.parse, cpuset]
            exact mask.parseCpuSpec_text
          apply foldlM_cons_eq_ok_iff.mpr
          refine ⟨cpus ∪ mask.cpuSet, bind_eq_ok_iff.mpr ⟨_, parsed, rfl⟩, ?_⟩
          exact induction others _

/-- A loop that assigns every shown mask ends with the `dict` of all masks. -/
theorem foldlM_elements {masks : NumberedMasks}
    {turn : CpusByNumber → NumberedCpuset → Except SpecError CpusByNumber}
    (assigns : ∀ reached (number : Nat) (mask : CpuMask),
      turn reached ⟨some (str (number : Int)), some mask.text⟩ =
        .ok (assign (number : Int) mask.cpuSet reached)) :
    masks.elements.foldlM turn [] = .ok masks.cpus := by
  have assigned : ∀ (entries : List (Nat × CpuMask)) (reached : CpusByNumber),
      (entries.map fun entry =>
          (⟨some (str (entry.1 : Int)), some entry.2.text⟩ :
            NumberedCpuset)).foldlM turn reached =
        .ok (assignAll (entries.map fun entry =>
          ((entry.1 : Int), entry.2.cpuSet)) reached) := by
    intro entries
    induction entries with
    | nil => exact fun reached => rfl
    | cons entry entries induction =>
        intro reached
        apply foldlM_cons_eq_ok_iff.mpr
        exact ⟨_, assigns reached entry.1 entry.2, induction _⟩
  rw [NumberedMasks.elements, assigned]
  congr 1
  apply assignAll_of_nodup
  rw [List.nil_append]
  exact masks.distinct_cpus

theorem find_pins {entries : List (Nat × CpuMask)}
    (distinct : (entries.map Prod.fst).Nodup) {vcpu : Nat} {mask : CpuMask}
    (pinned : (vcpu, mask) ∈ entries) :
    (entries.map fun entry => (⟨some (str (entry.1 : Int)),
        some entry.2.text⟩ : PinElement)).find?
      (fun pin => pin.vcpu = some (str (vcpu : Int))) =
        some ⟨some (str (vcpu : Int)), some mask.text⟩ := by
  induction entries with
  | nil => cases pinned
  | cons entry entries induction =>
      rw [List.map_cons, List.nodup_cons] at distinct
      rcases List.mem_cons.mp pinned with rfl | later
      · rw [List.map_cons, List.find?_cons_of_pos (by simp)]
      · have other : entry.1 ≠ vcpu := by
          intro same
          exact distinct.1 (same ▸ List.mem_map_of_mem later)
        have skipped : ¬ some (str (entry.1 : Int)) = some (str (vcpu : Int)) :=
          fun same => other (str_natCast_inj (Option.some.inj same))
        rw [List.map_cons, List.find?_cons_of_neg (by simpa using skipped)]
        exact induction distinct.2 later

/-- The host CPUs of some pinned virtual CPUs are those of their masks. -/
theorem getHostPcpus_eq_unite {guest : Guest}
    {requested : List (Nat × CpuMask)}
    (pinned : ∀ entry ∈ requested, entry ∈ guest.vcpus.entries) :
    getHostPcpusForGuestVcpu int guest.xml.cputune
        (requested.map fun entry => (entry.1 : Int)) =
      .ok (CpuMask.unite (requested.map Prod.snd)) := by
  have attributes : ((requested.map fun entry => (entry.1 : Int)).map
      guest.xml.cputune.findVcpupin).mapM cpusetAttribute =
        .ok (requested.map fun entry => some entry.2.text) := by
    induction requested with
    | nil => rfl
    | cons entry requested induction =>
        obtain ⟨first, others⟩ := List.forall_mem_cons.mp pinned
        have found : guest.xml.cputune.findVcpupin (entry.1 : Int) =
            some ⟨some (str (entry.1 : Int)), some entry.2.text⟩ :=
          find_pins guest.vcpus.distinct first
        simp only [List.map_cons, List.mapM_cons, found, cpusetAttribute,
          induction others]
        rfl
  have items : (requested.map fun entry => some entry.2.text).mapM joinItem =
      .ok ((requested.map Prod.snd).map CpuMask.text) := by
    clear pinned attributes
    induction requested with
    | nil => rfl
    | cons entry requested induction =>
        simp only [List.map_cons, List.mapM_cons, joinItem, induction]
        rfl
  simp only [getHostPcpusForGuestVcpu, attributes, items, bind, Except.bind]
  exact CpuMask.parseCpuSpec_join_text _

theorem getPinningAsSet_xml (guest : Guest) :
    getPinningAsSet int guest.xml.cputune = .ok guest.vcpus.united := by
  apply uniteCpusets_eq
  change guest.vcpus.pins.map PinElement.cpuset = _
  rw [NumberedMasks.pins, List.map_map, List.map_map]
  rfl

theorem getServerEmulatorThreads_xml (guest : Guest) :
    getServerEmulatorThreads int guest.xml.cputune =
      .ok (CpuMask.unite guest.emulator) := by
  apply uniteCpusets_eq
  change (guest.emulator.map _).map PinElement.cpuset = _
  rw [List.map_map]
  rfl

theorem getServerCellPinning_xml (guest : Guest) :
    getServerCellPinning guest.xml = .ok guest.cells.cpus := by
  apply foldlM_elements
  intro reached number mask
  rw [addCell, parseCpuset_text, intAttribute_str]
  rfl

theorem getServerIothreads_xml (guest : Guest) :
    getServerIothreads guest.xml =
      .ok ((guest.iothreads : Int), guest.iothreadCpus) := by
  have read : guest.iothreadPins.elements.foldlM addIothread [] =
      .ok guest.iothreadPins.cpus := by
    apply foldlM_elements
    intro reached number mask
    rw [addIothread, intAttribute_str, parseCpuset_text]
    rfl
  have number : numberOfIothreads guest.xml.iothreads =
      .ok (guest.iothreads : Int) :=
    intAttribute_str guest.iothreads
  have elements : guest.xml.iothreadpins = guest.iothreadPins.elements := rfl
  rw [getServerIothreads, number, elements, Guest.iothreadCpus]
  cases entries : guest.iothreadPins.entries with
  | nil =>
      rw [NumberedMasks.elements, entries]
      rfl
  | cons entry others =>
      rw [NumberedMasks.elements, entries] at read ⊢
      rw [if_neg (List.cons_ne_nil entry others)]
      change (List.foldlM addIothread [] _ >>= _) = _
      rw [read]
      rfl

/-- `get_server_cpu_pinning` reads the pins of virtual CPUs that have a CPU of
their own each, and nothing else. -/
theorem foldlM_addPin_eq_ok_iff {entries : List (Nat × CpuMask)}
    {reached final : Pinnings} :
    (entries.map fun entry => (⟨some (str (entry.1 : Int)),
        some entry.2.text⟩ : PinElement)).foldlM addPin reached = .ok final ↔
      ∃ pinnings : Pinnings,
        (entries.map fun entry => ((entry.1 : Int), entry.2.cpuSet)) =
          pinnings.map (fun pin => (pin.1, ({pin.2} : Finset Int))) ∧
        final = assignAll pinnings reached := by
  induction entries generalizing reached with
  | nil =>
      constructor
      · intro returned
        cases returned
        exact ⟨[], rfl, rfl⟩
      · intro read
        obtain ⟨pinnings, same, rfl⟩ := read
        rw [List.map_eq_nil_iff.mp same.symm]
        rfl
  | cons entry entries induction =>
      have pins : ∀ vcpu pcpu, PinElement.Pins ⟨some (str (entry.1 : Int)),
          some entry.2.text⟩ vcpu pcpu ↔
            vcpu = (entry.1 : Int) ∧ entry.2.cpuSet = {pcpu} := by
        intro vcpu pcpu
        simp only [PinElement.Pins, Option.bind_some, int_str,
          CpuMask.int_text_eq_some_iff, Option.some.injEq]
        rw [eq_comm]
      rw [List.map_cons, foldlM_cons_eq_ok_iff]
      simp only [addPin_eq_ok_iff, pins, induction]
      constructor
      · intro read
        obtain ⟨_, ⟨_, pcpu, ⟨rfl, single⟩, rfl⟩, pinnings, same, rfl⟩ := read
        refine ⟨((entry.1 : Int), pcpu) :: pinnings, ?_, rfl⟩
        rw [List.map_cons, List.map_cons, single, same]
      · intro read
        obtain ⟨pinnings, same, rfl⟩ := read
        cases pinnings with
        | nil => cases same
        | cons pin pinnings =>
            obtain ⟨first, others⟩ := List.cons_eq_cons.mp same
            obtain ⟨vcpu, single⟩ := Prod.mk.inj first
            exact ⟨_, ⟨pin.1, pin.2, ⟨vcpu.symm, single⟩, rfl⟩, pinnings,
              others, rfl⟩

theorem getServerCpuPinning_xml_iff {guest : Guest} {pinnings : Pinnings} :
    getServerCpuPinning guest.xml.cputune = .ok pinnings ↔
      guest.vcpus.cpus =
        pinnings.map fun pin => (pin.1, ({pin.2} : Finset Int)) := by
  have distinct : ∀ others : Pinnings, guest.vcpus.cpus =
      others.map (fun pin => (pin.1, ({pin.2} : Finset Int))) →
        assignAll others [] = others := by
    intro others same
    apply assignAll_of_nodup
    have keys := congrArg (List.map Prod.fst) same
    rw [List.map_map] at keys
    rw [List.nil_append]
    exact keys ▸ guest.vcpus.distinct_cpus
  rw [getServerCpuPinning]
  change (guest.vcpus.pins.foldlM addPin [] = _) ↔ _
  rw [NumberedMasks.pins, foldlM_addPin_eq_ok_iff]
  constructor
  · intro read
    obtain ⟨others, same, rfl⟩ := read
    rw [distinct others same]
    exact same
  · intro same
    exact ⟨pinnings, same, (distinct pinnings same).symm⟩

theorem getSharedCpuset_xml (guest : Guest) :
    getSharedCpuset guest.xml =
      match guest.floating with
      | none => .error .attributeError
      | some mask => .ok mask.cpuSet := by
  rw [getSharedCpuset, Guest.xml]
  cases guest.floating with
  | none => rfl
  | some mask => exact parseCpuset_text mask

/-- Every reader of a domain gets back what the guest states. -/
theorem guest_xml_read_back (guest : Guest)
    {requested : List (Nat × CpuMask)}
    (pinned : ∀ entry ∈ requested, entry ∈ guest.vcpus.entries) :
    getPinningAsSet int guest.xml.cputune = .ok guest.vcpus.united ∧
    getHostPcpusForGuestVcpu int guest.xml.cputune
        (requested.map fun entry => (entry.1 : Int)) =
      .ok (CpuMask.unite (requested.map Prod.snd)) ∧
    (∀ pinnings, getServerCpuPinning guest.xml.cputune = .ok pinnings ↔
      guest.vcpus.cpus =
        pinnings.map fun pin => (pin.1, ({pin.2} : Finset Int))) ∧
    getServerEmulatorThreads int guest.xml.cputune =
      .ok (CpuMask.unite guest.emulator) ∧
    getServerIothreads guest.xml =
      .ok ((guest.iothreads : Int), guest.iothreadCpus) ∧
    getServerCellPinning guest.xml = .ok guest.cells.cpus ∧
    ∀ cpus, getSharedCpuset guest.xml = .ok cpus ↔
      ∃ mask, guest.floating = some mask ∧ mask.cpuSet = cpus := by
  refine ⟨getPinningAsSet_xml guest, getHostPcpus_eq_unite pinned,
    fun pinnings => getServerCpuPinning_xml_iff,
    getServerEmulatorThreads_xml guest, getServerIothreads_xml guest,
    getServerCellPinning_xml guest, ?_⟩
  intro cpus
  rw [getSharedCpuset_xml]
  cases guest.floating with
  | none => simp
  | some mask => simp

/-- A guest with two virtual CPUs and two cells. -/
def twoCellGuest : Guest where
  vcpus := ⟨[(0, ⟨[2, 3, 5], by decide⟩), (1, .single 7)], by decide⟩
  emulator := [.single 0]
  iothreads := 1
  iothreadPins := ⟨[(1, .single 0)], by decide⟩
  cells := ⟨[(0, .single 1), (1, .single 0)], by decide⟩
  floating := none

theorem guest_xml_read_back_twoCells :
    getHostPcpusForGuestVcpu int twoCellGuest.xml.cputune [0, 1] =
      .ok {2, 3, 5, 7} := by
  have read := (guest_xml_read_back twoCellGuest
    (fun entry (member : entry ∈ twoCellGuest.vcpus.entries) => member)).2.1
  exact read.trans (congrArg Except.ok (by decide))

end Readers

end Whitebox.Compute
