import Whitebox.Effect.Fallible
import Whitebox.Hardware.CpuSpec
import Whitebox.Python.Int

/-!
# Pinned CPUs of a server

The NUMA helpers read the CPU sets of the `vcpupin` elements of a server's
domain XML.  One helper parses every element's set and unites the results, the
other joins the sets of the requested virtual CPUs and parses the joined text.
The second gives every exclusion a scope over all elements.
-/

namespace Whitebox.Compute

open Whitebox.Python
open Whitebox.Hardware
open Whitebox.Effect.Fallible
open Whitebox.Selection (pooled separately pooled_eq_separately_iff
  pooled_subset_separately)

/-- A `vcpupin` or `emulatorpin` element with the attributes that are read. -/
structure PinElement where
  vcpu : Option Str
  cpuset : Option Str

/-- The children of the `cputune` element of a domain. -/
structure ServerXml where
  vcpupins : List PinElement
  emulatorpins : List PinElement

/-- The parsed `cpuset` attribute; a missing one is not a text to split. -/
def PinElement.parse (int : Str → Option Int) (pin : PinElement) :
    Except SpecError (Finset Int) :=
  match pin.cpuset with
  | none => .error .attributeError
  | some cpuset => parseCpuSpec int cpuset

/-- `pinset |= hardware.parse_cpu_spec(pin.get('cpuset'))`. -/
def addCpuset (int : Str → Option Int) (pinset : Finset Int)
    (pin : PinElement) : Except SpecError (Finset Int) := do
  let cpus ← pin.parse int
  pure (pinset ∪ cpus)

def uniteCpusets (int : Str → Option Int) (pins : List PinElement) :
    Except SpecError (Finset Int) :=
  pins.foldlM (addCpuset int) ∅

def getPinningAsSet (int : Str → Option Int) (root : ServerXml) :
    Except SpecError (Finset Int) :=
  uniteCpusets int root.vcpupins

def getServerEmulatorThreads (int : Str → Option Int) (root : ServerXml) :
    Except SpecError (Finset Int) :=
  uniteCpusets int root.emulatorpins

/-- `root.find("./cputune/vcpupin[@vcpu='%s']" % cpu_id)`. -/
def ServerXml.findVcpupin (root : ServerXml) (cpuId : Int) :
    Option PinElement :=
  root.vcpupins.find? fun pin => pin.vcpu = some (str cpuId)

/-- `vcpu.attrib.get('cpuset')`, where `find` may have returned `None`. -/
def cpusetAttribute : Option PinElement → Except SpecError (Option Str)
  | none => .error .attributeError
  | some pin => .ok pin.cpuset

/-- An item of the list given to `','.join`. -/
def joinItem : Option Str → Except SpecError Str
  | none => .error .typeError
  | some text => .ok text

def getHostPcpusForGuestVcpu (int : Str → Option Int) (root : ServerXml)
    (instanceCpuIds : List Int) : Except SpecError (Finset Int) := do
  let vcpus := instanceCpuIds.map root.findVcpupin
  let cpusets ← vcpus.mapM cpusetAttribute
  let items ← cpusets.mapM joinItem
  parseCpuSpec int (join ',' items)

/-- The requested virtual CPUs are pinned to the given CPU sets in this order,
and the domain pins no virtual CPU to another set. -/
structure Pins (root : ServerXml) (instanceCpuIds : List Int)
    (cpusets : List Str) : Prop where
  requested : List.Forall₂
    (fun cpuId cpuset => ∃ pin, root.findVcpupin cpuId = some pin ∧
      pin.cpuset = some cpuset) instanceCpuIds cpusets
  only : ∀ pin ∈ root.vcpupins, ∃ cpuset ∈ cpusets, pin.cpuset = some cpuset

/-- The CPUs that the plain, or the caret, pieces of a text name. -/
def covered (int : Str → Option Int) (reject : Bool) (cpuset : Str) :
    Set Int :=
  {x | Covers int reject cpuset x}

section Unite

variable {int : Str → Option Int}

theorem foldlM_addCpuset_ok {pins : List PinElement}
    {pinset united : Finset Int}
    (collected : pins.foldlM (addCpuset int) pinset = .ok united) :
    (∀ outcome ∈ pins.map (PinElement.parse int),
      ∃ cpus, outcome = .ok cpus) ∧
    ∀ x, x ∈ united ↔ x ∈ pinset ∨
      ∃ cpus, .ok cpus ∈ pins.map (PinElement.parse int) ∧ x ∈ cpus := by
  induction pins generalizing pinset with
  | nil =>
      injection collected with same
      simp [same]
  | cons pin pins induction =>
      obtain ⟨next, turned, tail⟩ := foldlM_cons_eq_ok_iff.mp collected
      obtain ⟨cpus, parsed, same⟩ := bind_eq_ok_iff.mp turned
      cases same
      obtain ⟨parses, members⟩ := induction tail
      constructor
      · rw [List.map_cons, List.forall_mem_cons]
        exact ⟨⟨cpus, parsed⟩, parses⟩
      · intro x
        rw [members, Finset.mem_union, or_assoc, List.map_cons, parsed]
        simp only [List.mem_cons, Except.ok.injEq, or_and_right,
          exists_or, exists_eq_left]

theorem foldlM_addCpuset_isOk {pins : List PinElement}
    (parses : ∀ outcome ∈ pins.map (PinElement.parse int),
      ∃ cpus, outcome = .ok cpus)
    (pinset : Finset Int) :
    ∃ united, pins.foldlM (addCpuset int) pinset = .ok united := by
  induction pins generalizing pinset with
  | nil => exact ⟨pinset, rfl⟩
  | cons pin pins induction =>
      rw [List.map_cons, List.forall_mem_cons] at parses
      obtain ⟨⟨cpus, parsed⟩, others⟩ := parses
      obtain ⟨united, tail⟩ := induction others (pinset ∪ cpus)
      have turned : addCpuset int pinset pin = .ok (pinset ∪ cpus) :=
        bind_eq_ok_iff.mpr ⟨cpus, parsed, rfl⟩
      exact ⟨united, foldlM_cons_eq_ok_iff.mpr ⟨_, turned, tail⟩⟩

end Unite

namespace Pins

variable {int : Str → Option Int} {root : ServerXml}
  {instanceCpuIds : List Int} {cpusets : List Str}

theorem exists_pin (pins : Pins root instanceCpuIds cpusets) {cpuset : Str}
    (member : cpuset ∈ cpusets) :
    ∃ pin ∈ root.vcpupins, pin.cpuset = some cpuset := by
  have requested := pins.requested
  clear pins
  induction requested with
  | nil => simp at member
  | @cons _ head _ _ found _ induction =>
      rcases List.mem_cons.mp member with rfl | later
      · obtain ⟨pin, located, pinned⟩ := found
        exact ⟨pin, List.mem_of_find?_eq_some located, pinned⟩
      · exact induction later

theorem getHostPcpus_eq (pins : Pins root instanceCpuIds cpusets) :
    getHostPcpusForGuestVcpu int root instanceCpuIds =
      parseCpuSpec int (join ',' cpusets) := by
  have attributes : (instanceCpuIds.map root.findVcpupin).mapM
      cpusetAttribute = .ok (cpusets.map some) := by
    have requested := pins.requested
    clear pins
    induction requested with
    | nil => rfl
    | cons found _ induction =>
        obtain ⟨pin, located, pinned⟩ := found
        simp [cpusetAttribute, located, pinned, induction, bind, Except.bind,
          pure, Except.pure]
  have items : (cpusets.map some).mapM joinItem = .ok cpusets := by
    clear pins attributes
    induction cpusets with
    | nil => rfl
    | cons cpuset cpusets induction =>
        simp [joinItem, induction, bind, Except.bind, pure, Except.pure]
  simp [getHostPcpusForGuestVcpu, attributes, items, bind, Except.bind]

/-- The parsed elements of the domain are the parsed CPU sets. -/
theorem mem_parses_iff (pins : Pins root instanceCpuIds cpusets)
    {outcome : Except SpecError (Finset Int)} :
    outcome ∈ root.vcpupins.map (PinElement.parse int) ↔
      outcome ∈ cpusets.map (parseCpuSpec int) := by
  simp only [List.mem_map]
  constructor
  · intro ⟨pin, inRoot, parsed⟩
    obtain ⟨cpuset, member, pinned⟩ := pins.only pin inRoot
    rw [PinElement.parse, pinned] at parsed
    exact ⟨cpuset, member, parsed⟩
  · intro ⟨cpuset, member, parsed⟩
    obtain ⟨pin, inRoot, pinned⟩ := pins.exists_pin member
    refine ⟨pin, inRoot, ?_⟩
    rw [PinElement.parse, pinned]
    exact parsed

theorem getPinningAsSet_isOk_iff (pins : Pins root instanceCpuIds cpusets) :
    (∃ united, getPinningAsSet int root = .ok united) ↔
      ∀ cpuset ∈ cpusets, ∃ cpus, parseCpuSpec int cpuset = .ok cpus := by
  constructor
  · intro ⟨united, collected⟩ cpuset member
    apply (foldlM_addCpuset_ok collected).1
    exact pins.mem_parses_iff.mpr (List.mem_map_of_mem member)
  · intro parses
    apply foldlM_addCpuset_isOk
    intro outcome member
    obtain ⟨cpuset, inCpusets, rfl⟩ :=
      List.mem_map.mp (pins.mem_parses_iff.mp member)
    exact parses cpuset inCpusets

/-- Parsing each element separately keeps every exclusion to its element. -/
theorem getPinningAsSet_eq_separately
    (pins : Pins root instanceCpuIds cpusets) {united : Finset Int}
    (collected : getPinningAsSet int root = .ok united) :
    (united : Set Int) =
      separately {cpuset | cpuset ∈ cpusets} (covered int false)
        (covered int true) := by
  have parses := pins.getPinningAsSet_isOk_iff.mp ⟨united, collected⟩
  ext x
  rw [Finset.mem_coe, (foldlM_addCpuset_ok collected).2]
  simp only [Finset.notMem_empty, false_or, pins.mem_parses_iff,
    List.mem_map]
  constructor
  · intro ⟨cpus, ⟨cpuset, member, parsed⟩, inside⟩
    exact ⟨cpuset, member, (mem_parseCpuSpec parsed).mp inside⟩
  · intro ⟨cpuset, member, selected⟩
    obtain ⟨cpus, parsed⟩ := parses cpuset member
    exact ⟨cpus, ⟨cpuset, member, parsed⟩,
      (mem_parseCpuSpec parsed).mpr selected⟩

end Pins

/-- Parsing the joined sets lets every exclusion act on all of them. -/
theorem parseCpuSpec_join_eq_pooled {int : Str → Option Int}
    {cpusets : List Str} {joined : Finset Int}
    (parsed : parseCpuSpec int (join ',' cpusets) = .ok joined) :
    (joined : Set Int) =
      pooled {cpuset | cpuset ∈ cpusets} (covered int false)
        (covered int true) := by
  ext x
  rw [Finset.mem_coe, mem_parseCpuSpec parsed, covers_join, covers_join]
  simp [pooled, covered]

section Enumeration

/-- The elements that pin consecutive virtual CPUs to the given sets. -/
def enumeratePins (next : Nat) : List Str → List PinElement
  | [] => []
  | cpuset :: cpusets =>
      ⟨some (str next), some cpuset⟩ :: enumeratePins (next + 1) cpusets

theorem str_natCast_inj {left right : Nat}
    (same : str (left : Int) = str (right : Int)) : left = right := by
  have read := congrArg Python.int same
  rw [int_str, int_str] at read
  exact Int.ofNat.inj (Option.some.inj read)

theorem mem_enumeratePins {cpusets : List Str} {next : Nat} {pin : PinElement}
    (member : pin ∈ enumeratePins next cpusets) :
    ∃ cpuset ∈ cpusets, pin.cpuset = some cpuset := by
  induction cpusets generalizing next with
  | nil => simp [enumeratePins] at member
  | cons cpuset cpusets induction =>
      rcases List.mem_cons.mp member with rfl | later
      · exact ⟨cpuset, by simp, rfl⟩
      · obtain ⟨found, inTail, pinned⟩ := induction later
        exact ⟨found, List.mem_cons_of_mem _ inTail, pinned⟩

/-- Every virtual CPU is found behind the elements of smaller ones. -/
theorem requested_enumeratePins (cpusets : List Str) (next : Nat)
    (before : List PinElement)
    (smaller : ∀ pin ∈ before, ∃ index < next, pin.vcpu = some (str index)) :
    List.Forall₂
      (fun cpuId cpuset => ∃ pin,
        ServerXml.findVcpupin ⟨before ++ enumeratePins next cpusets, []⟩
          cpuId = some pin ∧ pin.cpuset = some cpuset)
      ((List.range' next cpusets.length).map Int.ofNat) cpusets := by
  induction cpusets generalizing next before with
  | nil => exact .nil
  | cons cpuset cpusets induction =>
      have skipped : before.find?
          (fun pin => pin.vcpu = some (str next)) = none := by
        rw [List.find?_eq_none]
        intro pin member
        obtain ⟨index, below, named⟩ := smaller pin member
        have different : str index ≠ str next :=
          fun same => below.ne (str_natCast_inj same)
        simp [named, different]
      rw [List.length_cons, List.range'_succ, List.map_cons]
      refine .cons ⟨⟨some (str next), some cpuset⟩, ?_, rfl⟩ ?_
      · simp [ServerXml.findVcpupin, enumeratePins, List.find?_append, skipped]
      · have tail := induction (next + 1)
          (before ++ [⟨some (str next), some cpuset⟩]) ?_
        · simpa [enumeratePins] using tail
        · intro pin member
          rcases List.mem_append.mp member with earlier | last
          · obtain ⟨index, below, named⟩ := smaller pin earlier
            exact ⟨index, below.trans (Nat.lt_succ_self next), named⟩
          · rw [List.mem_singleton] at last
            exact ⟨next, Nat.lt_succ_self next, by rw [last]⟩

/-- Every list of CPU sets is the pinning of some domain. -/
theorem exists_pins (cpusets : List Str) :
    ∃ root instanceCpuIds, Pins root instanceCpuIds cpusets := by
  refine ⟨⟨enumeratePins 0 cpusets, []⟩,
    (List.range' 0 cpusets.length).map Int.ofNat, ?_, ?_⟩
  · simpa using requested_enumeratePins cpusets 0 [] (by simp)
  · intro pin member
    exact mem_enumeratePins member

end Enumeration

/-- Joining the sets before parsing and uniting them after parsing succeed
together.  They agree exactly when no entry excludes what another one
contributes. -/
theorem pinned_cpus_agree_iff (int : Str → Option Int) (cpusets : List Str) :
    (∃ root instanceCpuIds, Pins root instanceCpuIds cpusets) ∧
    ∀ root instanceCpuIds, Pins root instanceCpuIds cpusets →
      ((∃ joined,
          getHostPcpusForGuestVcpu int root instanceCpuIds = .ok joined) ↔
        ∀ cpuset ∈ cpusets, ∃ cpus, parseCpuSpec int cpuset = .ok cpus) ∧
      ((∃ united, getPinningAsSet int root = .ok united) ↔
        ∀ cpuset ∈ cpusets, ∃ cpus, parseCpuSpec int cpuset = .ok cpus) ∧
      ∀ joined united,
        getHostPcpusForGuestVcpu int root instanceCpuIds = .ok joined →
        getPinningAsSet int root = .ok united →
          joined ⊆ united ∧
          (joined = united ↔
            ∀ cpuset ∈ cpusets, ∀ cpus,
              parseCpuSpec int cpuset = .ok cpus →
                ∀ x ∈ cpus, ∀ other ∈ cpusets, ¬ Covers int true other x) ∧
          ((∀ cpuset ∈ cpusets, '^' ∉ cpuset) → joined = united) := by
  refine ⟨exists_pins cpusets, ?_⟩
  intro root instanceCpuIds pins
  refine ⟨?_, pins.getPinningAsSet_isOk_iff, ?_⟩
  · rw [pins.getHostPcpus_eq, parseCpuSpec_isOk_iff, grammatical_join]
    simp only [parseCpuSpec_isOk_iff]
  intro joined united joins unites
  have parses := pins.getPinningAsSet_isOk_iff.mp ⟨united, unites⟩
  rw [pins.getHostPcpus_eq] at joins
  have agree : joined = united ↔
      ∀ cpuset ∈ cpusets, ∀ cpus, parseCpuSpec int cpuset = .ok cpus →
        ∀ x ∈ cpus, ∀ other ∈ cpusets, ¬ Covers int true other x := by
    rw [← Finset.coe_inj, parseCpuSpec_join_eq_pooled joins,
      pins.getPinningAsSet_eq_separately unites, pooled_eq_separately_iff]
    constructor
    · intro apart cpuset member cpus parsed x inside
      exact apart cpuset member x ((mem_parseCpuSpec parsed).mp inside)
    · intro apart cpuset member x selected
      obtain ⟨cpus, parsed⟩ := parses cpuset member
      exact apart cpuset member cpus parsed x
        ((mem_parseCpuSpec parsed).mpr selected)
  refine ⟨?_, agree, ?_⟩
  · rw [← Finset.coe_subset, parseCpuSpec_join_eq_pooled joins,
      pins.getPinningAsSet_eq_separately unites]
    exact pooled_subset_separately
  · intro noCaret
    apply agree.mpr
    intro _ _ _ _ x _ other member
    exact not_covers_of_no_caret (noCaret other member) x

end Whitebox.Compute
