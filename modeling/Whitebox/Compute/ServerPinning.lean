import Whitebox.Collection.Association
import Whitebox.Compute.NumaHelper

/-!
# The CPU pinning of a server

`get_server_cpu_pinning` reads the `vcpupin` elements of a domain into a `dict`
from virtual to physical CPUs.  The tests that a server is pinned after a
reboot or a resize ask whether the values of this `dict` are a subset of the
dedicated CPUs of the host, which the values of the empty `dict` are.
-/

namespace Whitebox.Compute

open Whitebox.Python
open Whitebox.Hardware
open Whitebox.Association
open Whitebox.Effect.Fallible

/-- A `dict` from virtual to physical CPUs. -/
abbrev Pinnings := List (Int × Int)

/-- The message of an assertion about the pinning of a server. -/
inductive PinningMessage where
  | text (message : Str)
  /-- `"After resize instance %s pinning %s should be a subset of pinning
  range %s"`. -/
  | notSubset (serverId : Str) (cpuPinnings : Pinnings)
      (dedicatedVcpus : Finset Int)
deriving DecidableEq

inductive PinningExn where
  | raised (error : SpecError)
  | keyError (key : Int)
  | failureException (message : PinningMessage)
deriving DecidableEq

def assertTrue (expression : Bool) (message : PinningMessage) :
    Except PinningExn Unit :=
  if expression then .ok () else .error (.failureException message)

def assertFalse (expression : Bool) (message : PinningMessage) :
    Except PinningExn Unit :=
  assertTrue (!expression) message

/-- `int(pin.get(name))`, where a missing attribute is `None`. -/
def intAttribute : Option Str → Except SpecError Int
  | none => .error .typeError
  | some text => toInt int text

/-- The entry of one `vcpupin` element. -/
def addPin (cpuPins : Pinnings) (pin : PinElement) :
    Except SpecError Pinnings := do
  let vcpu ← intAttribute pin.vcpu
  let cpuset ← intAttribute pin.cpuset
  pure (assign vcpu cpuset cpuPins)

def getServerCpuPinning (root : ServerXml) : Except SpecError Pinnings :=
  root.vcpupins.foldlM addPin []

/-- `set(cpu_pinnings.values())`. -/
def pinnedCpus (cpuPinnings : Pinnings) : Finset Int :=
  (cpuPinnings.map Prod.snd).toFinset

/-- The assertion that a server is pinned to dedicated CPUs. -/
def assertPinned (message : Pinnings → PinningMessage) (root : ServerXml)
    (dedicatedVcpus : Finset Int) : Except PinningExn Unit := do
  let cpuPinnings ← (getServerCpuPinning root).mapError .raised
  assertTrue (decide (pinnedCpus cpuPinnings ⊆ dedicatedVcpus))
    (message cpuPinnings)

/-- The assertion after the reboot in `test_reboot_pinned_server`. -/
def assertPinnedAfterReboot (root : ServerXml) (dedicatedVcpus : Finset Int) :
    Except PinningExn Unit :=
  assertPinned
    (fun _ => .text
      "Rebooted instance has lost its pinning information".toList)
    root dedicatedVcpus

/-- The assertion after the resize in
`test_resize_unpinned_server_to_pinned`. -/
def assertPinnedAfterResize (serverId : Str) (root : ServerXml)
    (dedicatedVcpus : Finset Int) : Except PinningExn Unit :=
  assertPinned (fun cpuPinnings => .notSubset serverId cpuPinnings dedicatedVcpus)
    root dedicatedVcpus

/-- An element pins the virtual to the physical CPU. -/
def PinElement.Pins (pin : PinElement) (vcpu pcpu : Int) : Prop :=
  pin.vcpu.bind int = some vcpu ∧ pin.cpuset.bind int = some pcpu

/-- The last element about a virtual CPU pins it to the physical one. -/
def PinnedBy (vcpupins : List PinElement) (vcpu pcpu : Int) : Prop :=
  ∃ before pin after, vcpupins = before ++ pin :: after ∧
    pin.Pins vcpu pcpu ∧ ∀ later ∈ after, ∀ other, ¬ later.Pins vcpu other

/-- Some virtual CPU is pinned, and all are pinned to dedicated CPUs only. -/
structure PinningInEffect (root : ServerXml) (dedicatedVcpus : Finset Int) :
    Prop where
  pinned : ∃ vcpu pcpu, PinnedBy root.vcpupins vcpu pcpu
  dedicated : ∀ vcpu pcpu, PinnedBy root.vcpupins vcpu pcpu →
    pcpu ∈ dedicatedVcpus

section Reading

theorem intAttribute_eq_ok_iff {present : Option Str} {number : Int} :
    intAttribute present = .ok number ↔ present.bind int = some number := by
  cases present with
  | none => simp [intAttribute]
  | some text =>
      cases read : int text with
      | none => simp [intAttribute, toInt, read]
      | some value => simp [intAttribute, toInt, read]

theorem addPin_eq_ok_iff {cpuPins next : Pinnings} {pin : PinElement} :
    addPin cpuPins pin = .ok next ↔
      ∃ vcpu pcpu, pin.Pins vcpu pcpu ∧ next = assign vcpu pcpu cpuPins := by
  rw [addPin, bind_eq_ok_iff]
  constructor
  · rintro ⟨vcpu, readVcpu, rest⟩
    obtain ⟨pcpu, readCpuset, added⟩ := bind_eq_ok_iff.mp rest
    cases added
    exact ⟨vcpu, pcpu, ⟨intAttribute_eq_ok_iff.mp readVcpu,
      intAttribute_eq_ok_iff.mp readCpuset⟩, rfl⟩
  · rintro ⟨vcpu, pcpu, ⟨readVcpu, readCpuset⟩, rfl⟩
    refine ⟨vcpu, intAttribute_eq_ok_iff.mpr readVcpu, ?_⟩
    exact bind_eq_ok_iff.mpr
      ⟨pcpu, intAttribute_eq_ok_iff.mpr readCpuset, rfl⟩

theorem PinElement.Pins.unique {pin : PinElement} {vcpu pcpu other value : Int}
    (pins : pin.Pins vcpu pcpu) (again : pin.Pins other value) :
    vcpu = other ∧ pcpu = value :=
  ⟨Option.some.inj (pins.1.symm.trans again.1),
    Option.some.inj (pins.2.symm.trans again.2)⟩

theorem not_pinnedBy_nil (vcpu pcpu : Int) : ¬ PinnedBy [] vcpu pcpu := by
  rintro ⟨before, pin, after, shape, _⟩
  simp at shape

/-- One more element pins its own virtual CPU and leaves the others. -/
theorem pinnedBy_append_iff {vcpupins : List PinElement} {pin : PinElement}
    {vcpu pcpu : Int} (pins : pin.Pins vcpu pcpu) (key value : Int) :
    PinnedBy (vcpupins ++ [pin]) key value ↔
      (key = vcpu ∧ value = pcpu) ∨
        (key ≠ vcpu ∧ PinnedBy vcpupins key value) := by
  constructor
  · rintro ⟨before, found, after, shape, foundPins, last⟩
    rcases List.eq_nil_or_concat after with rfl | ⟨middle, final, rfl⟩
    · obtain ⟨_, rfl⟩ := List.append_singleton_inj.mp shape
      exact .inl (foundPins.unique pins)
    · rw [List.concat_eq_append] at shape last
      rw [← List.cons_append, ← List.append_assoc] at shape
      obtain ⟨rfl, rfl⟩ := List.append_singleton_inj.mp shape
      right
      refine ⟨?_, before, found, middle, rfl, foundPins, ?_⟩
      · rintro rfl
        exact last pin (by simp) pcpu pins
      · intro later member
        exact last later (by simp [member])
  · rintro (⟨rfl, rfl⟩ | ⟨different, before, found, after, rfl, foundPins,
      last⟩)
    · exact ⟨vcpupins, pin, [], rfl, pins, by simp⟩
    · refine ⟨before, found, after ++ [pin], by simp, foundPins, ?_⟩
      intro later member other laterPins
      rcases List.mem_append.mp member with inAfter | isLast
      · exact last later inAfter other laterPins
      · rw [List.mem_singleton.mp isLast] at laterPins
        exact different (laterPins.unique pins).1

/-- The `dict` has the pins that the elements define. -/
theorem lookup_foldlM_addPin {vcpupins : List PinElement} {cpuPins : Pinnings}
    (returned : vcpupins.foldlM addPin [] = .ok cpuPins) (key value : Int) :
    cpuPins.lookup key = some value ↔ PinnedBy vcpupins key value := by
  induction vcpupins using List.reverseRecOn generalizing cpuPins with
  | nil =>
      cases returned
      exact iff_of_false (by simp) (not_pinnedBy_nil key value)
  | append_singleton vcpupins pin induction =>
      obtain ⟨reached, before, added⟩ :=
        foldlM_append_eq_ok_iff.mp returned
      obtain ⟨next, added, done⟩ := foldlM_cons_eq_ok_iff.mp added
      cases done
      obtain ⟨vcpu, pcpu, pins, rfl⟩ := addPin_eq_ok_iff.mp added
      rw [pinnedBy_append_iff pins, ← induction before]
      by_cases same : key = vcpu
      · subst same
        simp [lookup_assign_self, eq_comm]
      · simp [lookup_assign_of_ne same, same]

theorem foldlM_addPin_nodup {vcpupins : List PinElement} {cpuPins : Pinnings}
    (returned : vcpupins.foldlM addPin [] = .ok cpuPins) :
    (cpuPins.map Prod.fst).Nodup := by
  refine @foldlM_keeps _ _ _ _ _ _
    (fun cpuPins => (cpuPins.map Prod.fst).Nodup) _ ?_ List.nodup_nil returned
  intro cpuPins pin next _ distinct added
  obtain ⟨vcpu, pcpu, _, rfl⟩ := addPin_eq_ok_iff.mp added
  exact nodup_keys_assign distinct

end Reading

section InEffect

variable {root : ServerXml} {cpuPinnings : Pinnings}
  {dedicatedVcpus : Finset Int}

theorem subset_of_pinned_iff
    (returned : getServerCpuPinning root = .ok cpuPinnings) :
    pinnedCpus cpuPinnings ⊆ dedicatedVcpus ↔
      ∀ vcpu pcpu, PinnedBy root.vcpupins vcpu pcpu →
        pcpu ∈ dedicatedVcpus := by
  have distinct := foldlM_addPin_nodup returned
  have pinned : ∀ vcpu pcpu, PinnedBy root.vcpupins vcpu pcpu ↔
      (vcpu, pcpu) ∈ cpuPinnings := fun vcpu pcpu => by
    rw [← lookup_foldlM_addPin returned, lookup_eq_some_iff distinct]
  simp only [pinned, Finset.subset_iff, pinnedCpus, List.mem_toFinset,
    List.mem_map]
  constructor
  · intro subset vcpu pcpu member
    exact subset ⟨(vcpu, pcpu), member, rfl⟩
  · rintro subset _ ⟨⟨vcpu, pcpu⟩, member, rfl⟩
    exact subset vcpu pcpu member

theorem exists_pinnedBy (returned : getServerCpuPinning root = .ok cpuPinnings)
    (nonempty : root.vcpupins ≠ []) :
    ∃ vcpu pcpu, PinnedBy root.vcpupins vcpu pcpu := by
  rw [getServerCpuPinning] at returned
  obtain ⟨before, pin, shape⟩ :=
    (List.eq_nil_or_concat root.vcpupins).resolve_left nonempty
  rw [shape, List.concat_eq_append] at returned ⊢
  obtain ⟨reached, _, added⟩ := foldlM_append_eq_ok_iff.mp returned
  obtain ⟨next, added, _⟩ := foldlM_cons_eq_ok_iff.mp added
  obtain ⟨vcpu, pcpu, pins, _⟩ := addPin_eq_ok_iff.mp added
  exact ⟨vcpu, pcpu, before, pin, [], rfl, pins, by simp⟩

theorem assertPinned_eq_ok_iff {message : Pinnings → PinningMessage} :
    assertPinned message root dedicatedVcpus = .ok () ↔
      ∃ cpuPinnings, getServerCpuPinning root = .ok cpuPinnings ∧
        pinnedCpus cpuPinnings ⊆ dedicatedVcpus := by
  unfold assertPinned assertTrue
  cases returned : getServerCpuPinning root with
  | error error => simp [Except.mapError, bind, Except.bind]
  | ok cpuPinnings => simp [Except.mapError, bind, Except.bind]

/-- Whatever its message, the assertion tells a pinned server from an unpinned
one exactly if there is an element to look at. -/
theorem assertPinned_rejects_iff (message : Pinnings → PinningMessage)
    (root : ServerXml) (dedicatedVcpus : Finset Int) :
    (assertPinned message root dedicatedVcpus = .ok () →
        PinningInEffect root dedicatedVcpus) ↔
      root.vcpupins ≠ [] := by
  rw [assertPinned_eq_ok_iff]
  constructor
  · intro rejects empty
    have returned : getServerCpuPinning root = .ok [] := by
      rw [getServerCpuPinning, empty]
      rfl
    have inEffect := rejects ⟨[], returned, by simp [pinnedCpus]⟩
    obtain ⟨vcpu, pcpu, pinned⟩ := inEffect.pinned
    rw [empty] at pinned
    exact not_pinnedBy_nil vcpu pcpu pinned
  · rintro nonempty ⟨cpuPinnings, returned, subset⟩
    exact ⟨exists_pinnedBy returned nonempty,
      (subset_of_pinned_iff returned).mp subset⟩

end InEffect

/-- The assertions after a reboot and after a resize reject an unpinned server
exactly if its domain has a `vcpupin` element. -/
theorem assertPinned_after_reboot_and_resize_iff (root : ServerXml)
    (dedicatedVcpus : Finset Int) (serverId : Str) :
    ((assertPinnedAfterReboot root dedicatedVcpus = .ok () →
        PinningInEffect root dedicatedVcpus) ↔ root.vcpupins ≠ []) ∧
      ((assertPinnedAfterResize serverId root dedicatedVcpus = .ok () →
        PinningInEffect root dedicatedVcpus) ↔ root.vcpupins ≠ []) :=
  ⟨assertPinned_rejects_iff _ root dedicatedVcpus,
    assertPinned_rejects_iff _ root dedicatedVcpus⟩

/-- A domain that lost all its pins passes both assertions. -/
theorem assertPinned_of_lost_pins :
    let root : ServerXml := ⟨[], []⟩
    assertPinnedAfterReboot root {2, 3} = .ok () ∧
      assertPinnedAfterResize "server".toList root {2, 3} = .ok () ∧
      ¬ PinningInEffect root {2, 3} := by
  refine ⟨by decide, by decide, ?_⟩
  intro inEffect
  obtain ⟨vcpu, pcpu, pinned⟩ := inEffect.pinned
  exact not_pinnedBy_nil vcpu pcpu pinned

end Whitebox.Compute
