import Mathlib.Data.List.Pairwise
import Whitebox.Compute.Siblings

/-!
# Thread policies

The thread policy tests visit the virtual CPUs of a server in the order of a
`set` and take the physical CPU of each out of its own list of siblings before
they look for pinned CPUs in the rest.  A second visit to the same physical CPU
does not find it any more and raises, so the loops also tell whether the
pinning is injective, and the order of the visits does not matter.
-/

namespace Whitebox.Compute

open Whitebox.Python
open Whitebox.Hardware
open Whitebox.Association
open Whitebox.Effect.Fallible

/-- `entries[key]`. -/
def subscript (entries : List (Int × β)) (key : Int) : Except PinningExn β :=
  match entries.lookup key with
  | some value => .ok value
  | none => .error (.keyError key)

/-- `sib.remove(pcpu)`. -/
def remove (sib : List Int) (pcpu : Int) : Except PinningExn (List Int) :=
  if pcpu ∈ sib then .ok (sib.erase pcpu) else .error (.raised .valueError)

/-- `set(sib).isdisjoint(cpu_pinnings.values())`. -/
def isdisjoint (sib : List Int) (cpuPinnings : Pinnings) : Bool :=
  sib.all fun cpu => decide (cpu ∉ pinnedCpus cpuPinnings)

/-- One turn of the loops over the virtual CPUs, which differ in what they
assert of the disjointness. -/
def visit (assertion : Bool → Except PinningExn Unit) (cpuPinnings : Pinnings)
    (pcpuSiblings : SiblingMap) (vcpu : Int) :
    Except PinningExn SiblingMap := do
  let pcpu ← subscript cpuPinnings vcpu
  let sib ← subscript pcpuSiblings pcpu
  let sib ← remove sib pcpu
  assertion (isdisjoint sib cpuPinnings)
  -- the list that was changed is the one in the `dict`
  pure (assign pcpu sib pcpuSiblings)

def visitAll (assertion : Bool → Except PinningExn Unit)
    (cpuPinnings : Pinnings) (pcpuSiblings : SiblingMap) (vcpus : List Int) :
    Except PinningExn SiblingMap :=
  vcpus.foldlM (visit assertion cpuPinnings) pcpuSiblings

def assertIsolated (disjoint : Bool) : Except PinningExn Unit :=
  assertTrue disjoint
    (.text "vCPUs siblings should not have been used".toList)

def assertPreferred (disjoint : Bool) : Except PinningExn Unit :=
  assertFalse disjoint
    (.text ("vCPUs siblings were required by not used. Does this host " ++
      "have HyperThreading enabled?").toList)

def assertRequired (disjoint : Bool) : Except PinningExn Unit :=
  assertFalse disjoint
    (.text ("vCPUs siblings were required and were not used. Does this " ++
      "host have HyperThreading enabled?").toList)

/-- The loop of `test_threads_isolate`. -/
def threadsIsolate : Pinnings → SiblingMap → List Int →
    Except PinningExn SiblingMap :=
  visitAll assertIsolated

/-- The loop of `test_threads_prefer`. -/
def threadsPrefer : Pinnings → SiblingMap → List Int →
    Except PinningExn SiblingMap :=
  visitAll assertPreferred

/-- The loop of `test_threads_require`. -/
def threadsRequire : Pinnings → SiblingMap → List Int →
    Except PinningExn SiblingMap :=
  visitAll assertRequired

/-- A loop ends without an exception. -/
def Completes (outcome : Except PinningExn SiblingMap) : Prop :=
  ∃ left, outcome = .ok left

/-- A virtual CPU is pinned to the physical one. -/
def Pinned (cpuPinnings : Pinnings) (pcpu : Int) : Prop :=
  ∃ vcpu, cpuPinnings.lookup vcpu = some pcpu

def Injective (cpuPinnings : Pinnings) : Prop :=
  ∀ vcpu other pcpu, cpuPinnings.lookup vcpu = some pcpu →
    cpuPinnings.lookup other = some pcpu → vcpu = other

/-- The second CPU is listed as a sibling of the first. -/
def Sibling (pcpuSiblings : SiblingMap) (pcpu other : Int) : Prop :=
  ∃ sib, pcpuSiblings.lookup pcpu = some sib ∧ other ∈ sib

/-- The first CPU has another, pinned CPU among its siblings. -/
def Shares (cpuPinnings : Pinnings) (pcpuSiblings : SiblingMap)
    (pcpu : Int) : Prop :=
  ∃ other, other ≠ pcpu ∧ Pinned cpuPinnings other ∧
    Sibling pcpuSiblings pcpu other

/-- A pinning and the siblings of the host: virtual CPUs are pinned once, and
every pinned CPU stands exactly once in its own list. -/
structure Placement where
  cpuPinnings : Pinnings
  pcpuSiblings : SiblingMap
  distinct : (cpuPinnings.map Prod.fst).Nodup
  listed : ∀ pcpu, Pinned cpuPinnings pcpu →
    ∃ sib, pcpuSiblings.lookup pcpu = some sib ∧ sib.count pcpu = 1

/-- The pinning of a server and the siblings of its host as the tests read
them, if the host lists the CPUs that the server is pinned to. -/
def Placement.read {root : ServerXml} {cpuCells : List (List CpuElement)}
    {cpuPinnings : Pinnings} {pcpuSiblings : SiblingMap}
    (pinningRead : getServerCpuPinning root = .ok cpuPinnings)
    (siblingsRead : getHostCpuSiblings cpuCells = .ok pcpuSiblings)
    (selfListing : ∀ cell ∈ cpuCells, ∀ cpu ∈ cell, cpu.SelfListing)
    (known : ∀ entry ∈ cpuPinnings, (pcpuSiblings.lookup entry.2).isSome) :
    Placement where
  cpuPinnings := cpuPinnings
  pcpuSiblings := pcpuSiblings
  distinct := foldlM_addPin_nodup pinningRead
  listed := by
    intro pcpu pinned
    obtain ⟨vcpu, found⟩ := pinned
    have distinct := foldlM_addPin_nodup pinningRead
    have member := (lookup_eq_some_iff distinct).mp found
    obtain ⟨sib, lookup⟩ := Option.isSome_iff_exists.mp (known _ member)
    have once := getHostCpuSiblings_selfOnce selfListing siblingsRead
    exact ⟨sib, lookup, once pcpu sib lookup⟩

section Visit

variable {assertion : Bool → Except PinningExn Unit} {cpuPinnings : Pinnings}
  {pcpuSiblings next : SiblingMap} {vcpu : Int}

theorem subscript_eq_ok_iff {entries : List (Int × β)} {key : Int} {value : β} :
    subscript entries key = .ok value ↔ entries.lookup key = some value := by
  cases found : entries.lookup key with
  | none => simp [subscript, found]
  | some present => simp [subscript, found]

theorem remove_eq_ok_iff {sib rest : List Int} {pcpu : Int} :
    remove sib pcpu = .ok rest ↔ pcpu ∈ sib ∧ rest = sib.erase pcpu := by
  by_cases member : pcpu ∈ sib
  · simp [remove, member, eq_comm]
  · simp [remove, member]

/-- A visit finds what it needs. -/
def Accepts (assertion : Bool → Except PinningExn Unit)
    (cpuPinnings : Pinnings) (pcpuSiblings : SiblingMap) (vcpu : Int) : Prop :=
  ∃ pcpu sib, cpuPinnings.lookup vcpu = some pcpu ∧
    pcpuSiblings.lookup pcpu = some sib ∧ pcpu ∈ sib ∧
    assertion (isdisjoint (sib.erase pcpu) cpuPinnings) = .ok ()

theorem visit_eq_ok_iff :
    visit assertion cpuPinnings pcpuSiblings vcpu = .ok next ↔
      ∃ pcpu sib, cpuPinnings.lookup vcpu = some pcpu ∧
        pcpuSiblings.lookup pcpu = some sib ∧ pcpu ∈ sib ∧
        assertion (isdisjoint (sib.erase pcpu) cpuPinnings) = .ok () ∧
        next = assign pcpu (sib.erase pcpu) pcpuSiblings := by
  unfold visit
  constructor
  · intro visited
    obtain ⟨pcpu, pinned, rest⟩ := bind_eq_ok_iff.mp visited
    obtain ⟨sib, listed, rest⟩ := bind_eq_ok_iff.mp rest
    obtain ⟨left, removed, rest⟩ := bind_eq_ok_iff.mp rest
    obtain ⟨_, asserted, returned⟩ := bind_eq_ok_iff.mp rest
    obtain ⟨member, rfl⟩ := remove_eq_ok_iff.mp removed
    cases returned
    exact ⟨pcpu, sib, subscript_eq_ok_iff.mp pinned,
      subscript_eq_ok_iff.mp listed, member, asserted, rfl⟩
  · intro found
    obtain ⟨pcpu, sib, pinned, listed, member, asserted, rfl⟩ := found
    apply bind_eq_ok_iff.mpr
    refine ⟨pcpu, subscript_eq_ok_iff.mpr pinned, ?_⟩
    apply bind_eq_ok_iff.mpr
    refine ⟨sib, subscript_eq_ok_iff.mpr listed, ?_⟩
    apply bind_eq_ok_iff.mpr
    refine ⟨sib.erase pcpu, remove_eq_ok_iff.mpr ⟨member, rfl⟩, ?_⟩
    apply bind_eq_ok_iff.mpr
    exact ⟨(), asserted, rfl⟩

/-- No pinned CPU is listed twice as its own sibling. -/
def AtMostOnce (cpuPinnings : Pinnings) (pcpuSiblings : SiblingMap) : Prop :=
  ∀ pcpu sib, Pinned cpuPinnings pcpu →
    pcpuSiblings.lookup pcpu = some sib → sib.count pcpu ≤ 1

theorem notMem_erase_of_count {sib : List Int} {pcpu : Int}
    (once : sib.count pcpu ≤ 1) : pcpu ∉ sib.erase pcpu := by
  intro member
  have positive := List.count_pos_iff.mpr member
  rw [List.count_erase_self] at positive
  omega

theorem mem_erase_iff_of_count {sib : List Int} {pcpu other : Int}
    (once : sib.count pcpu ≤ 1) :
    other ∈ sib.erase pcpu ↔ other ≠ pcpu ∧ other ∈ sib := by
  by_cases same : other = pcpu
  · subst same
    exact iff_of_false (notMem_erase_of_count once) fun both => both.1 rfl
  · rw [List.mem_erase_of_ne same]
    exact (and_iff_right same).symm

theorem atMostOnce_assign {pcpu : Int} {sib : List Int}
    (once : AtMostOnce cpuPinnings pcpuSiblings)
    (pinned : cpuPinnings.lookup vcpu = some pcpu)
    (listed : pcpuSiblings.lookup pcpu = some sib) :
    AtMostOnce cpuPinnings (assign pcpu (sib.erase pcpu) pcpuSiblings) := by
  intro other found otherPinned lookup
  by_cases same : other = pcpu
  · subst same
    rw [lookup_assign_self] at lookup
    cases lookup
    have before := once other sib ⟨vcpu, pinned⟩ listed
    rw [List.count_erase_self]
    omega
  · rw [lookup_assign_of_ne same] at lookup
    exact once other found otherPinned lookup

/-- After a visit exactly the virtual CPUs on other physical CPUs are still
accepted. -/
theorem accepts_assign_iff {pcpu other : Int} {sib : List Int}
    (once : AtMostOnce cpuPinnings pcpuSiblings)
    (pinned : cpuPinnings.lookup vcpu = some pcpu)
    (listed : pcpuSiblings.lookup pcpu = some sib) :
    Accepts assertion cpuPinnings
        (assign pcpu (sib.erase pcpu) pcpuSiblings) other ↔
      cpuPinnings.lookup vcpu ≠ cpuPinnings.lookup other ∧
        Accepts assertion cpuPinnings pcpuSiblings other := by
  constructor
  · intro accepts
    obtain ⟨otherPcpu, found, otherPinned, lookup, member, asserted⟩ := accepts
    by_cases same : otherPcpu = pcpu
    · subst same
      rw [lookup_assign_self] at lookup
      cases lookup
      have absent := notMem_erase_of_count
        (once otherPcpu sib ⟨vcpu, pinned⟩ listed)
      exact absurd member absent
    · rw [lookup_assign_of_ne same] at lookup
      refine ⟨?_, otherPcpu, found, otherPinned, lookup, member, asserted⟩
      rw [pinned, otherPinned]
      intro equal
      exact same (Option.some.inj equal).symm
  · intro both
    obtain ⟨different, otherPcpu, found, otherPinned, lookup, member,
      asserted⟩ := both
    refine ⟨otherPcpu, found, otherPinned, ?_, member, asserted⟩
    rw [lookup_assign_of_ne]
    · exact lookup
    · intro same
      rw [pinned, otherPinned, same] at different
      exact different rfl

/-- The loop completes exactly if each virtual CPU would pass a first visit
and no two of them are on the same physical CPU. -/
theorem visitAll_completes_iff {vcpus : List Int}
    (once : AtMostOnce cpuPinnings pcpuSiblings) :
    Completes (visitAll assertion cpuPinnings pcpuSiblings vcpus) ↔
      (∀ vcpu ∈ vcpus, Accepts assertion cpuPinnings pcpuSiblings vcpu) ∧
        vcpus.Pairwise fun vcpu other =>
          cpuPinnings.lookup vcpu ≠ cpuPinnings.lookup other := by
  unfold visitAll Completes
  induction vcpus generalizing pcpuSiblings with
  | nil =>
      refine iff_of_true ⟨pcpuSiblings, rfl⟩ ?_
      simp
  | cons vcpu vcpus induction =>
      rw [List.forall_mem_cons, List.pairwise_cons]
      constructor
      · intro completes
        obtain ⟨left, returned⟩ := completes
        obtain ⟨next, visited, later⟩ := foldlM_cons_eq_ok_iff.mp returned
        obtain ⟨pcpu, sib, pinned, listed, member, asserted, rfl⟩ :=
          visit_eq_ok_iff.mp visited
        obtain ⟨accepts, apart⟩ :=
          (induction (atMostOnce_assign once pinned listed)).mp ⟨left, later⟩
        simp only [accepts_assign_iff once pinned listed] at accepts
        exact ⟨⟨⟨pcpu, sib, pinned, listed, member, asserted⟩,
            fun other inVcpus => (accepts other inVcpus).2⟩,
          fun other inVcpus => (accepts other inVcpus).1, apart⟩
      · intro conditions
        obtain ⟨⟨accepts, others⟩, different, apart⟩ := conditions
        obtain ⟨pcpu, sib, pinned, listed, member, asserted⟩ := accepts
        obtain ⟨left, later⟩ :=
          (induction (atMostOnce_assign once pinned listed)).mpr
            ⟨fun other inVcpus => (accepts_assign_iff once pinned listed).mpr
              ⟨different other inVcpus, others other inVcpus⟩, apart⟩
        refine ⟨left, foldlM_cons_eq_ok_iff.mpr ⟨_, ?_, later⟩⟩
        exact visit_eq_ok_iff.mpr
          ⟨pcpu, sib, pinned, listed, member, asserted, rfl⟩

end Visit

namespace Placement

variable (placement : Placement)

theorem atMostOnce :
    AtMostOnce placement.cpuPinnings placement.pcpuSiblings := by
  intro pcpu sib pinned lookup
  obtain ⟨found, listed, once⟩ := placement.listed pcpu pinned
  rw [lookup] at listed
  cases listed
  exact once.le

theorem mem_pinnedCpus_iff {pcpu : Int} :
    pcpu ∈ pinnedCpus placement.cpuPinnings ↔
      Pinned placement.cpuPinnings pcpu := by
  unfold pinnedCpus Pinned
  simp only [List.mem_toFinset, List.mem_map,
    lookup_eq_some_iff placement.distinct]
  constructor
  · intro found
    obtain ⟨⟨vcpu, value⟩, member, rfl⟩ := found
    exact ⟨vcpu, member⟩
  · intro found
    obtain ⟨vcpu, member⟩ := found
    exact ⟨(vcpu, pcpu), member, rfl⟩

/-- The rest of a list of siblings is disjoint from the pinned CPUs unless the
CPU shares its core with another pinned one. -/
theorem isdisjoint_erase_iff {pcpu : Int} {sib : List Int}
    (lookup : placement.pcpuSiblings.lookup pcpu = some sib)
    (once : sib.count pcpu ≤ 1) :
    isdisjoint (sib.erase pcpu) placement.cpuPinnings = true ↔
      ¬ Shares placement.cpuPinnings placement.pcpuSiblings pcpu := by
  simp only [isdisjoint, List.all_eq_true, decide_eq_true_eq,
    mem_erase_iff_of_count once, placement.mem_pinnedCpus_iff]
  constructor
  · intro disjoint shares
    obtain ⟨other, different, pinned, found, listed, member⟩ := shares
    rw [lookup] at listed
    cases listed
    exact disjoint other ⟨different, member⟩ pinned
  · intro alone other both pinned
    exact alone ⟨other, both.1, pinned, sib, lookup, both.2⟩

variable {assertion : Bool → Except PinningExn Unit} {expected : Bool}

theorem accepts_iff
    (asserts : ∀ disjoint, assertion disjoint = .ok () ↔ disjoint = expected)
    {vcpu pcpu : Int}
    (pinned : placement.cpuPinnings.lookup vcpu = some pcpu) :
    Accepts assertion placement.cpuPinnings placement.pcpuSiblings vcpu ↔
      (Shares placement.cpuPinnings placement.pcpuSiblings pcpu ↔
        expected = false) := by
  obtain ⟨sib, lookup, once⟩ := placement.listed pcpu ⟨vcpu, pinned⟩
  have member : pcpu ∈ sib := List.count_pos_iff.mp (by omega)
  have verdict : assertion (isdisjoint (sib.erase pcpu) placement.cpuPinnings) =
      .ok () ↔ (Shares placement.cpuPinnings placement.pcpuSiblings pcpu ↔
        expected = false) := by
    have shared := placement.isdisjoint_erase_iff lookup once.le
    rw [asserts, ← not_iff_not (a := Shares _ _ _), ← shared]
    cases expected <;> simp
  rw [← verdict]
  constructor
  · intro accepts
    obtain ⟨found, list, foundPinned, listed, _, asserted⟩ := accepts
    rw [pinned] at foundPinned
    cases foundPinned
    rw [lookup] at listed
    cases listed
    exact asserted
  · intro asserted
    exact ⟨pcpu, sib, pinned, lookup, member, asserted⟩

/-- Over the virtual CPUs in any order, different lookups mean that the pinning
is injective. -/
theorem pairwise_lookup_iff {vcpus : List Int}
    (order : vcpus.Perm (placement.cpuPinnings.map Prod.fst)) :
    (vcpus.Pairwise fun vcpu other =>
        placement.cpuPinnings.lookup vcpu ≠
          placement.cpuPinnings.lookup other) ↔
      Injective placement.cpuPinnings := by
  have visited : ∀ {vcpu pcpu}, placement.cpuPinnings.lookup vcpu = some pcpu →
      vcpu ∈ vcpus := by
    intro vcpu pcpu pinned
    apply order.mem_iff.mpr
    have member := (lookup_eq_some_iff placement.distinct).mp pinned
    exact List.mem_map_of_mem member
  constructor
  · intro apart vcpu other pcpu pinned otherPinned
    by_contra different
    have symmetric : Std.Symm fun vcpu other =>
        placement.cpuPinnings.lookup vcpu ≠
          placement.cpuPinnings.lookup other := ⟨fun _ _ unequal => unequal.symm⟩
    have unequal := apart.forall (visited pinned) (visited otherPinned) different
    rw [pinned, otherPinned] at unequal
    exact unequal rfl
  · intro injective
    apply (order.nodup_iff.mpr placement.distinct).pairwise_of_forall_ne
    intro vcpu member other _ different same
    obtain ⟨entry, inPinnings, rfl⟩ :=
      List.mem_map.mp (order.mem_iff.mp member)
    have pinned := (lookup_eq_some_iff placement.distinct).mpr inPinnings
    exact different (injective _ _ entry.2 pinned (same ▸ pinned))

theorem forall_accepts_iff
    (asserts : ∀ disjoint, assertion disjoint = .ok () ↔ disjoint = expected)
    {vcpus : List Int}
    (order : vcpus.Perm (placement.cpuPinnings.map Prod.fst)) :
    (∀ vcpu ∈ vcpus, Accepts assertion placement.cpuPinnings
        placement.pcpuSiblings vcpu) ↔
      ∀ pcpu, Pinned placement.cpuPinnings pcpu →
        (Shares placement.cpuPinnings placement.pcpuSiblings pcpu ↔
          expected = false) := by
  constructor
  · intro accepts pcpu isPinned
    obtain ⟨vcpu, pinned⟩ := isPinned
    have member := (lookup_eq_some_iff placement.distinct).mp pinned
    apply (placement.accepts_iff asserts pinned).mp
    exact accepts vcpu (order.mem_iff.mpr (List.mem_map_of_mem member))
  · intro shares vcpu visited
    obtain ⟨entry, inPinnings, rfl⟩ :=
      List.mem_map.mp (order.mem_iff.mp visited)
    have pinned := (lookup_eq_some_iff placement.distinct).mpr inPinnings
    apply (placement.accepts_iff asserts pinned).mpr
    exact shares entry.2 ⟨entry.1, pinned⟩

/-- A loop completes exactly if the pinning is injective and what it expects
is true of every pinned CPU. -/
theorem visitAll_placement_iff
    (asserts : ∀ disjoint, assertion disjoint = .ok () ↔ disjoint = expected)
    {vcpus : List Int}
    (order : vcpus.Perm (placement.cpuPinnings.map Prod.fst)) :
    Completes (visitAll assertion placement.cpuPinnings
        placement.pcpuSiblings vcpus) ↔
      Injective placement.cpuPinnings ∧
        ∀ pcpu, Pinned placement.cpuPinnings pcpu →
          (Shares placement.cpuPinnings placement.pcpuSiblings pcpu ↔
            expected = false) := by
  rw [visitAll_completes_iff placement.atMostOnce,
    placement.forall_accepts_iff asserts order,
    placement.pairwise_lookup_iff order, and_comm]

theorem completes_assertTrue_iff (message : PinningMessage) {vcpus : List Int}
    (order : vcpus.Perm (placement.cpuPinnings.map Prod.fst)) :
    Completes (visitAll (assertTrue · message) placement.cpuPinnings
        placement.pcpuSiblings vcpus) ↔
      Injective placement.cpuPinnings ∧
        ∀ pcpu, Pinned placement.cpuPinnings pcpu →
          ¬ Shares placement.cpuPinnings placement.pcpuSiblings pcpu := by
  have asserts : ∀ disjoint, assertTrue disjoint message = .ok () ↔
      disjoint = true := by
    intro disjoint
    cases disjoint <;> simp [assertTrue]
  simpa using placement.visitAll_placement_iff asserts order

theorem completes_assertFalse_iff (message : PinningMessage) {vcpus : List Int}
    (order : vcpus.Perm (placement.cpuPinnings.map Prod.fst)) :
    Completes (visitAll (assertFalse · message) placement.cpuPinnings
        placement.pcpuSiblings vcpus) ↔
      Injective placement.cpuPinnings ∧
        ∀ pcpu, Pinned placement.cpuPinnings pcpu →
          Shares placement.cpuPinnings placement.pcpuSiblings pcpu := by
  have asserts : ∀ disjoint, assertFalse disjoint message = .ok () ↔
      disjoint = false := by
    intro disjoint
    cases disjoint <;> simp [assertFalse, assertTrue]
  simpa using placement.visitAll_placement_iff asserts order

end Placement

/-- Whatever the order of the visits, the loops complete exactly on injective
pinnings: of CPUs that share no core with one another for `isolate`, and of
CPUs that each share one with another for `prefer` and `require`. -/
theorem threadPolicies_complete_iff (placement : Placement) (vcpus : List Int)
    (order : vcpus.Perm (placement.cpuPinnings.map Prod.fst)) :
    (Completes (threadsIsolate placement.cpuPinnings placement.pcpuSiblings
        vcpus) ↔
      Injective placement.cpuPinnings ∧
        ∀ pcpu other, Pinned placement.cpuPinnings pcpu →
          Pinned placement.cpuPinnings other → other ≠ pcpu →
            ¬ Sibling placement.pcpuSiblings pcpu other) ∧
    (Completes (threadsPrefer placement.cpuPinnings placement.pcpuSiblings
        vcpus) ↔
      Injective placement.cpuPinnings ∧
        ∀ pcpu, Pinned placement.cpuPinnings pcpu →
          ∃ other, other ≠ pcpu ∧ Pinned placement.cpuPinnings other ∧
            Sibling placement.pcpuSiblings pcpu other) ∧
    (Completes (threadsRequire placement.cpuPinnings placement.pcpuSiblings
        vcpus) ↔
      Injective placement.cpuPinnings ∧
        ∀ pcpu, Pinned placement.cpuPinnings pcpu →
          ∃ other, other ≠ pcpu ∧ Pinned placement.cpuPinnings other ∧
            Sibling placement.pcpuSiblings pcpu other) := by
  refine ⟨?_, placement.completes_assertFalse_iff _ order,
    placement.completes_assertFalse_iff _ order⟩
  apply (placement.completes_assertTrue_iff _ order).trans
  apply and_congr_right
  intro _
  constructor
  · intro alone pcpu other pinned otherPinned different sibling
    exact alone pcpu pinned ⟨other, different, otherPinned, sibling⟩
  · intro apart pcpu pinned shares
    obtain ⟨other, different, otherPinned, sibling⟩ := shares
    exact apart pcpu other pinned otherPinned different sibling

def coreCells : List (List CpuElement) :=
  [[⟨some "4".toList, some "4,20".toList⟩,
    ⟨some "20".toList, some "4,20".toList⟩]]

theorem coreCells_selfListing :
    ∀ cell ∈ coreCells, ∀ cpu ∈ cell, cpu.SelfListing := by
  have ascending : Ascending "4,20".toList := by
    refine ⟨[⟨4, 4⟩, ⟨20, 20⟩], .cons ?_ (.cons ?_ .nil), by decide⟩
    · exact .number (by decide) (by decide)
    · exact .number (by decide) (by decide)
  have listed : getSiblingsList "4,20".toList = .ok [4, 20] := by
    decide
  intro cell inCells cpu inCell cpuId sib siblings readId present returned
  cases List.mem_singleton.mp inCells
  simp only [List.mem_cons, List.not_mem_nil, or_false] at inCell
  rcases inCell with rfl | rfl
  all_goals
    cases present
    rw [listed] at returned
    cases returned
    refine ⟨ascending, ?_⟩
    cases Option.some.inj readId
    decide

/-- Two virtual CPUs on the two threads of one core. -/
def oneCore : Placement :=
  have pinningRead : getServerCpuPinning
      ⟨[⟨some "0".toList, some "4".toList⟩,
        ⟨some "1".toList, some "20".toList⟩], []⟩ =
      .ok [(0, 4), (1, 20)] := rfl
  have siblingsRead : getHostCpuSiblings coreCells =
      .ok [(4, [4, 20]), (20, [4, 20])] := rfl
  .read pinningRead siblingsRead coreCells_selfListing (by decide)

theorem threadPolicies_oneCore :
    (Completes (threadsPrefer oneCore.cpuPinnings oneCore.pcpuSiblings
        [1, 0]) ↔
      Injective oneCore.cpuPinnings ∧
        ∀ pcpu, Pinned oneCore.cpuPinnings pcpu →
          ∃ other, other ≠ pcpu ∧ Pinned oneCore.cpuPinnings other ∧
            Sibling oneCore.pcpuSiblings pcpu other) ∧
    threadsPrefer oneCore.cpuPinnings oneCore.pcpuSiblings [1, 0] =
      .ok [(4, [20]), (20, [4])] :=
  ⟨(threadPolicies_complete_iff oneCore [1, 0] (by decide)).2.1, by decide⟩

end Whitebox.Compute
