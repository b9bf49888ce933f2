import Mathlib.Algebra.Order.Ring.Rat
import Mathlib.Data.List.Dedup
import Whitebox.Python.Float
import Whitebox.Services.NUMAClient

/-!
# The hugepages of a live migration test

`test_hugepages` boots guests that are to fill a NUMA node each.  It takes the
smallest number of free pages of any node as their demand, and skips the test
if that is less than half of the pages of a node.

A node has room for a second guest if the demand is exactly one half of its
pages and all of them are free, and the check lets one half pass.
-/

namespace Whitebox.Compute

open Whitebox.Python Whitebox.Services
open Whitebox.Effect.Fallible

inductive HugepagesExn where
  | skipException (message : Str)
  | keyError (node : Int)
  | overflowError
  | valueError
deriving DecidableEq

/-- What `get_host_topology`, `get_pagesize` and `get_hugepages` return for a
host. -/
structure HugepagesHost where
  topology : Topology
  pagesize : Option Int
  pages : HostPages

def hugepagesRequired : Str := "Hugepages required".toList

def twoNodesRequired : Str := "At least 2 NUMA nodes per host required".toList

def samePagesizeRequired : Str := "Hosts must have same pagesize".toList

def sameCpusRequired : Str :=
  "NUMA nodes must have same number of CPUs".toList

def sameTotalRequired : Str :=
  "NUMA nodes must have same number of total hugepages".toList

def needLabel : Str :=
  "Need enough free hugepages to effectively \"fill\" a NUMA ".toList ++
    "node. Need: ".toList

def haveLabel : Str := ". Have: ".toList

/-- The message of the last check, with the numbers printed by `%d`. -/
def moreFreeRequired (minFreeRequired : ℚ) (minFree : Int) : Str :=
  needLabel ++ (str (truncate minFreeRequired) ++ (haveLabel ++ str minFree))

/-- `_get_cpus_per_node`: the set of the numbers of CPUs. -/
def getCpusPerNode (nodes : List (List Int)) : List Nat :=
  (nodes.map List.length).dedup

/-- `chain(pages_a.values(), pages_b.values())`. -/
def pagecounts (hostA hostB : HugepagesHost) : List NodePages :=
  hostA.pages.map Prod.snd ++ hostB.pages.map Prod.snd

/-- `min(numbers)`. -/
def minimum (numbers : List Int) : Except HugepagesExn Int :=
  match numbers.min? with
  | some least => .ok least
  | none => .error .valueError

/-- `pages[0]`. -/
def firstNode (pages : HostPages) : Except HugepagesExn NodePages :=
  match pages.lookup 0 with
  | some counts => .ok counts
  | none => .error (.keyError 0)

/-- `total / 2`. -/
def halfOf (total : Int) : Except HugepagesExn ℚ :=
  match half total with
  | some value => .ok value
  | none => .error .overflowError

/-- The numbers of CPUs that the nodes of the hosts have. -/
def cpuCounts (hostA hostB : HugepagesHost) : List Nat :=
  getCpusPerNode (hostA.topology.map Prod.snd ++ hostB.topology.map Prod.snd)

/-- The start of `test_hugepages`: it returns the number of pages that the
flavor of the guests asks for. -/
def testHugepages (hostA hostB : HugepagesHost) :
    Except HugepagesExn Int := do
  let counts := pagecounts hostA hostB
  require (∀ pages ∈ counts, pages.total ≠ 0)
    (.skipException hugepagesRequired)
  require (2 ≤ hostA.topology.length ∧ 2 ≤ hostB.topology.length)
    (.skipException twoNodesRequired)
  require (hostA.pagesize = hostB.pagesize)
    (.skipException samePagesizeRequired)
  require ((cpuCounts hostA hostB).length = 1) (.skipException sameCpusRequired)
  require ((counts.map NodePages.total).dedup.length = 1)
    (.skipException sameTotalRequired)
  let minFree ← minimum (counts.map NodePages.free)
  let first ← firstNode hostA.pages
  let minFreeRequired ← halfOf first.total
  require (¬ minFree < minFreeRequired)
    (.skipException (moreFreeRequired minFreeRequired minFree))
  .ok minFree

/-- Two hosts with at least two nodes each, which all have the same number of
pages, some of them free. -/
structure SameHosts (hostA hostB : HugepagesHost) (total : Int) : Prop where
  nodesA : 2 ≤ hostA.topology.length
  nodesB : 2 ≤ hostB.topology.length
  positive : 0 < total
  totals : ∀ pages ∈ pagecounts hostA hostB, pages.total = total
  free : ∀ pages ∈ pagecounts hostA hostB,
    0 ≤ pages.free ∧ pages.free ≤ total

/-- Each node has room for one guest with the demand and no more. -/
def OneGuestEach (hostA hostB : HugepagesHost) (minFree : Int) : Prop :=
  ∀ pages ∈ pagecounts hostA hostB,
    minFree ≤ pages.free ∧ pages.free < 2 * minFree

/-- If the test goes on, then each node has room for one guest and no more. -/
def Fills (hostA hostB : HugepagesHost) : Prop :=
  ∀ minFree, testHugepages hostA hostB = .ok minFree →
    OneGuestEach hostA hostB minFree

/-- The hosts pass the checks that are not about free pages. -/
structure Alike (hostA hostB : HugepagesHost) : Prop where
  pagesize : hostA.pagesize = hostB.pagesize
  cpus : (cpuCounts hostA hostB).length = 1
  first : ∃ counts, hostA.pages.lookup 0 = some counts

section Guard

variable {hostA hostB : HugepagesHost} {minFree total : Int}

theorem minimum_eq_ok_iff {numbers : List Int} {least : Int} :
    minimum numbers = .ok least ↔ numbers.min? = some least := by
  unfold minimum
  cases numbers.min? <;> simp

theorem firstNode_eq_ok_iff {pages : HostPages} {counts : NodePages} :
    firstNode pages = .ok counts ↔ pages.lookup 0 = some counts := by
  unfold firstNode
  cases pages.lookup 0 <;> simp

theorem halfOf_eq_ok_iff {number : Int} {value : ℚ} :
    halfOf number = .ok value ↔ half number = some value := by
  unfold halfOf
  cases half number <;> simp

theorem mem_pagecounts_of_lookup {counts : NodePages} {node : Int}
    (found : hostA.pages.lookup node = some counts)
    (hostB : HugepagesHost) : counts ∈ pagecounts hostA hostB := by
  obtain ⟨before, after, listed, _⟩ := List.lookup_eq_some_iff.mp found
  simp [pagecounts, listed]

theorem SameHosts.length_totals (hosts : SameHosts hostA hostB total)
    (nonempty : pagecounts hostA hostB ≠ []) :
    ((pagecounts hostA hostB).map NodePages.total).dedup.length = 1 := by
  have same : (pagecounts hostA hostB).map NodePages.total =
      List.replicate (pagecounts hostA hostB).length total := by
    apply List.eq_replicate_iff.mpr
    refine ⟨List.length_map _, ?_⟩
    intro number member
    obtain ⟨pages, listed, rfl⟩ := List.mem_map.mp member
    exact hosts.totals pages listed
  rw [same, List.replicate_dedup (by simpa using nonempty)]
  rfl

/-- On hosts with the same number of pages the test goes on if the hosts are
alike and no node has less free pages than are required. -/
theorem testHugepages_eq_ok_iff (hosts : SameHosts hostA hostB total) :
    testHugepages hostA hostB = .ok minFree ↔
      Alike hostA hostB ∧
      ((pagecounts hostA hostB).map NodePages.free).min? = some minFree ∧
      ∃ required : ℚ, half total = some required ∧ required ≤ minFree := by
  unfold testHugepages
  simp only [bind_eq_ok_iff, require_eq_ok_iff, minimum_eq_ok_iff,
    firstNode_eq_ok_iff, halfOf_eq_ok_iff, not_lt]
  constructor
  · rintro ⟨_, _, _, _, _, pagesize, _, cpus, _, _, least, smallest, first,
      found, required, divided, _, enough, same⟩
    cases same
    rw [hosts.totals first (mem_pagecounts_of_lookup found hostB)] at divided
    exact ⟨⟨pagesize, cpus, first, found⟩, smallest, required, divided, enough⟩
  · rintro ⟨⟨pagesize, cpus, first, found⟩, smallest, required, divided,
      enough⟩
    have listed := mem_pagecounts_of_lookup found hostB
    rw [← hosts.totals first listed] at divided
    refine ⟨⟨⟩, ?_, ⟨⟩, ⟨hosts.nodesA, hosts.nodesB⟩, ⟨⟩, pagesize, ⟨⟩, cpus,
      ⟨⟩, hosts.length_totals (List.ne_nil_of_mem listed), minFree, smallest,
      first, found, required, divided, ⟨⟩, enough, rfl⟩
    intro pages member
    rw [hosts.totals pages member]
    exact hosts.positive.ne'

/-- The demand of the guests is too small exactly if the test goes on although
some node has twice as many free pages as another. -/
theorem fills_iff (hosts : SameHosts hostA hostB total) :
    Fills hostA hostB ↔
      ¬ (Alike hostA hostB ∧
        (∃ required : ℚ, half total = some required ∧
          ∀ pages ∈ pagecounts hostA hostB, required ≤ pages.free) ∧
        ∃ scarce ∈ pagecounts hostA hostB, ∃ full ∈ pagecounts hostA hostB,
          2 * scarce.free ≤ full.free) := by
  constructor
  · rintro fills ⟨alike, ⟨required, divided, enough⟩, scarce, scarceMember,
      full, fullMember, twice⟩
    have nonempty : (pagecounts hostA hostB).map NodePages.free ≠ [] :=
      List.ne_nil_of_mem (List.mem_map_of_mem scarceMember)
    obtain ⟨minFree, smallest⟩ := Option.isSome_iff_exists.mp
      (List.isSome_min?_of_ne_nil nonempty)
    obtain ⟨attained, below⟩ := List.min?_eq_some_iff.mp smallest
    obtain ⟨least, leastMember, rfl⟩ := List.mem_map.mp attained
    have passed := (testHugepages_eq_ok_iff hosts).mpr
      ⟨alike, smallest, required, divided, enough least leastMember⟩
    have room := (fills least.free passed full fullMember).2
    have order := below scarce.free (List.mem_map_of_mem scarceMember)
    omega
  · intro notBoth minFree passed pages member
    obtain ⟨alike, smallest, required, divided, enough⟩ :=
      (testHugepages_eq_ok_iff hosts).mp passed
    obtain ⟨attained, below⟩ := List.min?_eq_some_iff.mp smallest
    have atLeast : ∀ pages ∈ pagecounts hostA hostB, minFree ≤ pages.free :=
      fun pages member => below pages.free (List.mem_map_of_mem member)
    refine ⟨atLeast pages member, ?_⟩
    by_contra room
    obtain ⟨least, leastMember, rfl⟩ := List.mem_map.mp attained
    refine notBoth ⟨alike, ⟨required, divided, ?_⟩, least, leastMember, pages,
      member, not_lt.mp room⟩
    intro other otherMember
    have order : (least.free : ℚ) ≤ other.free := by
      exact_mod_cast atLeast other otherMember
    exact enough.trans order

/-- Where the division is exact, a node with less than half of its pages free
stops the test. -/
theorem enough_iff_of_lt (hosts : SameHosts hostA hostB total)
    (small : total < 2 ^ 53) :
    (∃ required : ℚ, half total = some required ∧
        ∀ pages ∈ pagecounts hostA hostB, required ≤ pages.free) ↔
      ∀ pages ∈ pagecounts hostA hostB, total ≤ 2 * pages.free := by
  have positive := hosts.positive
  have bounded : total.natAbs < 2 ^ 53 := by omega
  have divided := half_of_lt bounded
  have doubled (free : Int) : (total : ℚ) / 2 ≤ free ↔ total ≤ 2 * free := by
    rw [div_le_iff₀ two_pos, mul_comm]
    exact_mod_cast Iff.rfl
  simp only [divided, Option.some.injEq, exists_eq_left', doubled]

/-- Where no node has less than half of its pages free, one has twice as many
free pages as another only if one has half of them and the other all. -/
theorem exists_twice_iff (hosts : SameHosts hostA hostB total)
    (enough : ∀ pages ∈ pagecounts hostA hostB, total ≤ 2 * pages.free) :
    (∃ scarce ∈ pagecounts hostA hostB, ∃ full ∈ pagecounts hostA hostB,
        2 * scarce.free ≤ full.free) ↔
      (∃ scarce ∈ pagecounts hostA hostB, 2 * scarce.free = total) ∧
        ∃ full ∈ pagecounts hostA hostB, full.free = total := by
  constructor
  · rintro ⟨scarce, scarceMember, full, fullMember, twice⟩
    have half := enough scarce scarceMember
    have atMost := (hosts.free full fullMember).2
    exact ⟨⟨scarce, scarceMember, by omega⟩, full, fullMember, by omega⟩
  · rintro ⟨⟨scarce, scarceMember, half⟩, full, fullMember, allFree⟩
    exact ⟨scarce, scarceMember, full, fullMember, by omega⟩

end Guard

/-- If the test goes on, then each node has room for exactly one guest, unless
no node has less than half of its pages free, some node exactly half, and some
node all.  Where `total / 2` is rounded, the test fails to do so if no node has
less free pages than the rounded half and one has twice as many as another. -/
theorem testHugepages_oneGuestEach_iff {hostA hostB : HugepagesHost}
    {total : Int} (hosts : SameHosts hostA hostB total) :
    (total < 2 ^ 53 →
      (Fills hostA hostB ↔
        ¬ (Alike hostA hostB ∧
          (∀ pages ∈ pagecounts hostA hostB, total ≤ 2 * pages.free) ∧
          (∃ scarce ∈ pagecounts hostA hostB, 2 * scarce.free = total) ∧
          ∃ full ∈ pagecounts hostA hostB, full.free = total))) ∧
    (Fills hostA hostB ↔
      ¬ (Alike hostA hostB ∧
        (∃ required : ℚ, half total = some required ∧
          ∀ pages ∈ pagecounts hostA hostB, required ≤ pages.free) ∧
        ∃ scarce ∈ pagecounts hostA hostB, ∃ full ∈ pagecounts hostA hostB,
          2 * scarce.free ≤ full.free)) := by
  refine ⟨?_, fills_iff hosts⟩
  intro small
  rw [fills_iff hosts, enough_iff_of_lt hosts small, not_iff_not,
    and_congr_right_iff]
  intro _
  rw [and_congr_right_iff]
  exact exists_twice_iff hosts

/-- A host with two nodes of four pages. -/
def fourPages (free : Int) : HugepagesHost where
  topology := [(0, [0, 1]), (1, [2, 3])]
  pagesize := some 2048
  pages := [(0, ⟨4, free⟩), (1, ⟨4, 4⟩)]

theorem fourPages_sameHosts {free : Int} (lower : 0 ≤ free)
    (upper : free ≤ 4) : SameHosts (fourPages free) (fourPages 4) 4 where
  nodesA := le_rfl
  nodesB := le_rfl
  positive := by decide
  totals := by simp [pagecounts, fourPages]
  free := by simp [pagecounts, fourPages, lower, upper]

theorem testHugepages_fourPages {free : Int} (lower : 2 ≤ free)
    (upper : free ≤ 4) :
    testHugepages (fourPages free) (fourPages 4) = .ok free := by
  have hosts := fourPages_sameHosts (by omega) upper
  refine (testHugepages_eq_ok_iff hosts).mpr
    ⟨⟨rfl, rfl, ⟨4, free⟩, rfl⟩, ?_, _, half_of_lt (by norm_num), ?_⟩
  · simp [pagecounts, fourPages, upper]
  · have order : (2 : ℚ) ≤ free := by exact_mod_cast lower
    norm_num
    exact order

theorem testHugepages_three_of_four :
    SameHosts (fourPages 3) (fourPages 4) 4 ∧
      testHugepages (fourPages 3) (fourPages 4) = .ok 3 ∧
      OneGuestEach (fourPages 3) (fourPages 4) 3 := by
  have hosts : SameHosts (fourPages 3) (fourPages 4) 4 :=
    fourPages_sameHosts (by decide) (by decide)
  have passed : testHugepages (fourPages 3) (fourPages 4) = .ok 3 :=
    testHugepages_fourPages (by decide) (by decide)
  have fills := ((testHugepages_oneGuestEach_iff hosts).1 (by decide)).mpr (by
    rintro ⟨_, _, ⟨scarce, member, half⟩, _⟩
    simp only [pagecounts, fourPages, List.map_cons, List.map_nil,
      List.cons_append, List.nil_append, List.mem_cons, List.not_mem_nil,
      or_false] at member
    rcases member with rfl | rfl | rfl | rfl
    · cases half
    · cases half
    · cases half
    · cases half)
  exact ⟨hosts, passed, fills 3 passed⟩

/-- The test goes on with a demand of two pages, and nodes with four free pages
have room for two guests. -/
theorem testHugepages_two_of_four :
    SameHosts (fourPages 2) (fourPages 4) 4 ∧
      testHugepages (fourPages 2) (fourPages 4) = .ok 2 ∧
      ¬ OneGuestEach (fourPages 2) (fourPages 4) 2 := by
  refine ⟨fourPages_sameHosts (by decide) (by decide),
    testHugepages_fourPages (by decide) (by decide), ?_⟩
  intro fits
  have room := (fits ⟨4, 4⟩ (by simp [pagecounts, fourPages])).2
  exact absurd room (by decide)

end Whitebox.Compute
