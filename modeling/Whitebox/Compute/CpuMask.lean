import Whitebox.Compute.HostCpuSets

/-!
# CPU masks

The kernel and libvirt print a set of CPUs as a list of ranges such as
`0-3,5`, with one range for every run of consecutive CPUs.  `parse_cpu_spec`
reads such a list back as the set it was printed from.
-/

namespace Whitebox.Compute

open Whitebox.Python
open Whitebox.Hardware
open Whitebox.Selection (select mem_gather mem_select)

/-- The bits of a mask that are set, from the lowest to the highest. -/
structure CpuMask where
  cpus : List Nat
  ascending : cpus.Pairwise (· < ·)

/-- The mask of one CPU. -/
def CpuMask.single (cpu : Nat) : CpuMask :=
  ⟨[cpu], List.pairwise_singleton _ cpu⟩

/-- Consecutive CPUs. -/
structure CpuRange where
  first : Nat
  last : Nat
  ordered : first ≤ last

namespace CpuRange

def single (cpu : Nat) : CpuRange :=
  ⟨cpu, cpu, Nat.le_refl cpu⟩

def Contains (range : CpuRange) (cpu : Nat) : Prop :=
  range.first ≤ cpu ∧ cpu ≤ range.last

/-- A range of one CPU is printed as its number. -/
def item (range : CpuRange) : SpecItem where
  reject := false
  first := range.first
  last := if range.first = range.last then none else some range.last
  ordered := by
    intro final printed
    split at printed
    · cases printed
    · cases printed
      exact range.ordered

def interval (range : CpuRange) : Interval :=
  ⟨range.first, range.last, Int.ofNat_le.mpr range.ordered⟩

theorem mem_interval_cpus {range : CpuRange} {cpu : Int} :
    cpu ∈ range.interval.cpus ↔
      ∃ bit, range.Contains bit ∧ (bit : Int) = cpu := by
  rw [Interval.mem_cpus]
  constructor
  · intro bounds
    have nonneg : 0 ≤ cpu := (Int.natCast_nonneg _).trans bounds.1
    obtain ⟨bit, rfl⟩ := Int.eq_ofNat_of_zero_le nonneg
    exact ⟨bit, bounds.imp Int.ofNat_le.mp Int.ofNat_le.mp, rfl⟩
  · intro contained
    obtain ⟨bit, bounds, rfl⟩ := contained
    exact bounds.imp Int.ofNat_le.mpr Int.ofNat_le.mpr

theorem body_of_eq {range : CpuRange} (alone : range.first = range.last) :
    range.item.body = str (range.first : Int) := by
  simp only [SpecItem.body, item, if_pos alone]

theorem body_of_ne {range : CpuRange} (several : range.first ≠ range.last) :
    range.item.body =
      str (range.first : Int) ++ '-' :: str (range.last : Int) := by
  simp only [SpecItem.body, item, if_neg several]

theorem noHyphen_str (number : Nat) : '-' ∉ str (number : Int) := by
  intro member
  exact absurd (isDigit_of_mem_str member) (by decide)

theorem names_body (range : CpuRange) :
    Names int range.item.body range.interval := by
  have noHyphen := noHyphen_str range.first
  by_cases alone : range.first = range.last
  · have interval : range.interval = Interval.point range.first := by
      apply Interval.ext
      · rfl
      · exact congrArg Int.ofNat alone.symm
    rw [body_of_eq alone, interval]
    exact .number noHyphen (SpecItem.int_strip_str range.first)
  · rw [body_of_ne alone]
    exact .range noHyphen (SpecItem.int_strip_str range.first)
      (SpecItem.int_strip_str range.last) _

theorem reads_text (range : CpuRange) :
    Reads int range.item.text ⟨false, range.interval⟩ := by
  refine .plain ?_ range.names_body
  intro caret
  rcases SpecItem.mem_body (List.mem_of_mem_head? caret) with digit | hyphen
  · exact absurd digit (by decide)
  · exact absurd hyphen (by decide)

end CpuRange

/-- The ranges with one more CPU before them. -/
def prependCpu (cpu : Nat) : List CpuRange → List CpuRange
  | [] => [.single cpu]
  | range :: ranges =>
      if follows : range.first = cpu + 1 then
        ⟨cpu, range.last, by have := range.ordered; omega⟩ :: ranges
      else .single cpu :: range :: ranges

def rangesOf (cpus : List Nat) : List CpuRange :=
  cpus.foldr prependCpu []

theorem exists_mem_prependCpu_iff {cpu next : Nat} {ranges : List CpuRange} :
    (∃ range ∈ prependCpu next ranges, range.Contains cpu) ↔
      cpu = next ∨ ∃ range ∈ ranges, range.Contains cpu := by
  have alone : (CpuRange.single next).Contains cpu ↔ cpu = next := by
    simp only [CpuRange.Contains, CpuRange.single]
    omega
  unfold prependCpu
  split
  · simp only [List.mem_singleton, exists_eq_left, alone, List.not_mem_nil,
      false_and, exists_false, or_false]
  · rename_i range ranges
    split
    · rename_i follows
      have ordered := range.ordered
      have extended : next ≤ cpu ∧ cpu ≤ range.last ↔
          cpu = next ∨ range.Contains cpu := by
        simp only [CpuRange.Contains]
        omega
      simp only [List.exists_mem_cons_iff, ← or_assoc, ← extended]
      rfl
    · simp only [List.exists_mem_cons_iff, alone]

/-- The ranges contain the CPUs that they were made from. -/
theorem exists_mem_rangesOf_iff {cpu : Nat} {cpus : List Nat} :
    (∃ range ∈ rangesOf cpus, range.Contains cpu) ↔ cpu ∈ cpus := by
  induction cpus with
  | nil => simp [rangesOf]
  | cons next cpus induction =>
      rw [List.mem_cons, ← induction]
      exact exists_mem_prependCpu_iff

/-- The rules of a printed specification are its items. -/
theorem ruleTexts_specText (items : List SpecItem) :
    ruleTexts (specText items) = items.map SpecItem.text := by
  have alone : ∀ item : SpecItem, ruleTexts item.text = [item.text] :=
    fun item =>
      ruleTexts_of_solid item.text_ne_nil item.noComma_text item.solid_text
  rw [specText, ruleTexts_join, List.flatMap_map, List.map_eq_flatMap]
  simp only [alone]

namespace CpuMask

/-- The text that shows the mask. -/
def text (mask : CpuMask) : Str :=
  specText ((rangesOf mask.cpus).map CpuRange.item)

/-- The CPUs as the numbers that are read. -/
def cpuSet (mask : CpuMask) : Finset Int :=
  (mask.cpus.map Int.ofNat).toFinset

theorem mem_cpuSet {mask : CpuMask} {cpu : Int} :
    cpu ∈ mask.cpuSet ↔ ∃ bit ∈ mask.cpus, (bit : Int) = cpu := by
  simp only [cpuSet, List.mem_toFinset, List.mem_map, Int.ofNat_eq_natCast]

theorem strip_text (mask : CpuMask) : strip mask.text = mask.text :=
  strip_specText _

/-- A mask that is shown and parsed is the set of its CPUs. -/
theorem parseCpuSpec_text (mask : CpuMask) :
    parseCpuSpec int mask.text = .ok mask.cpuSet := by
  have reads : List.Forall₂ (Reads int) (ruleTexts mask.text)
      ((rangesOf mask.cpus).map fun range => ⟨false, range.interval⟩) := by
    rw [text, ruleTexts_specText, List.map_map, List.forall₂_map_left_iff,
      List.forall₂_map_right_iff, List.forall₂_same]
    intro range _
    exact range.reads_text
  rw [parseCpuSpec_reads reads]
  congr 1
  ext cpu
  have kept : cpu ∈ select (((rangesOf mask.cpus).map fun range =>
      (⟨false, range.interval⟩ : CpuRule)).map CpuRule.rule) ↔
      ∃ range ∈ rangesOf mask.cpus, cpu ∈ range.interval.cpus := by
    simp [mem_select, mem_gather, CpuRule.rule]
  simp only [kept, mem_cpuSet, ← exists_mem_rangesOf_iff,
    CpuRange.mem_interval_cpus]
  constructor
  · intro found
    obtain ⟨range, member, bit, contains, same⟩ := found
    exact ⟨bit, ⟨range, member, contains⟩, same⟩
  · intro found
    obtain ⟨bit, ⟨range, member, contains⟩, same⟩ := found
    exact ⟨range, member, bit, contains, same⟩

theorem noCaret_text (mask : CpuMask) : '^' ∉ mask.text := by
  intro member
  rcases mem_of_mem_join member with comma | ⟨text, inTexts, inside⟩
  · exact absurd comma (by decide)
  · obtain ⟨item, inItems, rfl⟩ := List.mem_map.mp inTexts
    obtain ⟨range, _, rfl⟩ := List.mem_map.mp inItems
    rcases SpecItem.mem_body inside with digit | hyphen
    · exact absurd digit (by decide)
    · exact absurd hyphen (by decide)

theorem covers_text_iff {mask : CpuMask} {cpu : Int} :
    Covers int false mask.text cpu ↔ cpu ∈ mask.cpuSet := by
  rw [mem_parseCpuSpec mask.parseCpuSpec_text]
  exact (and_iff_left (not_covers_of_no_caret mask.noCaret_text cpu)).symm

theorem comma_notMem_of_int {text : Str} {number : Int}
    (accepted : int text = some number) (stripped : strip text = text) :
    ',' ∉ text := by
  intro member
  rw [← stripped, strip_of_int accepted] at member
  rcases mem_trim_of_int accepted ',' member with
    minus | plus | underscore | ⟨digit, value⟩
  · exact absurd minus (by decide)
  · exact absurd plus (by decide)
  · exact absurd underscore (by decide)
  · have none : decimalValue ',' = none := by decide
    rw [none] at value
    cases value

/-- `int` does not accept a number with a hyphen after it. -/
theorem hyphen_notMem_of_int_body {range : CpuRange} {number : Int}
    (accepted : int range.item.body = some number) :
    '-' ∉ range.item.body := by
  by_cases alone : range.first = range.last
  · rw [CpuRange.body_of_eq alone]
    exact CpuRange.noHyphen_str range.first
  · have trimmed : trim isIntSpace range.item.body = range.item.body := by
      apply trim_eq_self
      intro c member
      rw [isIntSpace, range.item.solid_text c member, Bool.false_and]
    obtain ⟨c, rest, shape⟩ :=
      List.exists_cons_of_ne_nil (str_ne_nil (range.first : Int))
    have digit : c.isDigit = true :=
      isDigit_of_mem_str (shape ▸ List.mem_cons_self)
    rw [int, trimmed, CpuRange.body_of_ne alone, shape, List.cons_append]
      at accepted
    -- The first character is a digit, so only the last branch is left.
    split at accepted
    · next sign =>
        cases sign
        cases digit
    · next sign =>
        cases sign
        cases digit
    · obtain ⟨magnitude, read, _⟩ := Option.map_eq_some_iff.mp accepted
      rcases mem_natural read '-' (by simp) with underscore | ⟨value, decimal⟩
      · exact absurd underscore (by decide)
      · have none : decimalValue '-' = none := by decide
        rw [none] at decimal
        cases decimal

/-- A mask with one CPU has only this bit. -/
theorem cpus_of_cpuSet_singleton {mask : CpuMask} {cpu : Int}
    (single : mask.cpuSet = {cpu}) : ∃ bit : Nat, cpu = bit ∧ mask.cpus = [bit] := by
  have same : ∀ bit ∈ mask.cpus, (bit : Int) = cpu := by
    intro bit member
    rw [← Finset.mem_singleton, ← single]
    exact mem_cpuSet.mpr ⟨bit, member, rfl⟩
  obtain ⟨bit, member, rfl⟩ :=
    mem_cpuSet.mp (single ▸ Finset.mem_singleton_self cpu)
  have ascending := mask.ascending
  refine ⟨bit, rfl, ?_⟩
  match shape : mask.cpus with
  | [] =>
      rw [shape] at member
      cases member
  | [only] =>
      rw [shape] at same
      rw [Int.ofNat.inj (same only List.mem_cons_self)]
  | first :: second :: others =>
      rw [shape] at same ascending
      have equal : first = second := Int.ofNat.inj
        ((same first (by simp)).trans (same second (by simp)).symm)
      have less := List.rel_of_pairwise_cons ascending List.mem_cons_self
      omega

/-- `int` accepts the text of a mask exactly if there is one CPU in it. -/
theorem int_text_eq_some_iff {mask : CpuMask} {cpu : Int} :
    int mask.text = some cpu ↔ mask.cpuSet = {cpu} := by
  constructor
  · intro accepted
    match shape : rangesOf mask.cpus with
    | [] =>
        rw [text, shape] at accepted
        cases accepted
    | [range] =>
        have alone : mask.text = range.item.body := by
          rw [text, shape]
          exact join_singleton ',' _
        rw [alone] at accepted
        have interval := range.names_body.unique
          (.number (hyphen_notMem_of_int_body accepted) (int_strip accepted))
        ext other
        simp only [mem_cpuSet, ← exists_mem_rangesOf_iff, shape,
          List.mem_singleton, exists_eq_left]
        rw [← CpuRange.mem_interval_cpus, interval, Interval.cpus_point]
    | first :: second :: others =>
        have comma : ',' ∈ mask.text := by
          rw [text, shape, specText, List.map_cons, List.map_cons,
            List.map_cons, List.map_cons, join_cons_cons]
          simp
        exact absurd comma (comma_notMem_of_int accepted mask.strip_text)
  · intro single
    obtain ⟨bit, rfl, cpus⟩ := cpus_of_cpuSet_singleton single
    have item : (CpuRange.single bit).item.text = str (bit : Int) := by
      simp [SpecItem.text, SpecItem.body, CpuRange.item, CpuRange.single]
    have shown : mask.text = str (bit : Int) := by
      rw [text, cpus, ← item]
      exact join_singleton ',' _
    rw [shown]
    exact int_str bit

/-- The CPUs of some masks. -/
def unite (masks : List CpuMask) : Finset Int :=
  masks.foldl (fun cpus mask => cpus ∪ mask.cpuSet) ∅

theorem mem_foldl_cpuSet {masks : List CpuMask} {cpus : Finset Int}
    {cpu : Int} :
    cpu ∈ masks.foldl (fun cpus mask => cpus ∪ mask.cpuSet) cpus ↔
      cpu ∈ cpus ∨ ∃ mask ∈ masks, cpu ∈ mask.cpuSet := by
  induction masks generalizing cpus with
  | nil => simp
  | cons mask masks induction =>
      rw [List.foldl_cons, induction, Finset.mem_union, or_assoc,
        List.exists_mem_cons_iff]

theorem mem_unite {masks : List CpuMask} {cpu : Int} :
    cpu ∈ unite masks ↔ ∃ mask ∈ masks, cpu ∈ mask.cpuSet := by
  rw [unite, mem_foldl_cpuSet]
  simp

/-- Masks that are shown one after the other are read as one set. -/
theorem parseCpuSpec_join_text (masks : List CpuMask) :
    parseCpuSpec int (join ',' (masks.map text)) = .ok (unite masks) := by
  have grammatical : Grammatical int (join ',' (masks.map text)) := by
    apply grammatical_join.mpr
    intro spec member
    obtain ⟨mask, _, rfl⟩ := List.mem_map.mp member
    exact parseCpuSpec_isOk_iff.mp ⟨_, mask.parseCpuSpec_text⟩
  obtain ⟨cpus, accepted⟩ := parseCpuSpec_isOk_iff.mpr grammatical
  rw [accepted]
  congr 1
  ext cpu
  simp only [mem_parseCpuSpec accepted, covers_join, List.mem_map,
    exists_exists_and_eq_and, covers_text_iff, mem_unite]
  refine and_iff_left ?_
  intro covered
  obtain ⟨mask, _, rejected⟩ := covered
  exact not_covers_of_no_caret mask.noCaret_text cpu rejected

end CpuMask

end Whitebox.Compute
