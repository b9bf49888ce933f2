import Mathlib.Data.Finset.Dedup
import Whitebox.Hardware.CpuSpec
import Whitebox.Python.Int

/-!
# Printing and reading CPU sets

`format_cpu_spec` prints a list of CPU numbers.  A minus sign of a printed
number is read as the hyphen of a range without a first number, so exactly the
lists without negative numbers are read back.  For the same reason no accepted
specification yields a negative CPU.
-/

namespace Whitebox.Hardware

open Whitebox.Python
open Whitebox.Selection (gather select mem_gather mem_select)

def formatCpuSpec (cpuList : List Int) : Str :=
  join ',' (cpuList.map str)

theorem ruleTexts_of_solid {text : Str} (nonempty : text ≠ [])
    (noComma : ',' ∉ text) (solid : ∀ c ∈ text, isSpace c = false) :
    ruleTexts text = [text] := by
  have stripped : strip text = text := trim_eq_self solid
  simp [ruleTexts, split_of_not_mem noComma, stripped, nonempty]

theorem ruleTexts_str (number : Int) : ruleTexts (str number) = [str number] := by
  apply ruleTexts_of_solid (str_ne_nil number)
  · intro member
    rcases isDigit_or_minus_of_mem_str member with digit | minus
    · exact absurd digit (by decide)
    · exact absurd minus (by decide)
  · intro c member
    rcases isDigit_or_minus_of_mem_str member with digit | rfl
    · exact isSpace_of_isDigit digit
    · decide

theorem ruleTexts_formatCpuSpec (cpuList : List Int) :
    ruleTexts (formatCpuSpec cpuList) = cpuList.map str := by
  rw [formatCpuSpec, ruleTexts_join, List.flatMap_map, List.map_eq_flatMap]
  simp only [ruleTexts_str]

theorem reads_str_of_nonneg {number : Int} (nonneg : 0 ≤ number) :
    Reads int (str number) ⟨false, Interval.point number⟩ := by
  obtain ⟨magnitude, rfl⟩ := Int.eq_ofNat_of_zero_le nonneg
  have digits : ∀ c ∈ str (magnitude : Int), c.isDigit = true :=
    fun c member => isDigit_of_mem_str member
  refine .plain ?_ (.number ?_ ?_)
  · intro caret
    exact absurd (digits '^' (List.mem_of_mem_head? caret)) (by decide)
  · intro hyphen
    exact absurd (digits '-' hyphen) (by decide)
  · exact int_strip (int_str magnitude)

theorem not_reads_str_of_neg {number : Int} (negative : number < 0)
    (cpuRule : CpuRule) : ¬ Reads int (str number) cpuRule := by
  obtain ⟨pred, rfl⟩ := Int.eq_negSucc_of_lt_zero negative
  intro reads
  have noCaret : (str (Int.negSucc pred)).head? ≠ some '^' := by
    simp [str]
  have names := (reads_iff.mp reads).2
  rw [splitCaret_of_head noCaret] at names
  have printed : str (Int.negSucc pred) =
      [] ++ '-' :: Nat.toDigits 10 (pred + 1) := rfl
  rw [printed, names_range_iff (by simp), strip_nil, int_nil] at names
  cases names.1

/-- The first number of an interval is read from a text without minus. -/
theorem Names.first_nonneg {text : Str} {interval : Interval}
    (names : Names int text interval) : 0 ≤ interval.first := by
  cases names with
  | number noHyphen accepted =>
      exact int_nonneg (fun member => noHyphen (mem_of_mem_trim member))
        accepted
  | range noHyphen acceptedFirst =>
      exact int_nonneg (fun member => noHyphen (mem_of_mem_trim member))
        acceptedFirst

theorem parseCpuSpec_nonneg {spec : Str} {cpus : Finset Int}
    (accepted : parseCpuSpec int spec = .ok cpus) {cpu : Int}
    (member : cpu ∈ cpus) : 0 ≤ cpu := by
  obtain ⟨⟨piece, _, _, interval, reads, lower, _⟩, _⟩ :=
    (mem_parseCpuSpec accepted).mp member
  have names := (reads_iff.mp reads).2
  exact names.first_nonneg.trans lower

theorem parseCpuSpec_format {cpuList : List Int}
    (nonneg : ∀ cpu ∈ cpuList, 0 ≤ cpu) :
    parseCpuSpec int (formatCpuSpec cpuList) = .ok cpuList.toFinset := by
  have reads : List.Forall₂ (Reads int) (ruleTexts (formatCpuSpec cpuList))
      (cpuList.map fun cpu => ⟨false, Interval.point cpu⟩) := by
    rw [ruleTexts_formatCpuSpec, List.forall₂_map_left_iff,
      List.forall₂_map_right_iff, List.forall₂_same]
    intro cpu member
    exact reads_str_of_nonneg (nonneg cpu member)
  rw [parseCpuSpec_reads reads]
  congr 1
  ext x
  simp [mem_select, mem_gather, CpuRule.rule, Interval.cpus_point]

theorem parseCpuSpec_format_negative {cpuList : List Int} {cpu : Int}
    (member : cpu ∈ cpuList) (negative : cpu < 0) :
    parseCpuSpec int (formatCpuSpec cpuList) =
      raiseInvalidCPUSpec (formatCpuSpec cpuList) := by
  have inTexts : str cpu ∈ ruleTexts (formatCpuSpec cpuList) := by
    rw [ruleTexts_formatCpuSpec]
    exact List.mem_map_of_mem member
  exact parseCpuSpec_invalid inTexts (not_reads_str_of_neg negative)

/-- `parse_cpu_spec` and `format_cpu_spec` are inverse up to order, and no
accepted specification yields a negative CPU. -/
theorem parseCpuSpec_formatCpuSpec_inverse :
    (∀ cpuList : List Int,
      ((∀ cpu ∈ cpuList, 0 ≤ cpu) →
        parseCpuSpec int (formatCpuSpec cpuList) = .ok cpuList.toFinset) ∧
      ((∃ cpu ∈ cpuList, cpu < 0) →
        parseCpuSpec int (formatCpuSpec cpuList) =
          raiseInvalidCPUSpec (formatCpuSpec cpuList))) ∧
    (∀ (spec : Str) (cpus : Finset Int),
      parseCpuSpec int spec = .ok cpus →
        (∀ cpu ∈ cpus, 0 ≤ cpu) ∧
        ∀ cpuList : List Int, cpuList.toFinset = cpus →
          parseCpuSpec int (formatCpuSpec cpuList) = .ok cpus) := by
  refine ⟨?_, ?_⟩
  · intro cpuList
    refine ⟨parseCpuSpec_format, ?_⟩
    intro ⟨cpu, member, negative⟩
    exact parseCpuSpec_format_negative member negative
  · intro spec cpus accepted
    have nonneg : ∀ cpu ∈ cpus, 0 ≤ cpu :=
      fun cpu member => parseCpuSpec_nonneg accepted member
    refine ⟨nonneg, ?_⟩
    intro cpuList enumerates
    rw [parseCpuSpec_format, enumerates]
    intro cpu member
    exact nonneg cpu (enumerates ▸ List.mem_toFinset.mpr member)

end Whitebox.Hardware
