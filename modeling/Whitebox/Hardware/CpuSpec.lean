import Mathlib.Data.Finset.Dedup
import Mathlib.Data.Finset.Lattice.Lemmas
import Mathlib.Data.Int.Range
import Whitebox.Collection.Selection
import Whitebox.Python.Text

/-!
# CPU set specifications

`parse_cpu_spec` reads texts such as `1-4,^3,6`.  The parser below follows the
source branch by branch and takes Python's `int` as a parameter.  Over it
stand the grammar of one rule, as a relation between a text and the interval
it names, and the meaning of a whole specification as a selection of CPUs.
-/

namespace Whitebox.Hardware

open Whitebox.Python
open Whitebox.Selection (gather select mem_gather mem_select)

/-- The exceptions of the CPU helpers. -/
inductive SpecError where
  | valueError
  | indexError
  | attributeError
  | typeError
  | invalidCPUSpec (message : Str)
deriving DecidableEq

/-- `raise exceptions.InvalidCPUSpec(spec=spec)`. -/
def raiseInvalidCPUSpec (spec : Str) : Except SpecError α :=
  .error (.invalidCPUSpec
    ("CPU spec is invalid: ".toList ++ spec ++ ".".toList))

/-- The body of a `try` whose handler turns `ValueError` into
`InvalidCPUSpec`. -/
def orInvalidCPUSpec (spec : Str) :
    Except SpecError α → Except SpecError α
  | .error .valueError => raiseInvalidCPUSpec spec
  | outcome => outcome

/-- A call of `int` on a text: `none` is its `ValueError`. -/
def toInt (int : Str → Option Int) (text : Str) : Except SpecError Int :=
  match int text with
  | some number => .ok number
  | none => .error .valueError

/-- `text[0]`. -/
def firstCharacter : Str → Except SpecError Char
  | [] => .error .indexError
  | c :: _ => .ok c

structure CpuSets where
  cpusetIds : Finset Int
  cpusetRejectIds : Finset Int

/-- Whether a text starts with a caret, and the text without it. -/
def splitCaret : Str → Bool × Str
  | '^' :: rest => (true, rest)
  | text => (false, text)

/-- The branch for a rule that `rule.split('-', 1)` cuts in two. -/
def applyRange (int : Str → Option Int) (spec : Str) (sets : CpuSets)
    (before after : Str) : Except SpecError CpuSets := do
  let (reject, before) := splitCaret before
  let (start, stop) ← orInvalidCPUSpec spec do
    let start ← toInt int (strip before)
    let stop ← toInt int (strip after)
    pure (start, stop)
  if start > stop then
    raiseInvalidCPUSpec spec
  else if !reject then
    pure { sets with
      cpusetIds := sets.cpusetIds ∪ (Int.range start (stop + 1)).toFinset }
  else
    pure { sets with
      cpusetRejectIds :=
        sets.cpusetRejectIds ∪ (Int.range start (stop + 1)).toFinset }

/-- One turn of the loop over `spec.split(',')`. -/
def applyRule (int : Str → Option Int) (spec : Str) (sets : CpuSets)
    (piece : Str) : Except SpecError CpuSets :=
  let rule := strip piece
  if rule.length < 1 then
    pure sets
  else
    match splitOnce '-' rule with
    | before :: after :: _ => applyRange int spec sets before after
    | _ => do
        if (← firstCharacter rule) = '^' then
          let cpu ← orInvalidCPUSpec spec (toInt int (strip rule.tail))
          pure { sets with cpusetRejectIds := insert cpu sets.cpusetRejectIds }
        else
          let cpu ← orInvalidCPUSpec spec (toInt int rule)
          pure { sets with cpusetIds := insert cpu sets.cpusetIds }

def parseCpuSpec (int : Str → Option Int) (spec : Str) :
    Except SpecError (Finset Int) := do
  let sets ← (split ',' spec).foldlM (applyRule int spec) ⟨∅, ∅⟩
  pure (sets.cpusetIds \ sets.cpusetRejectIds)

/-- A non-empty interval of CPU numbers. -/
@[ext] structure Interval where
  first : Int
  last : Int
  ordered : first ≤ last

namespace Interval

def point (cpu : Int) : Interval :=
  ⟨cpu, cpu, le_rfl⟩

def cpus (interval : Interval) : Finset Int :=
  (Int.range interval.first (interval.last + 1)).toFinset

theorem mem_cpus {interval : Interval} {x : Int} :
    x ∈ interval.cpus ↔ interval.first ≤ x ∧ x ≤ interval.last := by
  rw [cpus, List.mem_toFinset, Int.mem_range_iff, Int.lt_add_one_iff]

theorem cpus_point (cpu : Int) : (point cpu).cpus = {cpu} := by
  ext x
  rw [mem_cpus, Finset.mem_singleton]
  constructor
  · intro ⟨lower, upper⟩
    exact le_antisymm upper lower
  · intro same
    exact ⟨same.ge, same.le⟩

end Interval

structure CpuRule where
  reject : Bool
  interval : Interval

def CpuRule.rule (cpuRule : CpuRule) : Selection.Rule Int :=
  ⟨cpuRule.reject, cpuRule.interval.cpus⟩

/-- A number, or two ordered numbers around the first hyphen. -/
inductive Names (int : Str → Option Int) : Str → Interval → Prop
  | number {text : Str} {cpu : Int}
      (noHyphen : '-' ∉ text)
      (accepted : int (strip text) = some cpu) :
      Names int text (Interval.point cpu)
  | range {before after : Str} {first last : Int}
      (noHyphen : '-' ∉ before)
      (acceptedFirst : int (strip before) = some first)
      (acceptedLast : int (strip after) = some last)
      (ordered : first ≤ last) :
      Names int (before ++ '-' :: after) ⟨first, last, ordered⟩

/-- The grammar of one stripped rule: an optional caret and an interval. -/
inductive Reads (int : Str → Option Int) : Str → CpuRule → Prop
  | plain {text : Str} {interval : Interval}
      (noCaret : text.head? ≠ some '^')
      (names : Names int text interval) :
      Reads int text ⟨false, interval⟩
  | caret {text : Str} {interval : Interval}
      (names : Names int text interval) :
      Reads int ('^' :: text) ⟨true, interval⟩

/-- The non-blank rules of a specification, stripped. -/
def ruleTexts (spec : Str) : List Str :=
  ((split ',' spec).map strip).filter (· ≠ [])

/-- Every non-blank piece of the specification is a rule. -/
def Grammatical (int : Str → Option Int) (spec : Str) : Prop :=
  ∀ piece ∈ split ',' spec, strip piece ≠ [] →
    ∃ cpuRule, Reads int (strip piece) cpuRule

/-- A non-blank piece, with or without caret, names an interval around the
CPU. -/
def Covers (int : Str → Option Int) (reject : Bool) (spec : Str)
    (x : Int) : Prop :=
  ∃ piece ∈ split ',' spec, strip piece ≠ [] ∧
    ∃ interval, Reads int (strip piece) ⟨reject, interval⟩ ∧
      interval.first ≤ x ∧ x ≤ interval.last

theorem names_number_iff {int : Str → Option Int} {text : Str}
    {interval : Interval} (noHyphen : '-' ∉ text) :
    Names int text interval ↔
      ∃ cpu, int (strip text) = some cpu ∧ interval = Interval.point cpu := by
  constructor
  · intro names
    cases names with
    | number _ accepted => exact ⟨_, accepted, rfl⟩
    | range => simp at noHyphen
  · intro ⟨cpu, accepted, point⟩
    rw [point]
    exact .number noHyphen accepted

theorem names_range_iff {int : Str → Option Int} {before after : Str}
    {interval : Interval} (noHyphen : '-' ∉ before) :
    Names int (before ++ '-' :: after) interval ↔
      int (strip before) = some interval.first ∧
        int (strip after) = some interval.last := by
  constructor
  · intro names
    generalize shape : before ++ '-' :: after = text at names
    cases names with
    | number absent => simp [← shape] at absent
    | range absent acceptedFirst acceptedLast =>
        have parts := congrArg (splitOnce '-') shape
        rw [splitOnce_append noHyphen, splitOnce_append absent] at parts
        simp only [List.cons.injEq, and_true] at parts
        obtain ⟨rfl, rfl⟩ := parts
        exact ⟨acceptedFirst, acceptedLast⟩
  · intro ⟨acceptedFirst, acceptedLast⟩
    exact .range noHyphen acceptedFirst acceptedLast interval.ordered

theorem Names.unique {int : Str → Option Int} {text : Str}
    {left right : Interval}
    (leftNames : Names int text left) (rightNames : Names int text right) :
    left = right := by
  by_cases hyphen : '-' ∈ text
  · obtain ⟨before, after, rfl, noHyphen⟩ := exists_first_separator hyphen
    obtain ⟨leftFirst, leftLast⟩ := (names_range_iff noHyphen).mp leftNames
    obtain ⟨rightFirst, rightLast⟩ := (names_range_iff noHyphen).mp rightNames
    apply Interval.ext
    · exact Option.some.inj (leftFirst.symm.trans rightFirst)
    · exact Option.some.inj (leftLast.symm.trans rightLast)
  · obtain ⟨cpu, accepted, rfl⟩ := (names_number_iff hyphen).mp leftNames
    obtain ⟨again, acceptedAgain, rfl⟩ :=
      (names_number_iff hyphen).mp rightNames
    rw [Option.some.inj (accepted.symm.trans acceptedAgain)]

theorem Reads.unique {int : Str → Option Int} {text : Str}
    {left right : CpuRule}
    (leftReads : Reads int text left) (rightReads : Reads int text right) :
    left = right := by
  cases leftReads with
  | plain noCaret names =>
      cases rightReads with
      | plain _ namesAgain => rw [names.unique namesAgain]
      | caret => simp at noCaret
  | caret names =>
      cases rightReads with
      | plain noCaret => simp at noCaret
      | caret namesAgain => rw [names.unique namesAgain]

section SplitCaret

theorem splitCaret_of_head {text : Str} (noCaret : text.head? ≠ some '^') :
    splitCaret text = (false, text) := by
  unfold splitCaret
  split
  · simp at noCaret
  · rfl

theorem splitCaret_append_hyphen (before after : Str) :
    splitCaret (before ++ '-' :: after) =
      ((splitCaret before).1, (splitCaret before).2 ++ '-' :: after) := by
  by_cases caret : before.head? = some '^'
  · obtain ⟨rest, rfl⟩ := List.head?_eq_some_iff.mp caret
    rfl
  · have noCaret : (before ++ '-' :: after).head? ≠ some '^' := by
      cases before with
      | nil => simp
      | cons head tail => exact caret
    rw [splitCaret_of_head caret, splitCaret_of_head noCaret]

theorem hyphen_mem_splitCaret (text : Str) :
    '-' ∈ (splitCaret text).2 ↔ '-' ∈ text := by
  unfold splitCaret
  split <;> simp

theorem reads_iff {int : Str → Option Int} {text : Str} {cpuRule : CpuRule} :
    Reads int text cpuRule ↔
      cpuRule.reject = (splitCaret text).1 ∧
        Names int (splitCaret text).2 cpuRule.interval := by
  constructor
  · intro reads
    cases reads with
    | plain noCaret names =>
        rw [splitCaret_of_head noCaret]
        exact ⟨rfl, names⟩
    | caret names => exact ⟨rfl, names⟩
  · obtain ⟨reject, interval⟩ := cpuRule
    intro ⟨flag, names⟩
    by_cases caret : text.head? = some '^'
    · obtain ⟨rest, rfl⟩ := List.head?_eq_some_iff.mp caret
      cases flag
      exact .caret names
    · rw [splitCaret_of_head caret] at flag names
      cases flag
      exact .plain caret names

end SplitCaret

/-- The sets with the given rules added to them. -/
def CpuSets.add (sets : CpuSets) (cpuRules : List CpuRule) : CpuSets :=
  ⟨sets.cpusetIds ∪ gather false (cpuRules.map CpuRule.rule),
    sets.cpusetRejectIds ∪ gather true (cpuRules.map CpuRule.rule)⟩

namespace CpuSets

@[simp] theorem add_nil (sets : CpuSets) : sets.add [] = sets := by
  simp [add]

theorem add_cons (sets : CpuSets) (cpuRule : CpuRule)
    (cpuRules : List CpuRule) :
    sets.add (cpuRule :: cpuRules) = (sets.add [cpuRule]).add cpuRules := by
  obtain ⟨reject, interval⟩ := cpuRule
  cases reject <;> simp [add, gather, CpuRule.rule, Finset.union_assoc]

theorem add_kept (sets : CpuSets) (interval : Interval) :
    sets.add [⟨false, interval⟩] =
      { sets with cpusetIds := sets.cpusetIds ∪ interval.cpus } := by
  simp [add, gather, CpuRule.rule]

theorem add_rejected (sets : CpuSets) (interval : Interval) :
    sets.add [⟨true, interval⟩] =
      { sets with
        cpusetRejectIds := sets.cpusetRejectIds ∪ interval.cpus } := by
  simp [add, gather, CpuRule.rule]

end CpuSets

section Step

variable (int : Str → Option Int) (spec : Str) (sets : CpuSets)

theorem applyRule_blank {piece : Str} (blank : strip piece = []) :
    applyRule int spec sets piece = .ok sets := by
  simp [applyRule, blank, pure, Except.pure]

theorem applyRange_accepted {before after : Str} {first last : Int}
    (acceptedFirst : int (strip (splitCaret before).2) = some first)
    (acceptedLast : int (strip after) = some last) (ordered : first ≤ last) :
    applyRange int spec sets before after =
      .ok (sets.add
        [⟨(splitCaret before).1, ⟨first, last, ordered⟩⟩]) := by
  have notReversed : ¬ last < first := not_lt.mpr ordered
  cases flag : (splitCaret before).1 with
  | false =>
      rw [CpuSets.add_kept, Interval.cpus]
      simp [applyRange, toInt, acceptedFirst, acceptedLast, orInvalidCPUSpec,
        notReversed, flag, bind, Except.bind, pure, Except.pure]
  | true =>
      rw [CpuSets.add_rejected, Interval.cpus]
      simp [applyRange, toInt, acceptedFirst, acceptedLast, orInvalidCPUSpec,
        notReversed, flag, bind, Except.bind, pure, Except.pure]

theorem applyRange_invalid {before after : Str}
    (refused : ∀ first last, int (strip (splitCaret before).2) = some first →
      int (strip after) = some last → last < first) :
    applyRange int spec sets before after = raiseInvalidCPUSpec spec := by
  cases start : int (strip (splitCaret before).2) with
  | none =>
      simp [applyRange, toInt, start, orInvalidCPUSpec, raiseInvalidCPUSpec,
        bind, Except.bind]
  | some first =>
      cases stop : int (strip after) with
      | none =>
          simp [applyRange, toInt, start, stop, orInvalidCPUSpec,
            raiseInvalidCPUSpec, bind, Except.bind]
      | some last =>
          have reversed := refused first last start stop
          simp [applyRange, toInt, start, stop, orInvalidCPUSpec, reversed,
            bind, Except.bind, pure, Except.pure]

theorem applyRule_range {piece before after : Str}
    (shape : strip piece = before ++ '-' :: after) (noHyphen : '-' ∉ before) :
    applyRule int spec sets piece =
      applyRange int spec sets before after := by
  simp [applyRule, shape, splitOnce_append noHyphen]

theorem applyRule_number {piece : Str} (nonblank : strip piece ≠ [])
    (noHyphen : '-' ∉ strip piece) :
    applyRule int spec sets piece =
      match int (strip (splitCaret (strip piece)).2) with
      | some cpu =>
          .ok (sets.add
            [⟨(splitCaret (strip piece)).1, Interval.point cpu⟩])
      | none => raiseInvalidCPUSpec spec := by
  by_cases caret : (strip piece).head? = some '^'
  · obtain ⟨rest, shape⟩ := List.head?_eq_some_iff.mp caret
    have unsplit := splitOnce_of_not_mem noHyphen
    rw [shape] at unsplit
    cases converted : int (strip rest) with
    | none =>
        simp [applyRule, shape, unsplit, splitCaret, firstCharacter, toInt,
          converted, orInvalidCPUSpec, raiseInvalidCPUSpec, bind, Except.bind]
    | some cpu =>
        simp [applyRule, shape, unsplit, splitCaret, firstCharacter, toInt,
          converted, orInvalidCPUSpec, bind, Except.bind, pure, Except.pure,
          CpuSets.add_rejected, Interval.cpus_point]
  · obtain ⟨head, rest, shape⟩ := List.exists_cons_of_ne_nil nonblank
    have unsplit := splitOnce_of_not_mem noHyphen
    have stripped : strip (head :: rest) = head :: rest := by
      rw [← shape, strip_strip]
    rw [splitCaret_of_head caret]
    rw [shape] at unsplit caret ⊢
    have noCaret : head ≠ '^' := by simpa using caret
    rw [stripped]
    cases converted : int (head :: rest) with
    | none =>
        simp [applyRule, shape, unsplit, firstCharacter, noCaret, toInt,
          converted, orInvalidCPUSpec, raiseInvalidCPUSpec, bind, Except.bind]
    | some cpu =>
        simp [applyRule, shape, unsplit, firstCharacter, noCaret, toInt,
          converted, orInvalidCPUSpec, bind, Except.bind, pure, Except.pure,
          CpuSets.add_kept, Interval.cpus_point]

/-- A rule that reads is added to the sets. -/
theorem applyRule_reads {piece : Str} {cpuRule : CpuRule}
    (nonblank : strip piece ≠ []) (reads : Reads int (strip piece) cpuRule) :
    applyRule int spec sets piece = .ok (sets.add [cpuRule]) := by
  obtain ⟨reject, interval⟩ := cpuRule
  obtain ⟨flag, names⟩ := reads_iff.mp reads
  simp only at flag names
  subst flag
  by_cases hyphen : '-' ∈ strip piece
  · obtain ⟨before, after, shape, noHyphen⟩ := exists_first_separator hyphen
    rw [shape, splitCaret_append_hyphen] at names ⊢
    have noHyphenLeft : '-' ∉ (splitCaret before).2 :=
      fun member => noHyphen ((hyphen_mem_splitCaret before).mp member)
    obtain ⟨acceptedFirst, acceptedLast⟩ :=
      (names_range_iff noHyphenLeft).mp names
    rw [applyRule_range int spec sets shape noHyphen]
    exact applyRange_accepted int spec sets acceptedFirst acceptedLast
      interval.ordered
  · have noHyphen : '-' ∉ (splitCaret (strip piece)).2 :=
      fun member => hyphen ((hyphen_mem_splitCaret _).mp member)
    obtain ⟨cpu, accepted, rfl⟩ := (names_number_iff noHyphen).mp names
    rw [applyRule_number int spec sets nonblank hyphen, accepted]

/-- A rule outside the grammar ends the loop with `InvalidCPUSpec`. -/
theorem applyRule_invalid {piece : Str} (nonblank : strip piece ≠ [])
    (unread : ∀ cpuRule, ¬ Reads int (strip piece) cpuRule) :
    applyRule int spec sets piece = raiseInvalidCPUSpec spec := by
  by_cases hyphen : '-' ∈ strip piece
  · obtain ⟨before, after, shape, noHyphen⟩ := exists_first_separator hyphen
    rw [applyRule_range int spec sets shape noHyphen]
    apply applyRange_invalid
    intro first last acceptedFirst acceptedLast
    by_contra notReversed
    have ordered : first ≤ last := not_lt.mp notReversed
    apply unread ⟨(splitCaret before).1, ⟨first, last, ordered⟩⟩
    rw [reads_iff, shape, splitCaret_append_hyphen]
    refine ⟨rfl, .range ?_ acceptedFirst acceptedLast ordered⟩
    exact fun member => noHyphen ((hyphen_mem_splitCaret before).mp member)
  · rw [applyRule_number int spec sets nonblank hyphen]
    cases accepted : int (strip (splitCaret (strip piece)).2) with
    | none => rfl
    | some cpu =>
        refine absurd (reads_iff.mpr ⟨rfl, .number ?_ accepted⟩)
          (unread ⟨(splitCaret (strip piece)).1, Interval.point cpu⟩)
        exact fun member => hyphen ((hyphen_mem_splitCaret _).mp member)

end Step

section Loop

variable {int : Str → Option Int} {spec : Str}

theorem foldlM_applyRule_reads {pieces : List Str} {cpuRules : List CpuRule}
    (reads : List.Forall₂ (Reads int)
      ((pieces.map strip).filter (· ≠ [])) cpuRules)
    (sets : CpuSets) :
    pieces.foldlM (applyRule int spec) sets = .ok (sets.add cpuRules) := by
  induction pieces generalizing sets cpuRules with
  | nil =>
      cases reads
      rw [CpuSets.add_nil]
      rfl
  | cons piece pieces induction =>
      by_cases blank : strip piece = []
      · simp only [List.map_cons, blank, ne_eq, not_true, decide_false,
          Bool.false_eq_true, not_false_eq_true, List.filter_cons_of_neg]
          at reads
        rw [List.foldlM_cons, applyRule_blank int spec sets blank]
        exact induction reads sets
      · simp only [List.map_cons, ne_eq, blank, not_false_eq_true,
          decide_true, List.filter_cons_of_pos] at reads
        cases reads with
        | @cons _ cpuRule _ cpuRules headReads tailReads =>
            rw [List.foldlM_cons, CpuSets.add_cons sets cpuRule cpuRules,
              applyRule_reads int spec sets blank headReads]
            exact induction tailReads (sets.add [cpuRule])

theorem foldlM_applyRule_invalid {pieces : List Str} {piece : Str}
    (member : piece ∈ pieces) (nonblank : strip piece ≠ [])
    (unread : ∀ cpuRule, ¬ Reads int (strip piece) cpuRule)
    (sets : CpuSets) :
    pieces.foldlM (applyRule int spec) sets = raiseInvalidCPUSpec spec := by
  induction pieces generalizing sets with
  | nil => simp at member
  | cons head pieces induction =>
      rw [List.foldlM_cons]
      by_cases blank : strip head = []
      · rw [applyRule_blank int spec sets blank]
        rcases List.mem_cons.mp member with rfl | later
        · exact absurd blank nonblank
        · exact induction later sets
      · by_cases headReads : ∃ cpuRule, Reads int (strip head) cpuRule
        · obtain ⟨cpuRule, reads⟩ := headReads
          rw [applyRule_reads int spec sets blank reads]
          rcases List.mem_cons.mp member with rfl | later
          · exact absurd reads (unread cpuRule)
          · exact induction later (sets.add [cpuRule])
        · rw [applyRule_invalid int spec sets blank
            (not_exists.mp headReads)]
          rfl

theorem parseCpuSpec_reads {cpuRules : List CpuRule}
    (reads : List.Forall₂ (Reads int) (ruleTexts spec) cpuRules) :
    parseCpuSpec int spec = .ok (select (cpuRules.map CpuRule.rule)) := by
  unfold parseCpuSpec
  rw [foldlM_applyRule_reads reads]
  simp [CpuSets.add, select, bind, Except.bind, pure, Except.pure]

theorem mem_ruleTexts {text : Str} :
    text ∈ ruleTexts spec ↔
      (∃ piece ∈ split ',' spec, strip piece = text) ∧ text ≠ [] := by
  simp [ruleTexts]

theorem parseCpuSpec_invalid {text : Str} (member : text ∈ ruleTexts spec)
    (unread : ∀ cpuRule, ¬ Reads int text cpuRule) :
    parseCpuSpec int spec = raiseInvalidCPUSpec spec := by
  obtain ⟨⟨piece, inSpec, rfl⟩, nonblank⟩ := mem_ruleTexts.mp member
  unfold parseCpuSpec
  rw [foldlM_applyRule_invalid inSpec nonblank unread]
  rfl

/-- The rules of comma-joined specifications are their rules in order. -/
theorem ruleTexts_join (specs : List Str) :
    ruleTexts (join ',' specs) = specs.flatMap ruleTexts := by
  cases specs with
  | nil => rfl
  | cons spec specs =>
      unfold ruleTexts
      rw [split_join, List.map_flatMap, List.filter_flatMap]

theorem grammatical_iff :
    Grammatical int spec ↔
      ∀ text ∈ ruleTexts spec, ∃ cpuRule, Reads int text cpuRule := by
  simp [Grammatical, ruleTexts]

theorem covers_iff {reject : Bool} {x : Int} :
    Covers int reject spec x ↔
      ∃ text ∈ ruleTexts spec, ∃ interval,
        Reads int text ⟨reject, interval⟩ ∧
          interval.first ≤ x ∧ x ≤ interval.last := by
  simp [Covers, ruleTexts, and_assoc]

theorem grammatical_join {specs : List Str} :
    Grammatical int (join ',' specs) ↔
      ∀ spec ∈ specs, Grammatical int spec := by
  simp only [grammatical_iff, ruleTexts_join, List.mem_flatMap]
  constructor
  · intro readable spec member text inSpec
    exact readable text ⟨spec, member, inSpec⟩
  · intro readable text ⟨spec, member, inSpec⟩
    exact readable spec member text inSpec

theorem covers_join {specs : List Str} {reject : Bool} {x : Int} :
    Covers int reject (join ',' specs) x ↔
      ∃ spec ∈ specs, Covers int reject spec x := by
  simp only [covers_iff, ruleTexts_join, List.mem_flatMap]
  constructor
  · intro ⟨text, ⟨spec, member, inSpec⟩, covered⟩
    exact ⟨spec, member, text, inSpec, covered⟩
  · intro ⟨spec, member, text, inSpec, covered⟩
    exact ⟨text, ⟨spec, member, inSpec⟩, covered⟩

theorem not_covers_of_no_caret (noCaret : '^' ∉ spec) (x : Int) :
    ¬ Covers int true spec x := by
  intro ⟨piece, member, _, interval, reads, _⟩
  generalize shape : strip piece = text at reads
  cases reads with
  | caret =>
      have caret : '^' ∈ strip piece := by simp [shape]
      exact noCaret (mem_of_mem_split member (mem_of_mem_trim caret))

theorem exists_readings {texts : List Str}
    (readable : ∀ text ∈ texts, ∃ cpuRule, Reads int text cpuRule) :
    ∃ cpuRules, List.Forall₂ (Reads int) texts cpuRules := by
  induction texts with
  | nil => exact ⟨[], .nil⟩
  | cons text texts induction =>
      obtain ⟨cpuRule, headReads⟩ := readable text (by simp)
      obtain ⟨cpuRules, tailReads⟩ :=
        induction fun other member => readable other (by simp [member])
      exact ⟨cpuRule :: cpuRules, .cons headReads tailReads⟩

theorem mem_readings_iff {texts : List Str} {cpuRules : List CpuRule}
    (reads : List.Forall₂ (Reads int) texts cpuRules) {cpuRule : CpuRule} :
    cpuRule ∈ cpuRules ↔ ∃ text ∈ texts, Reads int text cpuRule := by
  induction reads with
  | nil => simp
  | @cons text head texts cpuRules headReads _ induction =>
      simp only [List.mem_cons, exists_eq_or_imp, induction]
      have readsHead : cpuRule = head ↔ Reads int text cpuRule := by
        constructor
        · rintro rfl
          exact headReads
        · intro again
          exact again.unique headReads
      rw [readsHead]

/-- What the rules of a specification gather is what its pieces cover. -/
theorem mem_gather_readings {cpuRules : List CpuRule}
    (reads : List.Forall₂ (Reads int) (ruleTexts spec) cpuRules)
    {reject : Bool} {x : Int} :
    x ∈ gather reject (cpuRules.map CpuRule.rule) ↔
      Covers int reject spec x := by
  rw [mem_gather, covers_iff]
  constructor
  · intro ⟨rule, member, flag, inside⟩
    obtain ⟨⟨_, interval⟩, inRules, rfl⟩ := List.mem_map.mp member
    cases flag
    obtain ⟨text, inTexts, textReads⟩ := (mem_readings_iff reads).mp inRules
    exact ⟨text, inTexts, interval, textReads, Interval.mem_cpus.mp inside⟩
  · intro ⟨text, inTexts, interval, textReads, inside⟩
    have inRules := (mem_readings_iff reads).mpr ⟨text, inTexts, textReads⟩
    exact ⟨_, List.mem_map_of_mem inRules, rfl, Interval.mem_cpus.mpr inside⟩

theorem parseCpuSpec_ungrammatical (broken : ¬ Grammatical int spec) :
    parseCpuSpec int spec = raiseInvalidCPUSpec spec := by
  rw [grammatical_iff] at broken
  push Not at broken
  obtain ⟨text, member, unread⟩ := broken
  exact parseCpuSpec_invalid member unread

/-- The parser accepts exactly the specifications all of whose rules read, and
returns what these rules select. -/
theorem parseCpuSpec_ok_iff {cpus : Finset Int} :
    parseCpuSpec int spec = .ok cpus ↔
      ∃ cpuRules, List.Forall₂ (Reads int) (ruleTexts spec) cpuRules ∧
        cpus = select (cpuRules.map CpuRule.rule) := by
  constructor
  · intro accepted
    by_cases grammatical : Grammatical int spec
    · obtain ⟨cpuRules, reads⟩ :=
        exists_readings (grammatical_iff.mp grammatical)
      rw [parseCpuSpec_reads reads] at accepted
      injection accepted with same
      exact ⟨cpuRules, reads, same.symm⟩
    · rw [parseCpuSpec_ungrammatical grammatical] at accepted
      cases accepted
  · intro ⟨cpuRules, reads, result⟩
    rw [result]
    exact parseCpuSpec_reads reads

theorem parseCpuSpec_isOk_iff :
    (∃ cpus, parseCpuSpec int spec = .ok cpus) ↔ Grammatical int spec := by
  constructor
  · intro ⟨cpus, accepted⟩
    by_contra broken
    rw [parseCpuSpec_ungrammatical broken] at accepted
    cases accepted
  · intro grammatical
    obtain ⟨cpuRules, reads⟩ :=
      exists_readings (grammatical_iff.mp grammatical)
    exact ⟨_, parseCpuSpec_reads reads⟩

theorem mem_parseCpuSpec {cpus : Finset Int}
    (accepted : parseCpuSpec int spec = .ok cpus) {x : Int} :
    x ∈ cpus ↔ Covers int false spec x ∧ ¬ Covers int true spec x := by
  obtain ⟨cpuRules, reads, rfl⟩ := parseCpuSpec_ok_iff.mp accepted
  rw [mem_select, mem_gather_readings reads, mem_gather_readings reads]

/-- Specifications with the same non-blank rules are accepted with the same
result. -/
theorem parseCpuSpec_congr {other : Str}
    (same : ∀ text, text ∈ ruleTexts other ↔ text ∈ ruleTexts spec)
    {cpus : Finset Int} (accepted : parseCpuSpec int spec = .ok cpus) :
    parseCpuSpec int other = .ok cpus := by
  have grammatical := parseCpuSpec_isOk_iff.mp ⟨cpus, accepted⟩
  have otherGrammatical : Grammatical int other := by
    rw [grammatical_iff] at grammatical ⊢
    intro text member
    exact grammatical text ((same text).mp member)
  obtain ⟨otherCpus, otherAccepted⟩ :=
    parseCpuSpec_isOk_iff.mpr otherGrammatical
  have coversSame (reject : Bool) (x : Int) :
      Covers int reject other x ↔ Covers int reject spec x := by
    simp only [covers_iff, same]
  have equality : otherCpus = cpus := by
    ext x
    rw [mem_parseCpuSpec otherAccepted, mem_parseCpuSpec accepted,
      coversSame, coversSame]
  rw [otherAccepted, equality]

end Loop

/-- `parse_cpu_spec` accepts its grammar and nothing else, returns what the
plain pieces cover and the caret pieces do not, and otherwise raises
`InvalidCPUSpec`. -/
theorem parseCpuSpec_correct (int : Str → Option Int) (spec : Str) :
    ((∃ cpus, parseCpuSpec int spec = .ok cpus) ↔ Grammatical int spec) ∧
    (∀ cpus, parseCpuSpec int spec = .ok cpus →
      ∀ x, x ∈ cpus ↔
        Covers int false spec x ∧ ¬ Covers int true spec x) ∧
    (∀ other, (∀ text, text ∈ ruleTexts other ↔ text ∈ ruleTexts spec) →
      ∀ cpus, parseCpuSpec int spec = .ok cpus →
        parseCpuSpec int other = .ok cpus) ∧
    (¬ Grammatical int spec →
      parseCpuSpec int spec = raiseInvalidCPUSpec spec) := by
  refine ⟨parseCpuSpec_isOk_iff, ?_, ?_, parseCpuSpec_ungrammatical⟩
  · intro cpus accepted x
    exact mem_parseCpuSpec accepted
  · intro other same cpus accepted
    exact parseCpuSpec_congr same accepted

end Whitebox.Hardware
