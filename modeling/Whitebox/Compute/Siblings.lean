import Whitebox.Collection.Association
import Whitebox.Compute.ServerPinning

/-!
# Thread siblings

`get_siblings_list` reads the siblings of a CPU as libvirt prints them, such as
`0-2,3,9`.  Every text that it accepts is a CPU set specification of the same
CPUs, unless a range in it runs backwards.
-/

namespace Whitebox.Compute

open Whitebox.Python
open Whitebox.Hardware
open Whitebox.Association
open Whitebox.Effect.Fallible
open Whitebox.Selection (mem_gather mem_select)

/-- `start_sib, end_sib = sub_sib.split('-')`. -/
def unpackPair : List Str → Except SpecError (Str × Str)
  | [start, stop] => .ok (start, stop)
  | _ => .error .valueError

/-- One turn of the loop over `sib.split(',')`. -/
def addSiblings (siblings : List Int) (subSib : Str) :
    Except SpecError (List Int) :=
  if '-' ∈ subSib then do
    let (startSib, endSib) ← unpackPair (split '-' subSib)
    let start ← toInt int startSib
    let stop ← toInt int endSib
    pure (siblings ++ Int.range start (stop + 1))
  else do
    let cpu ← toInt int subSib
    pure (siblings ++ [cpu])

def getSiblingsList (sib : Str) : Except SpecError (List Int) :=
  (split ',' sib).foldlM addSiblings []

/-- A first and a last CPU, in any order. -/
structure Span where
  first : Int
  last : Int

def Span.cpus (span : Span) : List Int :=
  Int.range span.first (span.last + 1)

/-- The pieces that `get_siblings_list` accepts. -/
inductive Spans : Str → Span → Prop
  | number {text : Str} {cpu : Int}
      (noHyphen : '-' ∉ text)
      (accepted : int text = some cpu) :
      Spans text ⟨cpu, cpu⟩
  | range {before after : Str} {first last : Int}
      (noHyphenBefore : '-' ∉ before)
      (noHyphenAfter : '-' ∉ after)
      (acceptedFirst : int before = some first)
      (acceptedLast : int after = some last) :
      Spans (before ++ '-' :: after) ⟨first, last⟩

section Pieces

theorem exists_related_of_mem {related : α → β → Prop} {lefts : List α}
    {rights : List β} (pairs : List.Forall₂ related lefts rights) {left : α}
    (member : left ∈ lefts) : ∃ right ∈ rights, related left right := by
  induction pairs with
  | nil => cases member
  | @cons head right _ rights holds _ induction =>
      rcases List.mem_cons.mp member with rfl | later
      · exact ⟨right, List.mem_cons_self, holds⟩
      · obtain ⟨found, inRights, foundHolds⟩ := induction later
        exact ⟨found, List.mem_cons_of_mem right inRights, foundHolds⟩

theorem mem_cpus_iff {span : Span} {cpu : Int} :
    cpu ∈ span.cpus ↔ span.first ≤ cpu ∧ cpu ≤ span.last := by
  rw [Span.cpus, Int.mem_range_iff, Int.lt_add_one_iff]

theorem toInt_eq_ok_iff {text : Str} {number : Int} :
    toInt int text = .ok number ↔ int text = some number := by
  cases read : int text with
  | none => simp [toInt, read]
  | some value => simp [toInt, read]

theorem cpus_point (cpu : Int) : Span.cpus ⟨cpu, cpu⟩ = [cpu] := by
  simp [Span.cpus, Int.range]

theorem unpackPair_split_eq_ok_iff {text start stop : Str} :
    unpackPair (split '-' text) = .ok (start, stop) ↔
      text = start ++ '-' :: stop ∧ '-' ∉ start ∧ '-' ∉ stop := by
  constructor
  · intro unpacked
    have parts : split '-' text = [start, stop] := by
      unfold unpackPair at unpacked
      split at unpacked
      · cases unpacked
        assumption
      · cases unpacked
    have joined : join '-' (split '-' text) = text :=
      List.intercalate_splitOn '-'
    have pieces : start ∈ split '-' text ∧ stop ∈ split '-' text := by
      simp [parts]
    refine ⟨?_, notMem_of_mem_split pieces.1, notMem_of_mem_split pieces.2⟩
    rw [parts, join_cons_cons, join_singleton] at joined
    exact joined.symm
  · rintro ⟨rfl, noHyphenStart, noHyphenStop⟩
    rw [split_append, split_of_not_mem noHyphenStart,
      split_of_not_mem noHyphenStop]
    rfl

/-- A turn of the loop adds the CPUs that its piece spans. -/
theorem addSiblings_eq_ok_iff {siblings next : List Int} {subSib : Str} :
    addSiblings siblings subSib = .ok next ↔
      ∃ span, Spans subSib span ∧ next = siblings ++ span.cpus := by
  unfold addSiblings
  constructor
  · intro added
    split at added
    · obtain ⟨⟨startSib, endSib⟩, unpacked, rest⟩ := bind_eq_ok_iff.mp added
      obtain ⟨start, readStart, rest⟩ := bind_eq_ok_iff.mp rest
      obtain ⟨stop, readStop, returned⟩ := bind_eq_ok_iff.mp rest
      obtain ⟨rfl, noHyphenStart, noHyphenStop⟩ :=
        unpackPair_split_eq_ok_iff.mp unpacked
      cases returned
      exact ⟨⟨start, stop⟩, .range noHyphenStart noHyphenStop
        (toInt_eq_ok_iff.mp readStart) (toInt_eq_ok_iff.mp readStop), rfl⟩
    · rename_i noHyphen
      obtain ⟨cpu, read, returned⟩ := bind_eq_ok_iff.mp added
      cases returned
      refine ⟨⟨cpu, cpu⟩, .number noHyphen (toInt_eq_ok_iff.mp read), ?_⟩
      rw [cpus_point]
  · rintro ⟨span, spans, rfl⟩
    cases spans with
    | number noHyphen accepted =>
        rw [if_neg noHyphen, toInt_eq_ok_iff.mpr accepted, cpus_point]
        rfl
    | range noHyphenBefore noHyphenAfter acceptedFirst acceptedLast =>
        rw [if_pos (by simp), unpackPair_split_eq_ok_iff.mpr
          ⟨rfl, noHyphenBefore, noHyphenAfter⟩]
        change (do
          let start ← toInt int _
          let stop ← toInt int _
          pure (siblings ++ Int.range start (stop + 1))) = _
        rw [toInt_eq_ok_iff.mpr acceptedFirst,
          toInt_eq_ok_iff.mpr acceptedLast]
        rfl

theorem foldlM_addSiblings_eq_ok_iff {siblings result : List Int}
    {pieces : List Str} :
    pieces.foldlM addSiblings siblings = .ok result ↔
      ∃ spans, List.Forall₂ Spans pieces spans ∧
        result = siblings ++ spans.flatMap Span.cpus := by
  induction pieces generalizing siblings with
  | nil =>
      constructor
      · intro returned
        cases returned
        exact ⟨[], .nil, by simp⟩
      · rintro ⟨spans, reads, rfl⟩
        cases reads
        rw [List.flatMap_nil, List.append_nil]
        rfl
  | cons piece pieces induction =>
      rw [foldlM_cons_eq_ok_iff]
      constructor
      · rintro ⟨next, added, returned⟩
        obtain ⟨span, spans, rfl⟩ := addSiblings_eq_ok_iff.mp added
        obtain ⟨others, reads, rfl⟩ := induction.mp returned
        exact ⟨span :: others, .cons spans reads, by simp⟩
      · rintro ⟨spans, reads, rfl⟩
        cases reads with
        | @cons _ span _ others headSpans tailSpans =>
            refine ⟨siblings ++ span.cpus,
              addSiblings_eq_ok_iff.mpr ⟨span, headSpans, rfl⟩, ?_⟩
            exact induction.mpr ⟨others, tailSpans, by simp⟩

/-- The list holds the CPUs of the pieces, one piece after the other. -/
theorem getSiblingsList_eq_ok_iff {sib : Str} {siblings : List Int} :
    getSiblingsList sib = .ok siblings ↔
      ∃ spans, List.Forall₂ Spans (split ',' sib) spans ∧
        siblings = spans.flatMap Span.cpus :=
  foldlM_addSiblings_eq_ok_iff

end Pieces

section Specification

/-- The rule of an ordered span. -/
def Span.rule (span : Span) (ordered : span.first ≤ span.last) : CpuRule :=
  ⟨false, span.first, span.last, ordered⟩

theorem strip_ne_nil_of_int {text : Str} {number : Int}
    (accepted : int text = some number) : strip text ≠ [] := by
  intro blank
  have stripped := int_strip accepted
  rw [blank, int_nil] at stripped
  cases stripped

theorem int_strip_dropWhile {text : Str} {number : Int}
    (accepted : int text = some number) :
    int (strip (text.dropWhile isSpace)) = some number := by
  rw [strip_dropWhile fun _ space => space]
  exact int_strip accepted

theorem int_strip_rdropWhile {text : Str} {number : Int}
    (accepted : int text = some number) :
    int (strip (text.rdropWhile isSpace)) = some number := by
  rw [strip_rdropWhile]
  exact int_strip accepted

/-- A caret that starts an accepted text would be left by `strip`. -/
theorem head_ne_caret_of_int {text : Str} {number : Int}
    (accepted : int text = some number) (rest : Str) :
    (text.dropWhile isSpace ++ rest).head? ≠ some '^' := by
  intro caret
  cases kept : text.dropWhile isSpace with
  | nil =>
      refine strip_ne_nil_of_int accepted ?_
      rw [strip, trim, kept]
      rfl
  | cons c tail =>
      rw [kept, List.cons_append, List.head?_cons, Option.some.injEq] at caret
      subst caret
      refine caret_notMem_of_int accepted ?_
      rw [strip, trim, kept]
      have first := rdropWhile_append_cons (c := '^') (by decide) [] tail
      rw [List.nil_append, List.nil_append] at first
      rw [first]
      exact List.mem_cons_self

theorem names_strip_range_iff {before after : Str} {first last : Int}
    {interval : Interval} (noHyphen : '-' ∉ before)
    (acceptedFirst : int before = some first)
    (acceptedLast : int after = some last) :
    Names int (strip (before ++ '-' :: after)) interval ↔
      first = interval.first ∧ last = interval.last := by
  have kept : '-' ∉ before.dropWhile isSpace := fun member =>
    noHyphen ((List.dropWhile_suffix isSpace).subset member)
  rw [strip_append_cons (by decide), names_range_iff kept,
    int_strip_dropWhile acceptedFirst, int_strip_rdropWhile acceptedLast,
    Option.some.injEq, Option.some.injEq]

theorem head_strip_ne_caret_of_spans {text : Str} {span : Span}
    (spans : Spans text span) : (strip text).head? ≠ some '^' := by
  cases spans with
  | number _ accepted =>
      intro caret
      exact caret_notMem_of_int accepted (List.mem_of_mem_head? caret)
  | range _ _ acceptedFirst _ =>
      rw [strip_append_cons (by decide)]
      exact head_ne_caret_of_int acceptedFirst _

theorem strip_ne_nil_of_spans {text : Str} {span : Span}
    (spans : Spans text span) : strip text ≠ [] := by
  cases spans with
  | number _ accepted => exact strip_ne_nil_of_int accepted
  | range =>
      rw [strip_append_cons (by decide)]
      simp

/-- As a rule of a specification, a piece is a plain interval of its first and
last CPU. -/
theorem reads_strip_iff {text : Str} {span : Span} (spans : Spans text span)
    {cpuRule : CpuRule} :
    Reads int (strip text) cpuRule ↔
      cpuRule.reject = false ∧ cpuRule.interval.first = span.first ∧
        cpuRule.interval.last = span.last := by
  rw [reads_iff, splitCaret_of_head (head_strip_ne_caret_of_spans spans)]
  refine and_congr_right fun _ => ?_
  change Names int (strip text) cpuRule.interval ↔ _
  cases spans with
  | @number _ cpu noHyphen accepted =>
      have kept : '-' ∉ strip text := fun member =>
        noHyphen (mem_of_mem_trim member)
      rw [names_number_iff kept, strip_strip, int_strip accepted]
      constructor
      · rintro ⟨other, same, point⟩
        cases same
        rw [point]
        exact ⟨rfl, rfl⟩
      · rintro ⟨first, last⟩
        exact ⟨cpu, rfl, Interval.ext first last⟩
  | range noHyphen _ acceptedFirst acceptedLast =>
      rw [names_strip_range_iff noHyphen acceptedFirst acceptedLast]
      exact and_congr eq_comm eq_comm

/-- A piece of the text is a range that runs backwards. -/
def Backwards (sib : Str) : Prop :=
  ∃ before after first last, before ++ '-' :: after ∈ split ',' sib ∧
    '-' ∉ before ∧ '-' ∉ after ∧ int before = some first ∧
    int after = some last ∧ last < first

theorem parseCpuSpec_of_backwards {sib : Str} (backwards : Backwards sib) :
    parseCpuSpec int sib = raiseInvalidCPUSpec sib := by
  obtain ⟨before, after, first, last, inSib, noHyphenBefore, noHyphenAfter,
    acceptedFirst, acceptedLast, less⟩ := backwards
  have spans : Spans (before ++ '-' :: after) ⟨first, last⟩ :=
    .range noHyphenBefore noHyphenAfter acceptedFirst acceptedLast
  have inTexts := mem_ruleTexts.mpr
    ⟨⟨_, inSib, rfl⟩, strip_ne_nil_of_spans spans⟩
  apply parseCpuSpec_invalid inTexts
  intro cpuRule reads
  obtain ⟨_, readFirst, readLast⟩ := (reads_strip_iff spans).mp reads
  have ordered := cpuRule.interval.ordered
  rw [readFirst, readLast] at ordered
  exact absurd ordered (not_le.mpr less)

variable {sib : Str} {spans : List Span}

theorem ordered_of_not_backwards
    (reads : List.Forall₂ Spans (split ',' sib) spans)
    (forwards : ¬ Backwards sib) :
    ∀ span ∈ spans, span.first ≤ span.last := by
  intro span member
  obtain ⟨piece, inSib, spanned⟩ :=
    exists_related_of_mem (List.Forall₂.flip reads) member
  cases spanned with
  | number => exact le_rfl
  | range noHyphenBefore noHyphenAfter acceptedFirst acceptedLast =>
      by_contra less
      exact forwards ⟨_, _, _, _, inSib, noHyphenBefore, noHyphenAfter,
        acceptedFirst, acceptedLast, not_le.mp less⟩

theorem not_covers_reject
    (reads : List.Forall₂ Spans (split ',' sib) spans) (cpu : Int) :
    ¬ Covers int true sib cpu := by
  rintro ⟨piece, inSib, _, interval, readsReject, _⟩
  obtain ⟨span, _, spanned⟩ := exists_related_of_mem reads inSib
  exact absurd ((reads_strip_iff spanned).mp readsReject).1 (by simp)

theorem covers_iff_mem_cpus
    (reads : List.Forall₂ Spans (split ',' sib) spans)
    (ordered : ∀ span ∈ spans, span.first ≤ span.last) (cpu : Int) :
    Covers int false sib cpu ↔ cpu ∈ spans.flatMap Span.cpus := by
  rw [List.mem_flatMap]
  constructor
  · rintro ⟨piece, inSib, _, interval, readsKeep, lower, upper⟩
    obtain ⟨span, inSpans, spanned⟩ := exists_related_of_mem reads inSib
    obtain ⟨_, first, last⟩ := (reads_strip_iff spanned).mp readsKeep
    refine ⟨span, inSpans, mem_cpus_iff.mpr ?_⟩
    rw [← first, ← last]
    exact ⟨lower, upper⟩
  · rintro ⟨span, inSpans, member⟩
    obtain ⟨piece, inSib, spanned⟩ :=
      exists_related_of_mem (List.Forall₂.flip reads) inSpans
    have rule : Reads int (strip piece) (span.rule (ordered span inSpans)) :=
      (reads_strip_iff spanned).mpr ⟨rfl, rfl, rfl⟩
    exact ⟨piece, inSib, strip_ne_nil_of_spans spanned, _, rule,
      mem_cpus_iff.mp member⟩

theorem parseCpuSpec_of_ordered
    (reads : List.Forall₂ Spans (split ',' sib) spans)
    (ordered : ∀ span ∈ spans, span.first ≤ span.last) :
    parseCpuSpec int sib = .ok (spans.flatMap Span.cpus).toFinset := by
  have grammatical : Grammatical int sib := by
    intro piece inSib _
    obtain ⟨span, inSpans, spanned⟩ := exists_related_of_mem reads inSib
    exact ⟨span.rule (ordered span inSpans),
      (reads_strip_iff spanned).mpr ⟨rfl, rfl, rfl⟩⟩
  obtain ⟨cpus, accepted⟩ := parseCpuSpec_isOk_iff.mpr grammatical
  rw [accepted]
  congr 1
  ext cpu
  rw [mem_parseCpuSpec accepted, covers_iff_mem_cpus reads ordered,
    List.mem_toFinset]
  exact and_iff_left (not_covers_reject reads cpu)

end Specification

section Libvirt

/-- A decimal number. -/
def Decimal (text : Str) : Prop :=
  text ≠ [] ∧ ∀ c ∈ text, c.isDigit = true

/-- A decimal number or a range of them. -/
inductive DecimalPiece : Str → Prop
  | number {text : Str} (decimal : Decimal text) : DecimalPiece text
  | range {before after : Str} (decimalBefore : Decimal before)
      (decimalAfter : Decimal after) : DecimalPiece (before ++ '-' :: after)

theorem Decimal.notMem {text : Str} (decimal : Decimal text) {c : Char}
    (notDigit : c.isDigit = false) : c ∉ text := by
  intro member
  rw [decimal.2 c member] at notDigit
  cases notDigit

theorem Decimal.int {text : Str} (decimal : Decimal text) :
    Python.int text = some (Nat.ofDigitChars 10 text 0 : Int) :=
  int_of_isDigit decimal.1 decimal.2

theorem DecimalPiece.noComma {text : Str} (piece : DecimalPiece text) :
    ',' ∉ text := by
  cases piece with
  | number decimal => exact decimal.notMem rfl
  | range decimalBefore decimalAfter =>
      simp [decimalBefore.notMem, decimalAfter.notMem]

theorem DecimalPiece.spans {text : Str} (piece : DecimalPiece text) :
    ∃ span, Spans text span := by
  cases piece with
  | number decimal => exact ⟨_, .number (decimal.notMem rfl) decimal.int⟩
  | range decimalBefore decimalAfter =>
      exact ⟨_, .range (decimalBefore.notMem rfl) (decimalAfter.notMem rfl)
        decimalBefore.int decimalAfter.int⟩

theorem exists_spans {texts : List Str}
    (pieces : ∀ text ∈ texts, DecimalPiece text) :
    ∃ spans, List.Forall₂ Spans texts spans := by
  induction texts with
  | nil => exact ⟨[], .nil⟩
  | cons text texts induction =>
      obtain ⟨span, headSpans⟩ := (pieces text (by simp)).spans
      obtain ⟨spans, tailSpans⟩ :=
        induction fun other member => pieces other (by simp [member])
      exact ⟨span :: spans, .cons headSpans tailSpans⟩

theorem getSiblingsList_join {texts : List Str} (nonempty : texts ≠ [])
    (pieces : ∀ text ∈ texts, DecimalPiece text) :
    ∃ siblings, getSiblingsList (join ',' texts) = .ok siblings := by
  have parts : split ',' (join ',' texts) = texts :=
    List.splitOn_intercalate ','
      (fun text member => (pieces text member).noComma) nonempty
  obtain ⟨spans, reads⟩ := exists_spans pieces
  refine ⟨_, getSiblingsList_eq_ok_iff.mpr ⟨spans, ?_, rfl⟩⟩
  rw [parts]
  exact reads

/-- Each piece ends before the next one starts. -/
def Ascending (sib : Str) : Prop :=
  ∃ spans, List.Forall₂ Spans (split ',' sib) spans ∧
    spans.Pairwise fun earlier later => earlier.last < later.first

theorem pairwise_cpus (span : Span) : span.cpus.Pairwise (· < ·) := by
  rw [Span.cpus, Int.range, List.pairwise_map]
  apply List.pairwise_lt_range.imp
  intro earlier later less
  omega

theorem getSiblingsList_pairwise {sib : Str} {siblings : List Int}
    (ascending : Ascending sib)
    (returned : getSiblingsList sib = .ok siblings) :
    siblings.Pairwise (· < ·) := by
  obtain ⟨spans, reads, apart⟩ := ascending
  rw [getSiblingsList_eq_ok_iff.mpr ⟨spans, reads, rfl⟩] at returned
  cases returned
  rw [List.pairwise_flatMap]
  refine ⟨fun span _ => pairwise_cpus span, apart.imp ?_⟩
  intro earlier later less x inEarlier y inLater
  have upper := (mem_cpus_iff.mp inEarlier).2
  have lower := (mem_cpus_iff.mp inLater).1
  omega

theorem notMem_erase_of_pairwise {siblings : List Int}
    (increasing : siblings.Pairwise (· < ·)) (cpu : Int) :
    cpu ∉ siblings.erase cpu := by
  have distinct : siblings.Nodup := increasing.imp fun less => ne_of_lt less
  exact distinct.not_mem_erase

/-- A strictly increasing list has each of its members once. -/
theorem count_of_pairwise {siblings : List Int}
    (increasing : siblings.Pairwise (· < ·)) {cpu : Int}
    (member : cpu ∈ siblings) : siblings.count cpu = 1 := by
  have distinct : siblings.Nodup := increasing.imp fun less => ne_of_lt less
  exact List.count_eq_one_of_mem distinct member

end Libvirt

/-- What `get_siblings_list` returns is the set that `parse_cpu_spec` reads in
the same text unless a range runs backwards; it returns on all lists of numbers
and ranges, and ascending ones it returns in strictly increasing order. -/
theorem getSiblingsList_agrees_with_parseCpuSpec :
    (∀ (sib : Str) (siblings : List Int),
      getSiblingsList sib = .ok siblings →
        (¬ Backwards sib →
          parseCpuSpec int sib = .ok siblings.toFinset) ∧
        (Backwards sib →
          parseCpuSpec int sib = raiseInvalidCPUSpec sib)) ∧
    (∀ texts : List Str, texts ≠ [] →
      (∀ text ∈ texts, DecimalPiece text) →
        ∃ siblings, getSiblingsList (join ',' texts) = .ok siblings) ∧
    (∀ (sib : Str) (siblings : List Int),
      getSiblingsList sib = .ok siblings → Ascending sib →
        siblings.Pairwise (· < ·) ∧
          ∀ cpu, cpu ∉ siblings.erase cpu) := by
  refine ⟨?_, ?_, ?_⟩
  · intro sib siblings returned
    refine ⟨?_, parseCpuSpec_of_backwards⟩
    intro forwards
    obtain ⟨spans, reads, rfl⟩ := getSiblingsList_eq_ok_iff.mp returned
    exact parseCpuSpec_of_ordered reads
      (ordered_of_not_backwards reads forwards)
  · intro texts nonempty pieces
    exact getSiblingsList_join nonempty pieces
  · intro sib siblings returned ascending
    have increasing := getSiblingsList_pairwise ascending returned
    exact ⟨increasing, notMem_erase_of_pairwise increasing⟩

example : getSiblingsList "0-2,3,4,5-6,9".toList =
    .ok [0, 1, 2, 3, 4, 5, 6, 9] := by
  decide

/-- A `cpu` element of the host capabilities with the attributes that are
read. -/
structure CpuElement where
  id : Option Str
  siblings : Option Str

/-- `self.get_siblings_list(cpu.get('siblings'))`. -/
def siblingsAttribute : Option Str → Except SpecError (List Int)
  | none => .error .attributeError
  | some sib => getSiblingsList sib

/-- A `dict` from CPUs to the CPUs of the same core. -/
abbrev SiblingMap := List (Int × List Int)

def addCpu (siblings : SiblingMap) (cpu : CpuElement) :
    Except SpecError SiblingMap := do
  let cpuId ← intAttribute cpu.id
  let list ← siblingsAttribute cpu.siblings
  pure (assign cpuId list siblings)

/-- `get_host_cpu_siblings`, given the `cpu` elements of each cell. -/
def getHostCpuSiblings (cpuCells : List (List CpuElement)) :
    Except SpecError SiblingMap :=
  cpuCells.foldlM (fun siblings cell => cell.foldlM addCpu siblings) []

/-- The element lists its own CPU in an ascending list, as libvirt does. -/
def CpuElement.SelfListing (cpu : CpuElement) : Prop :=
  ∀ cpuId sib siblings, cpu.id.bind int = some cpuId →
    cpu.siblings = some sib → getSiblingsList sib = .ok siblings →
      Ascending sib ∧ cpuId ∈ siblings

/-- Every CPU stands once in its own list. -/
def SelfOnce (siblings : SiblingMap) : Prop :=
  ∀ cpu list, siblings.lookup cpu = some list → list.count cpu = 1

theorem addCpu_selfOnce {siblings next : SiblingMap} {cpu : CpuElement}
    (selfListing : cpu.SelfListing) (once : SelfOnce siblings)
    (added : addCpu siblings cpu = .ok next) : SelfOnce next := by
  obtain ⟨cpuId, readId, rest⟩ := bind_eq_ok_iff.mp added
  obtain ⟨list, readList, returned⟩ := bind_eq_ok_iff.mp rest
  cases returned
  obtain ⟨sib, present, listed⟩ : ∃ sib, cpu.siblings = some sib ∧
      getSiblingsList sib = .ok list := by
    cases present : cpu.siblings with
    | none =>
        rw [present] at readList
        cases readList
    | some sib =>
        rw [present] at readList
        exact ⟨sib, rfl, readList⟩
  obtain ⟨ascending, member⟩ := selfListing cpuId sib list
    (intAttribute_eq_ok_iff.mp readId) present listed
  intro other found lookup
  by_cases same : other = cpuId
  · subst same
    rw [lookup_assign_self] at lookup
    cases lookup
    exact count_of_pairwise (getSiblingsList_pairwise ascending listed) member
  · rw [lookup_assign_of_ne same] at lookup
    exact once other found lookup

theorem getHostCpuSiblings_selfOnce {cpuCells : List (List CpuElement)}
    {siblings : SiblingMap}
    (selfListing : ∀ cell ∈ cpuCells, ∀ cpu ∈ cell, cpu.SelfListing)
    (returned : getHostCpuSiblings cpuCells = .ok siblings) :
    SelfOnce siblings := by
  have begins : SelfOnce ([] : SiblingMap) := by
    intro cpu list lookup
    cases lookup
  refine @foldlM_keeps _ _ _ _ _ _ SelfOnce _ ?_ begins returned
  intro reached cell next inCells once added
  refine @foldlM_keeps _ _ _ _ _ _ SelfOnce _ ?_ once added
  intro before cpu after inCell once added
  exact addCpu_selfOnce (selfListing cell inCells cpu inCell) once added

end Whitebox.Compute
