import Mathlib.Data.List.Count
import Mathlib.Data.List.Infix
import Whitebox.Python.Int

/-!
# Regular expressions of fixed width and the filters that use them

The regular expressions that are made of single characters, concatenation and
repetition with a count.  All texts that match such an expression have the same
length, so it can be matched from left to right without a choice.  On them rest
`grep`, as a filter and on a file, and `wc -l` counts the lines that are left.
-/

namespace Whitebox.Posix

open Whitebox.Python

/-- A bracket expression, a period or an ordinary character is given by the
characters that it accepts. -/
inductive Regex where
  | one (accepts : Char → Bool)
  | seq (first second : Regex)
  | times (count : Nat) (part : Regex)

namespace Regex

/-- The texts that match an expression. -/
inductive Matches : Regex → Str → Prop
  | one {accepts : Char → Bool} {c : Char} (accepted : accepts c = true) :
      Matches (.one accepts) [c]
  | seq {first second : Regex} {left right : Str}
      (firstMatches : Matches first left)
      (secondMatches : Matches second right) :
      Matches (.seq first second) (left ++ right)
  | timesZero {part : Regex} : Matches (.times 0 part) []
  | timesSucc {count : Nat} {part : Regex} {left right : Str}
      (partMatches : Matches part left)
      (restMatches : Matches (.times count part) right) :
      Matches (.times (count + 1) part) (left ++ right)

/-- Repeat a step on what the step before has left. -/
def repeatStep (step : Str → Option (Str)) :
    Nat → Str → Option (Str)
  | 0, text => some text
  | count + 1, text => (step text).bind (repeatStep step count)

/-- What a match at the start of the text leaves. -/
def consume : Regex → Str → Option (Str)
  | .one _, [] => none
  | .one accepts, c :: rest => if accepts c then some rest else none
  | .seq first second, text => (consume first text).bind (consume second)
  | .times count part, text => repeatStep (consume part) count text

/-- The characters of a range in a bracket expression. -/
def isBetween (low high c : Char) : Bool :=
  low.toNat ≤ c.toNat && c.toNat ≤ high.toNat

/-- An ordinary character. -/
def literal (c : Char) : Regex :=
  .one (· == c)

/-- A text of ordinary characters. -/
def word : Str → Regex
  | [] => .times 0 (.one fun _ => true)
  | c :: rest => .seq (literal c) (word rest)

/-- An unanchored match. -/
def search (regex : Regex) (text : Str) : Bool :=
  text.tails.any fun tail => (consume regex tail).isSome

theorem Matches.consume {regex : Regex} {matched : Str}
    (holds : Matches regex matched) (rest : Str) :
    consume regex (matched ++ rest) = some rest := by
  induction holds generalizing rest with
  | one accepted => simp [Regex.consume, accepted]
  | seq _ _ firstInduction secondInduction =>
      rw [Regex.consume, List.append_assoc, firstInduction]
      exact secondInduction rest
  | timesZero => rfl
  | timesSucc _ _ partInduction restInduction =>
      rw [Regex.consume, repeatStep, List.append_assoc, partInduction]
      exact restInduction rest

theorem exists_matches_of_repeatStep {part : Regex}
    (matchesPart : ∀ text rest, consume part text = some rest →
      ∃ matched, text = matched ++ rest ∧ Matches part matched)
    {count : Nat} {text rest : Str}
    (consumed : repeatStep (consume part) count text = some rest) :
    ∃ matched, text = matched ++ rest ∧
      Matches (.times count part) matched := by
  induction count generalizing text with
  | zero =>
      cases consumed
      exact ⟨[], rfl, .timesZero⟩
  | succ count induction =>
      obtain ⟨middle, first, later⟩ := Option.bind_eq_some_iff.mp consumed
      obtain ⟨left, rfl, partMatches⟩ := matchesPart text middle first
      obtain ⟨right, rfl, restMatches⟩ := induction later
      refine ⟨left ++ right, ?_, .timesSucc partMatches restMatches⟩
      rw [List.append_assoc]

theorem exists_matches_of_consume {regex : Regex} {text rest : Str}
    (consumed : consume regex text = some rest) :
    ∃ matched, text = matched ++ rest ∧ Matches regex matched := by
  induction regex generalizing text rest with
  | one accepts =>
      cases text with
      | nil => cases consumed
      | cons c tail =>
          rw [consume] at consumed
          split at consumed
          · cases consumed
            exact ⟨[c], rfl, .one ‹_›⟩
          · cases consumed
  | seq first second firstInduction secondInduction =>
      obtain ⟨middle, before, after⟩ := Option.bind_eq_some_iff.mp consumed
      obtain ⟨left, rfl, firstMatches⟩ := firstInduction before
      obtain ⟨right, rfl, secondMatches⟩ := secondInduction after
      refine ⟨left ++ right, ?_, .seq firstMatches secondMatches⟩
      rw [List.append_assoc]
  | times count part induction =>
      apply exists_matches_of_repeatStep _ consumed
      intro text rest
      exact induction

/-- The search finds a match exactly if a part of the text matches. -/
theorem search_iff {regex : Regex} {text : Str} :
    search regex text = true ↔
      ∃ before matched after, text = before ++ (matched ++ after) ∧
        Matches regex matched := by
  rw [search, List.any_eq_true]
  constructor
  · intro found
    obtain ⟨tail, isTail, consumed⟩ := found
    obtain ⟨before, rfl⟩ := (List.mem_tails tail text).mp isTail
    obtain ⟨after, consumed⟩ := Option.isSome_iff_exists.mp consumed
    obtain ⟨matched, rfl, holds⟩ := exists_matches_of_consume consumed
    exact ⟨before, matched, after, rfl, holds⟩
  · intro found
    obtain ⟨before, matched, after, rfl, holds⟩ := found
    refine ⟨matched ++ after, (List.mem_tails _ _).mpr ⟨before, rfl⟩, ?_⟩
    rw [holds.consume]
    rfl

section Shapes

theorem matches_one_iff {accepts : Char → Bool} {text : Str} :
    Matches (.one accepts) text ↔ ∃ c, text = [c] ∧ accepts c = true := by
  constructor
  · intro holds
    cases holds with
    | one accepted => exact ⟨_, rfl, accepted⟩
  · intro shape
    obtain ⟨c, rfl, accepted⟩ := shape
    exact .one accepted

theorem matches_seq_iff {first second : Regex} {text : Str} :
    Matches (.seq first second) text ↔
      ∃ left right, text = left ++ right ∧ Matches first left ∧
        Matches second right := by
  constructor
  · intro holds
    cases holds with
    | seq firstMatches secondMatches =>
        exact ⟨_, _, rfl, firstMatches, secondMatches⟩
  · intro shape
    obtain ⟨left, right, rfl, firstMatches, secondMatches⟩ := shape
    exact .seq firstMatches secondMatches

/-- A repeated bracket expression accepts the texts of that length. -/
theorem matches_times_one_iff {accepts : Char → Bool} {count : Nat}
    {text : Str} :
    Matches (.times count (.one accepts)) text ↔
      text.length = count ∧ ∀ c ∈ text, accepts c = true := by
  induction count generalizing text with
  | zero =>
      constructor
      · intro holds
        cases holds
        simp
      · intro shape
        cases List.length_eq_zero_iff.mp shape.1
        exact .timesZero
  | succ count induction =>
      constructor
      · intro holds
        cases holds with
        | timesSucc partMatches restMatches =>
            obtain ⟨c, rfl, accepted⟩ := matches_one_iff.mp partMatches
            obtain ⟨length, later⟩ := induction.mp restMatches
            refine ⟨?_, List.forall_mem_cons.mpr ⟨accepted, later⟩⟩
            rw [List.singleton_append, List.length_cons, length]
      · intro shape
        obtain ⟨c, rest, rfl⟩ := List.exists_of_length_succ text shape.1
        obtain ⟨accepted, later⟩ := List.forall_mem_cons.mp shape.2
        have length : rest.length = count := by
          simpa using shape.1
        exact .timesSucc (.one accepted) (induction.mpr ⟨length, later⟩)

theorem matches_literal_iff {c : Char} {text : Str} :
    Matches (literal c) text ↔ text = [c] := by
  simp [literal, matches_one_iff]

theorem matches_word_iff {needle text : Str} :
    Matches (word needle) text ↔ text = needle := by
  induction needle generalizing text with
  | nil =>
      rw [word, matches_times_one_iff, List.length_eq_zero_iff]
      simp
  | cons c rest induction =>
      rw [word, matches_seq_iff]
      simp [matches_literal_iff, induction]

/-- To search for ordinary characters is to look for a substring. -/
theorem search_word_iff {needle text : Str} :
    search (word needle) text = true ↔ needle <:+: text := by
  rw [search_iff]
  constructor
  · intro found
    obtain ⟨before, matched, after, rfl, holds⟩ := found
    rw [matches_word_iff.mp holds]
    exact ⟨before, after, List.append_assoc _ _ _⟩
  · intro found
    obtain ⟨before, after, rfl⟩ := found
    exact ⟨before, needle, after, List.append_assoc _ _ _,
      matches_word_iff.mpr rfl⟩

end Shapes

end Regex

section Filters

/-- The text of some lines, each with the newline that ends it. -/
def terminated (lines : List Str) : Str :=
  lines.flatMap (· ++ ['\n'])

/-- The lines of a text without their newlines. -/
def lines (text : Str) : List Str :=
  (readlines text).map (List.rdropWhile (· == '\n'))

/-- `grep` as a filter. -/
def grep (regex : Regex) (text : Str) : Str :=
  terminated ((lines text).filter regex.search)

/-- `grep -nr` on one file. -/
def grepNumbered (regex : Regex) (path text : Str) : Str :=
  terminated
    ((((lines text).zipIdx 1).filter fun line => regex.search line.1).map
      fun line => path ++ ':' :: (str line.2 ++ ':' :: line.1))

/-- `wc -l`. -/
def countLines (text : Str) : Str :=
  str (text.count '\n') ++ ['\n']

theorem lines_terminated {items : List Str}
    (noNewline : ∀ line ∈ items, '\n' ∉ line) :
    lines (terminated items) = items := by
  rw [lines, terminated, readlines_flatMap_terminated noNewline, List.map_map]
  conv_rhs => rw [← List.map_id items]
  apply List.map_congr_left
  intro line member
  have solid : ∀ c ∈ line, (c == '\n') = false := by
    intro c inside
    rw [beq_eq_false_iff_ne]
    intro same
    exact noNewline line member (same ▸ inside)
  rw [Function.comp_apply, List.rdropWhile_concat_pos _ _ _ rfl, id,
    List.rdropWhile_eq_self_iff]
  intro nonempty
  simp [solid _ (List.getLast_mem nonempty)]

theorem grep_terminated (regex : Regex) {items : List Str}
    (noNewline : ∀ line ∈ items, '\n' ∉ line) :
    grep regex (terminated items) =
      terminated (items.filter regex.search) := by
  rw [grep, lines_terminated noNewline]

/-- A file of one line is reported whole or not at all. -/
theorem grepNumbered_line (regex : Regex) (path : Str) {line : Str}
    (noNewline : '\n' ∉ line) :
    grepNumbered regex path (line ++ ['\n']) =
      if regex.search line then
        terminated [path ++ ':' :: '1' :: ':' :: line]
      else [] := by
  have single : lines (line ++ ['\n']) = [line] := by
    rw [← lines_terminated (List.forall_mem_singleton.mpr noNewline)]
    simp [terminated]
  have numberOne : str 1 = ['1'] := by
    decide
  rw [grepNumbered, single, List.zipIdx_singleton, List.filter_singleton]
  dsimp only
  cases regex.search line with
  | true => simp [numberOne]
  | false => rfl

theorem countLines_terminated {items : List Str}
    (noNewline : ∀ line ∈ items, '\n' ∉ line) :
    countLines (terminated items) = str items.length ++ ['\n'] := by
  have counted : (terminated items).count '\n' = items.length := by
    induction items with
    | nil => rfl
    | cons line rest induction =>
        obtain ⟨absent, later⟩ := List.forall_mem_cons.mp noNewline
        have tail := induction later
        unfold terminated at tail ⊢
        rw [List.flatMap_cons, List.count_append, List.count_append, tail,
          List.count_eq_zero_of_not_mem absent, List.length_cons]
        simp [Nat.add_comm]
  rw [countLines, counted]

end Filters

end Whitebox.Posix
