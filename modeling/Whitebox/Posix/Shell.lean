import Mathlib.Algebra.GroupWithZero.Nat
import Mathlib.Tactic.Common
import Whitebox.Python.Text

/-!
# Words of a command line

A POSIX shell splits a command line at blanks into words and removes quotes
from them.  This reading is followed character by character as long as it
depends on the line only.  Where an operator, an expansion or an open quote
makes the line more than the words of one command, the reading ends without a
result.

Reading never makes a line longer.  A line that comes out as long as it went
in has been read literally, and its words are free of every character with a
meaning of its own.
-/

namespace Whitebox.Posix

open Whitebox.Python

/-- The blanks that separate words. -/
def isBlank (c : Char) : Bool :=
  c == ' ' || c == '\t'

/-- The characters that start an operator or an expansion wherever they stand
unquoted.  No line holds the null character. -/
def isSpecial (c : Char) : Bool :=
  "\n;&|<>()$`*?\x00".toList.contains c

/-- The characters that start an expansion also between double quotes. -/
def isSubstitution (c : Char) : Bool :=
  "$`".toList.contains c

/-- The characters that a backslash escapes between double quotes. -/
def isEscapable (c : Char) : Bool :=
  "$`\"\\".toList.contains c

/-- A bracket expression is closed before the word or the path component
ends. -/
def closesBracket : Str → Bool
  | [] => false
  | c :: rest =>
      if c == ']' then true
      else if isBlank c || c == '/' then false
      else closesBracket rest

/-- The inside of a bracket expression: a closing bracket in the first place is
a member of it. -/
def bracketBody : Str → Bool
  | [] => false
  | c :: rest => !isBlank c && c != '/' && closesBracket rest

/-- What follows an opening bracket makes a bracket expression. -/
def opensBracket : Str → Bool
  | '!' :: rest => bracketBody rest
  | rest => bracketBody rest

/-- What an unquoted character is. -/
inductive Kind where
  | blank
  | singleQuote
  | doubleQuote
  | backslash
  | comment
  | special
  | ordinary
deriving DecidableEq

/-- The kind of an unquoted character, given whether a word has been started
and what follows. -/
def kind (started : Bool) (c : Char) (rest : Str) : Kind :=
  if isBlank c then .blank
  else if c == '\'' then .singleQuote
  else if c == '"' then .doubleQuote
  else if c == '\\' then .backslash
  else if !started && c == '#' then .comment
  else if isSpecial c || (!started && c == '~') ||
      (c == '[' && opensBracket rest) then .special
  else .ordinary

/-- Where in a line the reader is. -/
inductive Mode where
  | plain
  | escaped
  | single
  | double
  | doubleEscaped
  | comment
deriving DecidableEq

/-- The word under construction with one more text at its end. -/
def extend (word : Option Str) (text : Str) : Option Str :=
  some (word.getD [] ++ text)

/-- Read the rest of a line. -/
def read (mode : Mode) (word : Option Str) : Str → Option (List Str)
  | [] =>
      match mode with
      | .plain => some word.toList
      | .comment => some word.toList
      | _ => none
  | c :: rest =>
      match mode with
      | .plain =>
          match kind word.isSome c rest with
          | .blank => (read .plain none rest).map (word.toList ++ ·)
          | .singleQuote => read .single (extend word []) rest
          | .doubleQuote => read .double (extend word []) rest
          | .backslash => read .escaped word rest
          | .comment => read .comment word rest
          | .special => none
          | .ordinary => read .plain (extend word [c]) rest
      | .escaped =>
          if c == '\n' then read .plain word rest
          else read .plain (extend word [c]) rest
      | .single =>
          if c == '\'' then read .plain word rest
          else read .single (extend word [c]) rest
      | .double =>
          if c == '"' then read .plain word rest
          else if c == '\\' then read .doubleEscaped word rest
          else if isSubstitution c then none
          else read .double (extend word [c]) rest
      | .doubleEscaped =>
          if c == '\n' then read .double word rest
          else if isEscapable c then read .double (extend word [c]) rest
          else read .double (extend word ['\\', c]) rest
      | .comment =>
          if c == '\n' then none else read .comment word rest

/-- The words of a command line that holds just one command. -/
def readLine (line : Str) : Option (List Str) :=
  read .plain none line

/-- All characters are ordinary in a word. -/
def literalFrom (started : Bool) : Str → Bool
  | [] => true
  | c :: rest => kind started c rest == .ordinary && literalFrom true rest

/-- A word that stands for itself in a command line. -/
def Literal (word : Str) : Prop :=
  word ≠ [] ∧ literalFrom false word = true

instance (word : Str) : Decidable (Literal word) :=
  inferInstanceAs (Decidable (_ ∧ _))

section Lookahead

variable {blank : Char}

theorem ne_of_isBlank (isBlank : Posix.isBlank blank = true) {c : Char}
    (solid : Posix.isBlank c = false) : blank ≠ c := by
  rintro rfl
  rw [isBlank] at solid
  cases solid

theorem closesBracket_append_blank (isBlank : Posix.isBlank blank = true)
    (text more : Str) :
    closesBracket (text ++ blank :: more) = closesBracket text := by
  induction text with
  | nil => simp [closesBracket, isBlank, ne_of_isBlank isBlank (c := ']') rfl]
  | cons c text induction =>
      rw [List.cons_append, closesBracket, closesBracket, induction]

theorem bracketBody_append_blank (isBlank : Posix.isBlank blank = true)
    (text more : Str) :
    bracketBody (text ++ blank :: more) = bracketBody text := by
  cases text with
  | nil => simp [bracketBody, isBlank]
  | cons c text =>
      rw [List.cons_append, bracketBody, bracketBody,
        closesBracket_append_blank isBlank]

theorem opensBracket_append_blank (isBlank : Posix.isBlank blank = true)
    (text more : Str) :
    opensBracket (text ++ blank :: more) = opensBracket text := by
  have body := bracketBody_append_blank isBlank
  unfold opensBracket
  split
  · next rest shape =>
      cases text with
      | nil =>
          cases shape
          cases isBlank
      | cons c text =>
          rw [List.cons_append] at shape
          cases shape
          exact body text more
  · next notNegated =>
      split
      · next rest =>
          exact absurd rfl (notNegated _)
      · exact body text more

/-- A blank ends what the kind of a character can depend on. -/
theorem kind_append_blank (isBlank : Posix.isBlank blank = true) (started : Bool)
    (c : Char) (text more : Str) :
    kind started c (text ++ blank :: more) = kind started c text := by
  rw [kind, kind, opensBracket_append_blank isBlank]

end Lookahead

section Literal

theorem literalFrom_cons {started : Bool} {c : Char} {rest : Str} :
    literalFrom started (c :: rest) = true ↔
      kind started c rest = .ordinary ∧ literalFrom true rest = true := by
  rw [literalFrom, Bool.and_eq_true, beq_iff_eq]

theorem read_ordinary {word : Option Str} {c : Char} {rest : Str}
    (ordinary : kind word.isSome c rest = .ordinary) :
    read .plain word (c :: rest) = read .plain (extend word [c]) rest := by
  simp only [read, ordinary]

theorem read_blank {word : Option Str} {c : Char} (blank : isBlank c = true)
    (rest : Str) :
    read .plain word (c :: rest) =
      (readLine rest).map (word.toList ++ ·) := by
  simp only [read, kind, blank, if_true, readLine]

/-- The characters of a literal run are added to the word one by one. -/
theorem read_run {run : Str} {word : Str}
    (literal : literalFrom true run = true) {tail : Str}
    (ends : tail = [] ∨ ∃ blank more, isBlank blank = true ∧
      tail = blank :: more) :
    read .plain (some word) (run ++ tail) =
      read .plain (some (word ++ run)) tail := by
  induction run generalizing word with
  | nil => rw [List.nil_append, List.append_nil]
  | cons c run induction =>
      obtain ⟨ordinary, rest⟩ := literalFrom_cons.mp literal
      have ordinaryHere : kind true c (run ++ tail) = .ordinary := by
        rcases ends with rfl | ⟨blank, more, isBlank, rfl⟩
        · rw [List.append_nil]
          exact ordinary
        · rw [kind_append_blank isBlank]
          exact ordinary
      have step := @read_ordinary (some word) c (run ++ tail) ordinaryHere
      rw [List.cons_append, step, extend, Option.getD_some, induction rest,
        List.append_assoc, List.singleton_append]

theorem read_literal {word : Str} (literal : Literal word) {tail : Str}
    (ends : tail = [] ∨ ∃ blank more, isBlank blank = true ∧
      tail = blank :: more) :
    readLine (word ++ tail) = read .plain (some word) tail := by
  obtain ⟨nonempty, ordinary⟩ := literal
  cases word with
  | nil => exact absurd rfl nonempty
  | cons c run =>
      obtain ⟨first, rest⟩ := literalFrom_cons.mp ordinary
      have firstHere : kind false c (run ++ tail) = .ordinary := by
        rcases ends with rfl | ⟨blank, more, isBlank, rfl⟩
        · rw [List.append_nil]
          exact first
        · rw [kind_append_blank isBlank]
          exact first
      have step := @read_ordinary none c (run ++ tail) firstHere
      rw [List.cons_append, readLine, step, extend, Option.getD_none,
        List.nil_append, read_run rest ends, List.singleton_append]

theorem readLine_literal {word : Str} (literal : Literal word) :
    readLine word = some [word] := by
  have whole : readLine (word ++ []) = read .plain (some word) [] :=
    read_literal literal (.inl rfl)
  rw [List.append_nil] at whole
  rw [whole]
  rfl

/-- A literal word in front of a line is read as it stands. -/
theorem readLine_literal_append {word : Str} (literal : Literal word)
    (rest : Str) :
    readLine (word ++ ' ' :: rest) = (readLine rest).map (word :: ·) := by
  rw [read_literal literal (.inr ⟨' ', rest, rfl, rfl⟩), read_blank rfl]
  rfl

/-- Literal words in front of a line are read as they stand. -/
theorem readLine_join_append {words : List Str}
    (literal : ∀ word ∈ words, Literal word) (last : Str) :
    readLine (join ' ' (words ++ [last])) =
      (readLine last).map (words ++ ·) := by
  induction words with
  | nil =>
      rw [List.nil_append, join_singleton]
      cases readLine last <;> rfl
  | cons word words induction =>
      obtain ⟨first, rest⟩ := List.forall_mem_cons.mp literal
      obtain ⟨next, others, shape⟩ := List.exists_cons_of_ne_nil
        (show words ++ [last] ≠ [] by simp)
      rw [List.cons_append, shape, join_cons_cons, ← shape,
        readLine_literal_append first, induction rest, Option.map_map]
      rfl

theorem readLine_join {words : List Str} (nonempty : words ≠ [])
    (literal : ∀ word ∈ words, Literal word) :
    readLine (join ' ' words) = some words := by
  obtain ⟨words, last, rfl⟩ :=
    (List.eq_nil_or_concat' words).resolve_left nonempty
  rw [readLine_join_append (fun word member => literal word (by simp [member])),
    readLine_literal (literal last (by simp)), Option.map_some]

end Literal

section Weight

/-- The length of a line made of the given words, each with a separator. -/
def weight (words : List Str) : Nat :=
  (words.map fun word => word.length + 1).sum

theorem weight_append (words others : List Str) :
    weight (words ++ others) = weight words + weight others := by
  rw [weight, weight, weight, List.map_append, List.sum_append]

theorem weight_join {words : List Str} (nonempty : words ≠ []) :
    weight words = (join ' ' words).length + 1 := by
  induction words with
  | nil => exact absurd rfl nonempty
  | cons word words induction =>
      cases words with
      | nil => simp [weight]
      | cons next words =>
          have rest := induction (by simp)
          rw [weight] at rest
          rw [weight, List.map_cons, List.sum_cons, rest, join_cons_cons,
            List.length_append, List.length_cons]
          omega

/-- What the word under construction adds to the weight at most. -/
def size : Option Str → Nat
  | none => 1
  | some word => word.length + 1

@[simp] theorem size_none : size none = 1 :=
  rfl

@[simp] theorem size_some (word : Str) : size (some word) = word.length + 1 :=
  rfl

theorem size_extend (word : Option Str) (text : Str) :
    size (extend word text) = size word + text.length := by
  cases word with
  | none => simp [extend, size, Nat.add_comm]
  | some word =>
      simp only [extend, Option.getD_some, size, List.length_append]
      omega

theorem weight_toList_le (word : Option Str) :
    weight word.toList ≤ size word := by
  cases word <;> simp [weight, size]

/-- A backslash between double quotes may turn out to stand for itself. -/
def slack : Mode → Nat
  | .doubleEscaped => 1
  | _ => 0

@[simp] theorem slack_plain : slack .plain = 0 :=
  rfl

/-- What one character does outside of a blank between words: the reader goes
on in some mode, with at most one character more. -/
structure Step (mode : Mode) (word : Option Str) (c : Char) (rest : Str)
    (next : Mode) (reached : Option Str) : Prop where
  bound : size reached + slack next ≤ size word + slack mode + 1
  tight : mode = .plain → size reached + slack next = size word + 1 →
    kind word.isSome c rest = .ordinary ∧ next = .plain ∧
      reached = extend word [c]

theorem Step.kept {mode next : Mode} {word : Option Str} {c : Char}
    {rest : Str} (slacks : slack next ≤ slack mode + 1)
    (shorter : mode = .plain → slack next = 0) :
    Step mode word c rest next word where
  bound := by omega
  tight plain same := by
    have none := shorter plain
    omega

theorem Step.added {mode next : Mode} {word : Option Str} {c : Char}
    {rest text : Str} (quoted : mode ≠ .plain)
    (slacks : text.length + slack next ≤ slack mode + 1) :
    Step mode word c rest next (extend word text) where
  bound := by
    rw [size_extend]
    omega
  tight plain := absurd plain quoted

theorem read_cons {mode : Mode} {word : Option Str} {c : Char} {rest : Str}
    {words : List Str} (reads : read mode word (c :: rest) = some words) :
    (mode = .plain ∧ isBlank c = true ∧
      ∃ others, readLine rest = some others ∧
        words = word.toList ++ others) ∨
    ∃ next reached, read next reached rest = some words ∧
      Step mode word c rest next reached := by
  cases mode with
  | plain =>
      have opened : Step .plain word c rest .single (extend word []) ∧
          Step .plain word c rest .double (extend word []) := by
        constructor <;> constructor <;> simp [size_extend, slack]
      by_cases blank : isBlank c = true
      · rw [read_blank blank] at reads
        obtain ⟨others, readsRest, same⟩ := Option.map_eq_some_iff.mp reads
        exact .inl ⟨rfl, blank, others, readsRest, same.symm⟩
      · simp only [read] at reads
        split at reads
        · next isKind =>
            rw [kind, if_neg blank] at isKind
            split_ifs at isKind
        · exact .inr ⟨_, _, reads, opened.1⟩
        · exact .inr ⟨_, _, reads, opened.2⟩
        · exact .inr ⟨_, _, reads, .kept (by simp [slack]) (by simp [slack])⟩
        · exact .inr ⟨_, _, reads, .kept (by simp [slack]) (by simp [slack])⟩
        · cases reads
        · next ordinary =>
            refine .inr ⟨_, _, reads, ?_, fun _ _ => ⟨ordinary, rfl, rfl⟩⟩
            simp [size_extend, slack]
  | escaped =>
      simp only [read] at reads
      split at reads
      · exact .inr ⟨_, _, reads, .kept (by simp [slack]) (by simp [slack])⟩
      · exact .inr ⟨_, _, reads, .added (by simp) (by simp [slack])⟩
  | single =>
      simp only [read] at reads
      split at reads
      · exact .inr ⟨_, _, reads, .kept (by simp [slack]) (by simp [slack])⟩
      · exact .inr ⟨_, _, reads, .added (by simp) (by simp [slack])⟩
  | double =>
      simp only [read] at reads
      split at reads
      · exact .inr ⟨_, _, reads, .kept (by simp [slack]) (by simp [slack])⟩
      · split at reads
        · exact .inr ⟨_, _, reads, .kept (by simp [slack]) (by simp)⟩
        · split at reads
          · cases reads
          · exact .inr ⟨_, _, reads, .added (by simp) (by simp [slack])⟩
  | doubleEscaped =>
      simp only [read] at reads
      split at reads
      · exact .inr ⟨_, _, reads, .kept (by simp [slack]) (by simp [slack])⟩
      · split at reads
        · exact .inr ⟨_, _, reads, .added (by simp) (by simp [slack])⟩
        · exact .inr ⟨_, _, reads, .added (by simp) (by simp [slack])⟩
  | comment =>
      simp only [read] at reads
      split at reads
      · cases reads
      · exact .inr ⟨_, _, reads, .kept (by simp [slack]) (by simp [slack])⟩

/-- Reading never makes a line longer. -/
theorem weight_le {mode : Mode} {word : Option Str} {text : Str}
    {words : List Str} (reads : read mode word text = some words) :
    weight words ≤ size word + slack mode + text.length := by
  induction text generalizing mode word words with
  | nil =>
      have bound := weight_toList_le word
      cases mode with
      | plain =>
          cases reads
          exact Nat.le_add_right_of_le (Nat.le_add_right_of_le bound)
      | comment =>
          cases reads
          exact Nat.le_add_right_of_le (Nat.le_add_right_of_le bound)
      | _ => cases reads
  | cons c rest induction =>
      rw [List.length_cons]
      rcases read_cons reads with ⟨rfl, _, others, readsRest, rfl⟩ |
        ⟨next, reached, readsRest, step⟩
      · have bound := induction readsRest
        have first := weight_toList_le word
        rw [size_none, slack_plain] at bound
        rw [weight_append, slack_plain]
        omega
      · have bound := induction readsRest
        have stepBound := step.bound
        omega

/-- A tight reading takes every character up to the next blank into the word
under construction. -/
theorem exists_run_of_tight {word text : Str} {words : List Str}
    (reads : read .plain (some word) text = some words)
    (tight : weight words = word.length + 1 + text.length) :
    ∃ run, literalFrom true run = true ∧
      ((text = run ∧ words = [word ++ run]) ∨
        ∃ blank more others, isBlank blank = true ∧
          text = run ++ blank :: more ∧ words = (word ++ run) :: others ∧
          readLine more = some others ∧
          weight others = more.length + 1) := by
  induction text generalizing word words with
  | nil =>
      cases reads
      exact ⟨[], rfl, .inl ⟨rfl, by simp⟩⟩
  | cons c rest induction =>
      rw [List.length_cons] at tight
      rcases read_cons reads with ⟨_, blank, others, readsRest, rfl⟩ |
        ⟨next, reached, readsRest, step⟩
      · refine ⟨[], rfl, .inr ⟨c, rest, others, blank, rfl, by simp, readsRest,
          ?_⟩⟩
        rw [weight_append] at tight
        simp only [Option.toList_some, weight, List.map_cons, List.map_nil,
          List.sum_cons, List.sum_nil] at tight ⊢
        omega
      · have bound := weight_le readsRest
        have stepBound := step.bound
        rw [size_some, slack_plain] at stepBound
        obtain ⟨ordinary, rfl, rfl⟩ := step.tight rfl (by
          rw [size_some]
          omega)
        have tightRest : weight words =
            (word ++ [c]).length + 1 + rest.length := by
          rw [List.length_append, List.length_singleton]
          omega
        obtain ⟨run, literal, shape⟩ := induction readsRest tightRest
        refine ⟨c :: run, ?_, ?_⟩
        · refine literalFrom_cons.mpr ⟨?_, literal⟩
          rcases shape with ⟨rfl, _⟩ | ⟨blank, more, _, isBlank, rfl, _⟩
          · exact ordinary
          · rw [Option.isSome_some, kind_append_blank isBlank] at ordinary
            exact ordinary
        · rcases shape with ⟨rfl, rfl⟩ |
            ⟨blank, more, others, isBlank, rfl, rfl, readsMore, tightMore⟩
          · exact .inl ⟨rfl, by simp⟩
          · exact .inr ⟨blank, more, others, isBlank, rfl, by simp, readsMore,
              tightMore⟩

/-- A line that comes out as long as it went in consists of literal words. -/
theorem literal_of_tight {text : Str} {words : List Str}
    (reads : readLine text = some words)
    (tight : weight words = text.length + 1) :
    ∀ word ∈ words, Literal word := by
  induction length : text.length using Nat.strong_induction_on
    generalizing text words with
  | _ length induction =>
      cases text with
      | nil =>
          cases reads
          cases tight
      | cons c rest =>
          rw [List.length_cons] at tight length
          rcases read_cons reads with ⟨_, blank, others, readsRest, rfl⟩ |
            ⟨next, reached, readsRest, step⟩
          · have bound := weight_le readsRest
            rw [size_none, slack_plain] at bound
            omega
          · have bound := weight_le readsRest
            have stepBound := step.bound
            rw [size_none, slack_plain] at stepBound
            obtain ⟨ordinary, rfl, rfl⟩ := step.tight rfl (by
              rw [size_none]
              omega)
            obtain ⟨run, literal, shape⟩ := exists_run_of_tight readsRest (by
              simp only [Option.getD_none, List.nil_append,
                List.length_singleton]
              omega)
            have first : Literal (c :: run) := by
              refine ⟨by simp, literalFrom_cons.mpr ⟨?_, literal⟩⟩
              rcases shape with ⟨rfl, _⟩ | ⟨blank, more, _, isBlank, rfl, _⟩
              · exact ordinary
              · rw [kind_append_blank isBlank] at ordinary
                exact ordinary
            rcases shape with ⟨rfl, rfl⟩ |
              ⟨blank, more, others, isBlank, rfl, rfl, readsMore, tightMore⟩
            · exact List.forall_mem_singleton.mpr first
            · refine List.forall_mem_cons.mpr ⟨first, ?_⟩
              refine induction more.length ?_ readsMore tightMore rfl
              rw [← length, List.length_append, List.length_cons]
              omega

/-- The words of a joined line are the given ones exactly when each of them is
literal. -/
theorem readLine_join_iff {words : List Str} (nonempty : words ≠ []) :
    readLine (join ' ' words) = some words ↔
      ∀ word ∈ words, Literal word := by
  constructor
  · intro reads
    exact literal_of_tight reads (weight_join nonempty)
  · exact readLine_join nonempty

end Weight

section SingleQuotes

/-- A text between single quotes. -/
def singleQuoted (text : Str) : Str :=
  '\'' :: (text ++ ['\''])

/-- Up to the closing quote everything goes into the word. -/
theorem read_single {word text : Str} (unquoted : '\'' ∉ text) (rest : Str) :
    read .single (some word) (text ++ '\'' :: rest) =
      read .plain (some (word ++ text)) rest := by
  induction text generalizing word with
  | nil => simp [read]
  | cons c text induction =>
      obtain ⟨different, later⟩ :=
        List.ne_and_not_mem_of_not_mem_cons unquoted
      have inside : (c == '\'') = false := by simpa using Ne.symm different
      rw [List.cons_append, read]
      simp only [inside, Bool.false_eq_true, if_false, extend,
        Option.getD_some]
      rw [induction later, List.append_assoc, List.singleton_append]

theorem readLine_singleQuoted {text : Str} (unquoted : '\'' ∉ text) :
    readLine (singleQuoted text) = some [text] := by
  have opened : readLine (singleQuoted text) =
      read .single (some []) (text ++ ['\'']) := rfl
  rw [opened, read_single unquoted, List.nil_append]
  rfl

theorem quote_notMem_of_literalFrom {started : Bool} {text : Str}
    (literal : literalFrom started text = true) : '\'' ∉ text := by
  induction text generalizing started with
  | nil => exact List.not_mem_nil
  | cons c text induction =>
      obtain ⟨ordinary, rest⟩ := literalFrom_cons.mp literal
      apply List.not_mem_cons_of_ne_of_not_mem _ (induction rest)
      rintro rfl
      cases ordinary

/-- A text between single quotes is read as itself exactly if it has no such
quote. -/
theorem readLine_singleQuoted_iff {text : Str} :
    readLine (singleQuoted text) = some [text] ↔ '\'' ∉ text := by
  constructor
  · intro reads quoted
    -- What follows the first quote would have to be read literally.
    obtain ⟨before, after, rfl, unquoted⟩ := List.eq_append_cons_of_mem quoted
    have opened : readLine (singleQuoted (before ++ '\'' :: after)) =
        read .single (some []) (before ++ '\'' :: (after ++ ['\''])) := by
      rw [← List.cons_append, ← List.append_assoc]
      rfl
    rw [opened, read_single unquoted, List.nil_append] at reads
    have tight : weight [before ++ '\'' :: after] =
        before.length + 1 + (after ++ ['\'']).length := by
      simp [weight]
      omega
    obtain ⟨run, literal, shape⟩ := exists_run_of_tight reads tight
    rcases shape with ⟨rfl, _⟩ | ⟨_, more, others, _, _, same, _, weighs⟩
    · exact quote_notMem_of_literalFrom literal (by simp)
    · rw [← (List.cons.inj same).2] at weighs
      cases weighs
  · exact readLine_singleQuoted

end SingleQuotes

end Whitebox.Posix
