import Mathlib.Data.List.DropRight
import Mathlib.Data.List.Infix
import Mathlib.Data.List.TakeWhile

/-!
# Python text

A Python `str` is modelled by its list of code points.  The operations below
are the ones the plugin uses on text: stripping, splitting at a separator,
splitting at the first separator, joining and substring search.
-/

namespace Whitebox.Python

/-- A Python `str`. -/
abbrev Str := List Char

instance : LawfulBEq Str :=
  inferInstance

/-- The code points for which `str.isspace` holds. -/
def isSpace (c : Char) : Bool :=
  (0x09 ≤ c.toNat && c.toNat ≤ 0x0d) || (0x1c ≤ c.toNat && c.toNat ≤ 0x20) ||
    c.toNat == 0x85 || c.toNat == 0xa0 || c.toNat == 0x1680 ||
    (0x2000 ≤ c.toNat && c.toNat ≤ 0x200a) || c.toNat == 0x2028 ||
    c.toNat == 0x2029 || c.toNat == 0x202f || c.toNat == 0x205f ||
    c.toNat == 0x3000

/-- A text without its leading and trailing blanks. -/
def trim (blank : Char → Bool) (text : Str) : Str :=
  (text.dropWhile blank).rdropWhile blank

/-- `text.strip()`. -/
def strip (text : Str) : Str :=
  trim isSpace text

/-- `text.split(separator)` for a one-character separator. -/
def split (separator : Char) (text : Str) : List Str :=
  text.splitOn separator

/-- `text.split(separator, 1)`: one piece when the separator is absent, and the
two sides of its first occurrence otherwise. -/
def splitOnce (separator : Char) (text : Str) : List Str :=
  match text.dropWhile (· != separator) with
  | [] => [text]
  | _ :: after => [text.takeWhile (· != separator), after]

/-- `separator.join(pieces)` for a one-character separator. -/
def join (separator : Char) (pieces : List Str) : Str :=
  [separator].intercalate pieces

/-- `text.lstrip()`. -/
def lstrip (text : Str) : Str :=
  text.dropWhile isSpace

/-- `text.split()`: the pieces between white space. -/
def words (text : Str) : List Str :=
  (text.splitOnP isSpace).filter (· ≠ [])

/-- `StringIO(text).readlines()`: every line with the newline that ends it. -/
def readlines : Str → List Str
  | [] => []
  | '\n' :: rest => ['\n'] :: readlines rest
  | c :: rest =>
      match readlines rest with
      | [] => [[c]]
      | line :: lines => (c :: line) :: lines

/-- The characters at which `str.splitlines` ends a line. -/
def isLineBreak (c : Char) : Bool :=
  (0x0a ≤ c.toNat && c.toNat ≤ 0x0d) || (0x1c ≤ c.toNat && c.toNat ≤ 0x1e) ||
    c.toNat == 0x85 || c.toNat == 0x2028 || c.toNat == 0x2029

/-- A text without a line break. -/
def OneLine (text : Str) : Prop :=
  ∀ c ∈ text, isLineBreak c = false

instance (text : Str) : Decidable (OneLine text) :=
  decidable_of_iff (text.all fun c => !isLineBreak c) (by simp [OneLine])

/-- `text.splitlines()`. -/
def splitlines : Str → List Str
  | [] => []
  | '\r' :: '\n' :: rest => [] :: splitlines rest
  | c :: rest =>
      if isLineBreak c then [] :: splitlines rest
      else
        match splitlines rest with
        | [] => [[c]]
        | line :: lines => (c :: line) :: lines

/-- `needle in text`. -/
def contains (text needle : Str) : Bool :=
  decide (needle <:+: text)

section Strip

theorem dropWhile_rdropWhile_of_head
    {p : α → Bool} {items : List α}
    (trimmed : items.dropWhile p = items) :
    (items.rdropWhile p).dropWhile p = items.rdropWhile p := by
  cases items with
  | nil => simp
  | cons head tail =>
      have headKept : p head = false := by
        have first := (List.dropWhile_eq_self_iff (p := p)).mp trimmed
          (by simp)
        simpa using first
      obtain ⟨rest, equality⟩ := List.rdropWhile_prefix p (head :: tail)
      cases kept : (head :: tail).rdropWhile p with
      | nil => rfl
      | cons first others =>
          rw [kept, List.cons_append] at equality
          injection equality with sameHead _
          simp [sameHead, headKept]

theorem strip_sublist (text : Str) : (strip text).Sublist text :=
  (List.rdropWhile_prefix _ _).sublist.trans (List.dropWhile_sublist _)

@[simp] theorem strip_strip (text : Str) : strip (strip text) = strip text := by
  unfold strip trim
  rw [dropWhile_rdropWhile_of_head (List.dropWhile_idempotent isSpace _),
    List.rdropWhile_idempotent]

@[simp] theorem strip_nil : strip [] = [] :=
  rfl

theorem trim_append_blank {blank : Char → Bool} (text : Str) {c : Char}
    (isBlank : blank c = true) :
    trim blank (text ++ [c]) = trim blank text := by
  unfold trim
  rw [List.dropWhile_append]
  by_cases empty : text.dropWhile blank = []
  · simp [empty, isBlank]
  · simp [empty, List.rdropWhile_concat_pos, isBlank]

theorem strip_append_space (text : Str) {c : Char} (space : isSpace c = true) :
    strip (text ++ [c]) = strip text :=
  trim_append_blank text space

/-- Trimming only removes characters. -/
theorem mem_of_mem_trim {blank : Char → Bool} {text : Str} {c : Char}
    (member : c ∈ trim blank text) : c ∈ text :=
  (List.dropWhile_suffix blank).subset
    ((List.rdropWhile_prefix blank _).subset member)

/-- A text without blanks is already trimmed. -/
theorem trim_eq_self {blank : Char → Bool} {text : Str}
    (solid : ∀ c ∈ text, blank c = false) : trim blank text = text := by
  have leading : text.dropWhile blank = text := by
    cases text with
    | nil => rfl
    | cons head tail =>
        simp [solid head (by simp)]
  unfold trim
  rw [leading, List.rdropWhile_eq_self_iff]
  intro nonempty
  simp [solid _ (List.getLast_mem nonempty)]

theorem strip_append_spaces (text : Str) {spaces : Str}
    (blank : ∀ c ∈ spaces, isSpace c = true) :
    strip (text ++ spaces) = strip text := by
  induction spaces generalizing text with
  | nil => rw [List.append_nil]
  | cons c spaces induction =>
      obtain ⟨first, rest⟩ := List.forall_mem_cons.mp blank
      rw [List.append_cons, induction _ rest, strip_append_space text first]

theorem strip_rdropWhile (text : Str) :
    strip (text.rdropWhile isSpace) = strip text := by
  have spaces : ∀ c ∈ text.rtakeWhile isSpace, isSpace c = true :=
    fun c member => List.mem_rtakeWhile_imp member
  rw [← strip_append_spaces (text.rdropWhile isSpace) spaces,
    List.rdropWhile_append_rtakeWhile]

theorem rdropWhile_append_cons {c : Char} (kept : isSpace c = false)
    (before after : Str) :
    (before ++ c :: after).rdropWhile isSpace =
      before ++ c :: after.rdropWhile isSpace := by
  induction after using List.reverseRecOn with
  | nil =>
      rw [List.rdropWhile_concat_neg _ _ _ (by simp [kept])]
      rfl
  | append_singleton after last induction =>
      have shape : before ++ c :: (after ++ [last]) =
          (before ++ c :: after) ++ [last] := by simp
      rw [shape, List.rdropWhile_concat, List.rdropWhile_concat, induction]
      split
      · rfl
      · simp

/-- Stripping a text stops at a character that is no blank. -/
theorem strip_append_cons {c : Char} (kept : isSpace c = false)
    (before after : Str) :
    strip (before ++ c :: after) =
      before.dropWhile isSpace ++ c :: after.rdropWhile isSpace := by
  rw [strip, trim, List.dropWhile_append,
    List.dropWhile_cons_of_neg (by simp [kept])]
  by_cases blank : before.dropWhile isSpace = []
  · rw [blank]
    exact rdropWhile_append_cons kept [] after
  · rw [if_neg (by simpa using blank), rdropWhile_append_cons kept]

theorem strip_cons_append_cons {first last : Char}
    (firstKept : isSpace first = false) (lastKept : isSpace last = false)
    (before after : Str) :
    strip (first :: before ++ last :: after) =
      first :: before ++ last :: after.rdropWhile isSpace := by
  rw [strip_append_cons lastKept,
    List.dropWhile_cons_of_neg (by simp [firstKept])]

theorem strip_dropWhile {blank : Char → Bool}
    (blankSpace : ∀ c, blank c = true → isSpace c = true) (text : Str) :
    strip (text.dropWhile blank) = strip text := by
  have spaces : ∀ c ∈ text.takeWhile blank, isSpace c = true :=
    fun c member => blankSpace c (List.mem_takeWhile_imp member)
  have whole : strip text =
      strip (text.takeWhile blank ++ text.dropWhile blank) := by
    rw [List.takeWhile_append_dropWhile]
  rw [whole, strip, strip, trim, trim, List.dropWhile_append_of_pos spaces]

/-- Trimming some blanks first makes no difference to stripping. -/
theorem strip_trim {blank : Char → Bool}
    (blankSpace : ∀ c, blank c = true → isSpace c = true) (text : Str) :
    strip (trim blank text) = strip text := by
  have spaces : ∀ c ∈ (text.dropWhile blank).rtakeWhile blank,
      isSpace c = true :=
    fun c member => blankSpace c (List.mem_rtakeWhile_imp member)
  rw [trim, ← strip_append_spaces _ spaces,
    List.rdropWhile_append_rtakeWhile, strip_dropWhile blankSpace]

end Strip

section Split

theorem split_of_not_mem {separator : Char} {text : Str}
    (absent : separator ∉ text) : split separator text = [text] :=
  List.splitOn_eq_singleton absent

theorem split_append (separator : Char) (left right : Str) :
    split separator (left ++ separator :: right) =
      split separator left ++ split separator right :=
  List.splitOn_append_cons_self left right

@[simp] theorem join_singleton (separator : Char) (piece : Str) :
    join separator [piece] = piece := by
  simp [join]

theorem join_cons_cons (separator : Char) (piece next : Str)
    (pieces : List Str) :
    join separator (piece :: next :: pieces) =
      piece ++ separator :: join separator (next :: pieces) := by
  simp [join, List.intercalate_cons_cons]

/-- What is appended to the last piece is appended to the joined text. -/
theorem join_append_last (separator : Char) (pieces : List Str)
    (last rest : Str) :
    join separator (pieces ++ [last ++ rest]) =
      join separator (pieces ++ [last]) ++ rest := by
  induction pieces with
  | nil => simp
  | cons piece pieces induction =>
      cases pieces with
      | nil => simp [join_cons_cons]
      | cons next pieces =>
          simp only [List.cons_append] at induction ⊢
          rw [join_cons_cons, join_cons_cons, induction, List.append_assoc,
            List.cons_append]

/-- Terminating every piece is joining the pieces and terminating the last. -/
theorem flatMap_terminated (separator : Char) (piece : Str)
    (pieces : List Str) :
    (piece :: pieces).flatMap (· ++ [separator]) =
      join separator (piece :: pieces) ++ [separator] := by
  induction pieces generalizing piece with
  | nil => simp
  | cons next pieces induction =>
      rw [List.flatMap_cons, induction, join_cons_cons]
      simp

/-- Splitting a joined text yields the pieces of every part, in order. -/
theorem split_join (separator : Char) (piece : Str) (pieces : List Str) :
    split separator (join separator (piece :: pieces)) =
      (piece :: pieces).flatMap (split separator) := by
  induction pieces generalizing piece with
  | nil => simp
  | cons next pieces induction =>
      rw [join_cons_cons, split_append, induction]
      simp

theorem mem_of_mem_join {separator c : Char} {pieces : List Str}
    (member : c ∈ join separator pieces) :
    c = separator ∨ ∃ piece ∈ pieces, c ∈ piece := by
  induction pieces with
  | nil => simp [join] at member
  | cons head tail induction =>
      cases tail with
      | nil =>
          rw [join_singleton] at member
          exact .inr ⟨head, by simp, member⟩
      | cons next rest =>
          rw [join_cons_cons, List.mem_append, List.mem_cons] at member
          rcases member with inHead | isSeparator | inTail
          · exact .inr ⟨head, by simp, inHead⟩
          · exact .inl isSeparator
          · rcases induction inTail with isSeparator | ⟨piece, inPieces, inside⟩
            · exact .inl isSeparator
            · exact .inr ⟨piece, List.mem_cons_of_mem head inPieces, inside⟩

theorem mem_join_of_mem {separator c : Char} {piece : Str} {pieces : List Str}
    (member : piece ∈ pieces) (inside : c ∈ piece) :
    c ∈ join separator pieces := by
  induction pieces with
  | nil => simp at member
  | cons head tail induction =>
      cases tail with
      | nil =>
          rw [List.mem_singleton] at member
          rw [join_singleton, ← member]
          exact inside
      | cons next rest =>
          rw [join_cons_cons, List.mem_append]
          rcases List.mem_cons.mp member with same | later
          · exact .inl (same ▸ inside)
          · exact .inr (List.mem_cons_of_mem _ (induction later))

/-- Splitting only removes separators. -/
theorem mem_of_mem_split {separator c : Char} {text piece : Str}
    (member : piece ∈ split separator text) (inside : c ∈ piece) :
    c ∈ text := by
  have joined : join separator (split separator text) = text :=
    List.intercalate_splitOn separator
  rw [← joined]
  exact mem_join_of_mem member inside

theorem splitOnce_of_not_mem {separator : Char} {text : Str}
    (absent : separator ∉ text) : splitOnce separator text = [text] := by
  have consumed : text.dropWhile (· != separator) = [] := by
    rw [List.dropWhile_eq_nil_iff]
    intro c member
    have different : c ≠ separator := fun equality => absent (equality ▸ member)
    simpa using different
  simp [splitOnce, consumed]

theorem splitOnce_append {separator : Char} {before : Str}
    (absent : separator ∉ before) (after : Str) :
    splitOnce separator (before ++ separator :: after) = [before, after] := by
  have kept : ∀ c ∈ before, (c != separator) = true := by
    intro c member
    have different : c ≠ separator := fun equality => absent (equality ▸ member)
    simpa using different
  simp [splitOnce, List.dropWhile_append_of_pos kept,
    List.takeWhile_append_of_pos kept]

/-- Every text containing the separator splits at its first occurrence. -/
theorem exists_first_separator {separator : Char} {text : Str}
    (member : separator ∈ text) :
    ∃ before after, text = before ++ separator :: after ∧ separator ∉ before :=
  List.eq_append_cons_of_mem member

/-- No piece has the separator in it. -/
theorem notMem_of_mem_split {separator : Char} {text piece : Str}
    (member : piece ∈ split separator text) : separator ∉ piece := by
  induction length : text.length using Nat.strong_induction_on
    generalizing text with
  | _ bound induction =>
      by_cases present : separator ∈ text
      · obtain ⟨before, after, rfl, absent⟩ := exists_first_separator present
        rw [split_append, split_of_not_mem absent] at member
        rcases List.mem_cons.mp member with rfl | later
        · exact absent
        · refine induction after.length ?_ later rfl
          rw [← length, List.length_append, List.length_cons]
          omega
      · rw [split_of_not_mem present, List.mem_singleton] at member
        rwa [member]

end Split

section Contains

theorem prefix_append_cons_iff {needle before after : Str} {c : Char}
    (absent : c ∉ needle) :
    needle <+: before ++ c :: after ↔ needle <+: before := by
  induction before generalizing needle with
  | nil =>
      cases needle with
      | nil => simp
      | cons head needle =>
          have different : head ≠ c := fun same => absent (by simp [same])
          simp [List.cons_prefix_cons, different]
  | cons head before induction =>
      cases needle with
      | nil => simp
      | cons first needle =>
          have rest := induction (fun member =>
            absent (List.mem_cons_of_mem first member))
          rw [List.cons_append, List.cons_prefix_cons, List.cons_prefix_cons,
            rest]

/-- A character that is not part of the needle separates a text into parts
that can be searched one by one. -/
theorem infix_append_cons_iff {needle before after : Str} {c : Char}
    (absent : c ∉ needle) :
    needle <:+: before ++ c :: after ↔
      needle <:+: before ∨ needle <:+: after := by
  induction before with
  | nil =>
      have start : needle <+: c :: after ↔ needle = [] := by
        rw [← List.nil_append (c :: after), prefix_append_cons_iff absent,
          List.prefix_nil]
      rw [List.nil_append, List.infix_cons_iff, List.infix_nil, start]
  | cons head before induction =>
      have start : needle <+: head :: (before ++ c :: after) ↔
          needle <+: head :: before := by
        rw [← List.cons_append, prefix_append_cons_iff absent]
      rw [List.cons_append, List.infix_cons_iff, List.infix_cons_iff, start,
        induction, or_assoc]

end Contains

section Lines

theorem readlines_append_newline {line : Str} (noNewline : '\n' ∉ line)
    (rest : Str) :
    readlines (line ++ '\n' :: rest) = (line ++ ['\n']) :: readlines rest := by
  induction line with
  | nil => rfl
  | cons c line induction =>
      have different : c ≠ '\n' := fun same => noNewline (by simp [same])
      have later := induction fun member =>
        noNewline (List.mem_cons_of_mem c member)
      rw [List.cons_append, readlines, later]
      · rfl
      · exact different

/-- The lines of a text made of terminated lines. -/
theorem readlines_flatMap_terminated {lines : List Str}
    (noNewline : ∀ line ∈ lines, '\n' ∉ line) :
    readlines (lines.flatMap (· ++ ['\n'])) = lines.map (· ++ ['\n']) := by
  induction lines with
  | nil => rfl
  | cons line lines induction =>
      have head := noNewline line (by simp)
      have tail := induction fun other member =>
        noNewline other (by simp [member])
      rw [List.flatMap_cons, List.append_assoc, List.singleton_append,
        readlines_append_newline head, tail, List.map_cons]

theorem splitlines_append_newline {line : Str}
    (oneLine : OneLine line) (rest : Str) :
    splitlines (line ++ '\n' :: rest) = line :: splitlines rest := by
  induction line with
  | nil => rfl
  | cons c line induction =>
      obtain ⟨kept, later⟩ := List.forall_mem_cons.mp oneLine
      rw [List.cons_append, splitlines, if_neg (by simp [kept]),
        induction later]
      intro rest isReturn
      rw [isReturn] at kept
      cases kept

theorem splitlines_flatMap_terminated {lines : List Str}
    (oneLine : ∀ line ∈ lines, OneLine line) :
    splitlines (lines.flatMap (· ++ ['\n'])) = lines := by
  induction lines with
  | nil => rfl
  | cons line lines induction =>
      obtain ⟨head, tail⟩ := List.forall_mem_cons.mp oneLine
      rw [List.flatMap_cons, List.append_assoc, List.singleton_append,
        splitlines_append_newline head, induction tail]

end Lines

section Replace

/-- `text.replace(old, new)` after some characters of an occurrence. -/
def replaceFrom (old new : Str) : Nat → Str → Str
  | _, [] => []
  | skipped + 1, _ :: rest => replaceFrom old new skipped rest
  | 0, c :: rest =>
      if old.isPrefixOf (c :: rest) then
        new ++ replaceFrom old new (old.length - 1) rest
      else c :: replaceFrom old new 0 rest

/-- `text.replace(old, new)`, for a text `old` that is not empty. -/
def replace (old new text : Str) : Str :=
  replaceFrom old new 0 text

theorem replaceFrom_append (old new skipped rest : Str) :
    replaceFrom old new skipped.length (skipped ++ rest) =
      replace old new rest := by
  induction skipped with
  | nil => rfl
  | cons c skipped induction =>
      rw [List.cons_append, List.length_cons, replaceFrom]
      exact induction

theorem replace_append {old : Str} (nonempty : old ≠ []) (new rest : Str) :
    replace old new (old ++ rest) = new ++ replace old new rest := by
  cases old with
  | nil => exact absurd rfl nonempty
  | cons c old =>
      have occurs : (c :: old).isPrefixOf (c :: (old ++ rest)) = true := by
        rw [List.isPrefixOf_iff_prefix]
        exact ⟨rest, rfl⟩
      rw [List.cons_append, replace, replaceFrom, if_pos occurs,
        List.length_cons, Nat.add_sub_cancel, replaceFrom_append]

/-- A text that lacks a character of another has no occurrence of it. -/
theorem replace_of_not_mem {old text : Str} {c : Char} (inOld : c ∈ old)
    (absent : c ∉ text) (new : Str) : replace old new text = text := by
  induction text with
  | nil => rfl
  | cons first text induction =>
      have later := induction fun member =>
        absent (List.mem_cons_of_mem first member)
      have nowhere : old.isPrefixOf (first :: text) = false := by
        rw [Bool.eq_false_iff, Ne, List.isPrefixOf_iff_prefix]
        intro occurs
        exact absent (occurs.subset inOld)
      rw [replace, replaceFrom, nowhere]
      exact congrArg (first :: ·) later

end Replace

section Words

@[simp] theorem words_nil : words [] = [] :=
  rfl

theorem words_append_space (left right : Str) {c : Char}
    (space : isSpace c = true) :
    words (left ++ c :: right) = words left ++ words right := by
  unfold words
  rw [List.splitOnP_append_cons _ _ space, List.filter_append]

theorem words_of_solid {word : Str} (nonempty : word ≠ [])
    (solid : ∀ c ∈ word, isSpace c = false) : words word = [word] := by
  unfold words
  rw [List.splitOnP_eq_singleton solid]
  simp [nonempty]

/-- A needle without blanks is found within one word. -/
theorem infix_iff_exists_word {needle : Str} (nonempty : needle ≠ [])
    (solid : ∀ c ∈ needle, isSpace c = false) (text : Str) :
    needle <:+: text ↔ ∃ word ∈ words text, needle <:+: word := by
  induction length : text.length using Nat.strong_induction_on
    generalizing text with
  | _ n induction =>
      by_cases spaced : ∃ c ∈ text, isSpace c = true
      · obtain ⟨c, member, space⟩ := spaced
        obtain ⟨left, right, rfl⟩ := List.append_of_mem member
        have absent : c ∉ needle := by
          intro inNeedle
          rw [solid c inNeedle] at space
          cases space
        rw [List.length_append, List.length_cons] at length
        rw [infix_append_cons_iff absent, words_append_space _ _ space,
          induction _ (by omega) left rfl, induction _ (by omega) right rfl]
        simp only [List.mem_append, or_and_right, exists_or]
      · have whole : ∀ c ∈ text, isSpace c = false := by
          intro c member
          rw [Bool.eq_false_iff]
          exact fun space => spaced ⟨c, member, space⟩
        by_cases empty : text = []
        · simp [empty, nonempty]
        · rw [words_of_solid empty whole]
          simp

end Words

section NewName

/-- A name that is longer than all of the given ones. -/
def newName (names : List Str) : Str :=
  List.replicate (names.flatten.length + 1) 'v'

theorem newName_notMem (names : List Str) : newName names ∉ names := by
  intro member
  have length := (List.sublist_flatten_of_mem member).length_le
  rw [newName, List.length_replicate] at length
  omega

end NewName

end Whitebox.Python
