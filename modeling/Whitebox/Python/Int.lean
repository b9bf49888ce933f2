import Whitebox.Python.Text

/-!
# Python integers as text

`str(n)` for an `int` and `int(text)` for a `str`, in base ten.  Numbers are
unbounded: the digit limit some interpreters put on these conversions is off.
-/

namespace Whitebox.Python

/-- The zeros of the blocks of ten decimal digits in Unicode. -/
def digitZeros : List Nat :=
  [0x30, 0x660, 0x6f0, 0x7c0, 0x966, 0x9e6, 0xa66, 0xae6, 0xb66, 0xbe6,
    0xc66, 0xce6, 0xd66, 0xde6, 0xe50, 0xed0, 0xf20, 0x1040, 0x1090,
    0x17e0, 0x1810, 0x1946, 0x19d0, 0x1a80, 0x1a90, 0x1b50, 0x1bb0,
    0x1c40, 0x1c50, 0xa620, 0xa8d0, 0xa900, 0xa9d0, 0xa9f0, 0xaa50,
    0xabf0, 0xff10, 0x104a0, 0x10d30, 0x11066, 0x110f0, 0x11136, 0x111d0,
    0x112f0, 0x11450, 0x114d0, 0x11650, 0x116c0, 0x11730, 0x118e0,
    0x11950, 0x11c50, 0x11d50, 0x11da0, 0x16a60, 0x16ac0, 0x16b50,
    0x1d7ce, 0x1d7d8, 0x1d7e2, 0x1d7ec, 0x1d7f6, 0x1e140, 0x1e2f0,
    0x1e950, 0x1fbf0]

/-- The value of a decimal digit of any script. -/
def decimalValue (c : Char) : Option Nat :=
  (digitZeros.find? fun first => first ≤ c.toNat && c.toNat < first + 10).map
    (c.toNat - ·)

/-- The digits that follow a digit; one underscore may precede each. -/
def moreDigits (value : Nat) : Str → Option Nat
  | [] => some value
  | '_' :: c :: rest => do
      let digit ← decimalValue c
      moreDigits (10 * value + digit) rest
  | c :: rest => do
      let digit ← decimalValue c
      moreDigits (10 * value + digit) rest

def natural : Str → Option Nat
  | [] => none
  | c :: rest => do
      let digit ← decimalValue c
      moreDigits digit rest

/-- White space as `int` skips it, which leaves the separators 0x1c to 0x1f
in place. -/
def isIntSpace (c : Char) : Bool :=
  isSpace c && !(0x1c ≤ c.toNat && c.toNat ≤ 0x1f)

/-- `int(text)`, with `none` for `ValueError`. -/
def int (text : Str) : Option Int :=
  match trim isIntSpace text with
  | '-' :: rest => (natural rest).map Int.negOfNat
  | '+' :: rest => (natural rest).map Int.ofNat
  | rest => (natural rest).map Int.ofNat

/-- `str(number)`. -/
def str : Int → Str
  | .ofNat magnitude => Nat.toDigits 10 magnitude
  | .negSucc pred => '-' :: Nat.toDigits 10 (pred + 1)

theorem int_nil : int [] = none :=
  rfl

theorem int_append_blank (text : Str) {c : Char}
    (blank : isIntSpace c = true) : int (text ++ [c]) = int text := by
  rw [int, trim_append_blank text blank, ← int]

theorem int_nonneg {text : Str} {number : Int} (noMinus : '-' ∉ text)
    (accepted : int text = some number) : 0 ≤ number := by
  unfold int at accepted
  split at accepted
  · rename_i rest shape
    have minus : '-' ∈ trim isIntSpace text := by simp [shape]
    exact absurd (mem_of_mem_trim minus) noMinus
  all_goals
    obtain ⟨magnitude, _, rfl⟩ := Option.map_eq_some_iff.mp accepted
    exact Int.natCast_nonneg magnitude

section Digits

theorem isDigit_iff {c : Char} :
    c.isDigit = true ↔ 48 ≤ c.toNat ∧ c.toNat ≤ 57 := by
  simp [Char.isDigit, UInt32.le_iff_toNat_le]

theorem decimalValue_of_isDigit {c : Char} (digit : c.isDigit = true) :
    decimalValue c = some (c.toNat - 48) := by
  obtain ⟨lower, upper⟩ := isDigit_iff.mp digit
  have below : c.toNat < 58 := by omega
  simp [decimalValue, digitZeros, lower, below]

theorem isSpace_of_isDigit {c : Char} (digit : c.isDigit = true) :
    isSpace c = false := by
  obtain ⟨lower, upper⟩ := isDigit_iff.mp digit
  simp [isSpace]
  omega

theorem ne_of_isDigit {c other : Char} (digit : c.isDigit = true)
    (notDigit : other.isDigit = false) : c ≠ other := by
  intro same
  rw [same, notDigit] at digit
  cases digit

theorem moreDigits_of_isDigit {text : Str}
    (digits : ∀ c ∈ text, c.isDigit = true) (value : Nat) :
    moreDigits value text = some (Nat.ofDigitChars 10 text value) := by
  induction text generalizing value with
  | nil => rfl
  | cons c rest induction =>
      have head := digits c (by simp)
      have noUnderscore : c ≠ '_' := ne_of_isDigit head rfl
      rw [moreDigits, decimalValue_of_isDigit head, Nat.ofDigitChars_cons]
      · exact induction (fun other member => digits other (by simp [member])) _
      · intro _ _ underscore
        exact absurd underscore noUnderscore

theorem natural_of_isDigit {text : Str} (nonempty : text ≠ [])
    (digits : ∀ c ∈ text, c.isDigit = true) :
    natural text = some (Nat.ofDigitChars 10 text 0) := by
  cases text with
  | nil => exact absurd rfl nonempty
  | cons c rest =>
      rw [natural, decimalValue_of_isDigit (digits c (by simp)),
        Nat.ofDigitChars_cons, Nat.mul_zero, Nat.zero_add]
      exact moreDigits_of_isDigit
        (fun other member => digits other (by simp [member])) _

theorem isDigit_of_mem_str {magnitude : Nat} {c : Char}
    (member : c ∈ str (magnitude : Int)) : c.isDigit = true :=
  Nat.isDigit_of_mem_toDigits (by decide) (by decide) member

theorem isDigit_or_minus_of_mem_str {number : Int} {c : Char}
    (member : c ∈ str number) : c.isDigit = true ∨ c = '-' := by
  cases number with
  | ofNat magnitude => exact .inl (isDigit_of_mem_str member)
  | negSucc pred =>
      rcases List.mem_cons.mp member with minus | digit
      · exact .inr minus
      · exact .inl (isDigit_of_mem_str digit)

theorem str_ne_nil (number : Int) : str number ≠ [] := by
  cases number with
  | ofNat magnitude => exact Nat.toDigits_ne_nil
  | negSucc pred => simp [str]

theorem int_of_isDigit {text : Str} (nonempty : text ≠ [])
    (digits : ∀ c ∈ text, c.isDigit = true) :
    int text = some (Nat.ofDigitChars 10 text 0 : Int) := by
  have trimmed : trim isIntSpace text = text := by
    apply trim_eq_self
    intro c member
    simp [isIntSpace, isSpace_of_isDigit (digits c member)]
  unfold int
  rw [trimmed]
  split
  · exact absurd (digits '-' (by simp)) (by decide)
  · exact absurd (digits '+' (by simp)) (by decide)
  · rw [natural_of_isDigit nonempty digits]
    rfl

/-- Printing a natural number and reading it back gives the number. -/
theorem int_str (magnitude : Nat) :
    int (str (magnitude : Int)) = some (magnitude : Int) := by
  rw [int_of_isDigit (str_ne_nil _) fun c member => isDigit_of_mem_str member]
  exact congrArg (some ∘ Int.ofNat) Nat.ofDigitChars_ten_toDigits

/-- Different numbers are printed differently. -/
theorem str_injective : Function.Injective str := by
  have naturals : ∀ m n : Nat, str (m : Int) = str (n : Int) → m = n := by
    intro m n same
    have read : some (m : Int) = some (n : Int) := by
      rw [← int_str, ← int_str, same]
    exact_mod_cast Option.some.inj read
  have signs : ∀ m n : Nat, str (m : Int) ≠ str (Int.negSucc n) := by
    intro m n same
    have minus : '-' ∈ str (m : Int) := by
      rw [same]
      exact List.mem_cons_self
    exact absurd (isDigit_of_mem_str minus) (by decide)
  intro left right same
  cases left with
  | ofNat m =>
      cases right with
      | ofNat n => exact congrArg Int.ofNat (naturals m n same)
      | negSucc n => exact absurd same (signs m n)
  | negSucc m =>
      cases right with
      | ofNat n => exact absurd same.symm (signs n m)
      | negSucc n =>
          have digits := naturals (m + 1) (n + 1) (List.cons.inj same).2
          rw [Nat.succ.inj digits]

end Digits

section Blanks

/-- No decimal digit of any script is a blank. -/
theorem isSpace_of_decimalValue {c : Char} {digit : Nat}
    (value : decimalValue c = some digit) : isSpace c = false := by
  have blocks : ∀ first ∈ digitZeros, ∀ offset < 10,
      isSpace (Char.ofNat (first + offset)) = false := by
    decide +kernel
  obtain ⟨first, found, _⟩ := Option.map_eq_some_iff.mp value
  have inBlock := List.find?_some found
  simp only [Bool.and_eq_true, decide_eq_true_eq] at inBlock
  have solid := blocks first (List.mem_of_find?_eq_some found)
    (c.toNat - first) (by omega)
  rwa [Nat.add_sub_cancel' inBlock.1, Char.ofNat_toNat] at solid

theorem mem_moreDigits {text : Str} {value number : Nat}
    (read : moreDigits value text = some number) :
    ∀ c ∈ text, c = '_' ∨ ∃ digit, decimalValue c = some digit := by
  fun_induction moreDigits value text with
  | case1 => simp
  | case2 value c rest induction =>
      obtain ⟨digit, isDigit, later⟩ := Option.bind_eq_some_iff.mp read
      intro other member
      simp only [List.mem_cons] at member
      rcases member with rfl | rfl | inRest
      · exact .inl rfl
      · exact .inr ⟨digit, isDigit⟩
      · exact induction digit later other inRest
  | case3 value c rest _ induction =>
      obtain ⟨digit, isDigit, later⟩ := Option.bind_eq_some_iff.mp read
      intro other member
      simp only [List.mem_cons] at member
      rcases member with rfl | inRest
      · exact .inr ⟨digit, isDigit⟩
      · exact induction digit later other inRest

theorem mem_natural {text : Str} {number : Nat}
    (read : natural text = some number) :
    ∀ c ∈ text, c = '_' ∨ ∃ digit, decimalValue c = some digit := by
  cases text with
  | nil => simp
  | cons c rest =>
      obtain ⟨digit, isDigit, later⟩ := Option.bind_eq_some_iff.mp read
      intro other member
      rcases List.mem_cons.mp member with rfl | inRest
      · exact .inr ⟨digit, isDigit⟩
      · exact mem_moreDigits later other inRest

/-- The characters of a text that `int` accepts, blanks around it apart. -/
theorem mem_trim_of_int {text : Str} {number : Int}
    (accepted : int text = some number) :
    ∀ c ∈ trim isIntSpace text, c = '-' ∨ c = '+' ∨ c = '_' ∨
      ∃ digit, decimalValue c = some digit := by
  intro c member
  unfold int at accepted
  split at accepted
  · rename_i rest shape
    obtain ⟨magnitude, read, _⟩ := Option.map_eq_some_iff.mp accepted
    rw [shape] at member
    rcases List.mem_cons.mp member with minus | inRest
    · exact .inl minus
    · exact .inr (.inr (mem_natural read c inRest))
  · rename_i rest shape
    obtain ⟨magnitude, read, _⟩ := Option.map_eq_some_iff.mp accepted
    rw [shape] at member
    rcases List.mem_cons.mp member with plus | inRest
    · exact .inr (.inl plus)
    · exact .inr (.inr (mem_natural read c inRest))
  · obtain ⟨magnitude, read, _⟩ := Option.map_eq_some_iff.mp accepted
    exact .inr (.inr (mem_natural read c member))

theorem trim_solid_of_int {text : Str} {number : Int}
    (accepted : int text = some number) :
    ∀ c ∈ trim isIntSpace text, isSpace c = false := by
  intro c member
  rcases mem_trim_of_int accepted c member with rfl | rfl | rfl | ⟨_, value⟩
  · rfl
  · rfl
  · rfl
  · exact isSpace_of_decimalValue value

theorem strip_of_int {text : Str} {number : Int}
    (accepted : int text = some number) :
    strip text = trim isIntSpace text := by
  have blank : ∀ c, isIntSpace c = true → isSpace c = true := by
    intro c space
    rw [isIntSpace, Bool.and_eq_true] at space
    exact space.1
  rw [← strip_trim blank text]
  exact trim_eq_self (trim_solid_of_int accepted)

/-- What `int` accepts, it accepts without the blanks around it. -/
theorem int_strip {text : Str} {number : Int}
    (accepted : int text = some number) : int (strip text) = some number := by
  have solid := trim_solid_of_int accepted
  have again : trim isIntSpace (trim isIntSpace text) =
      trim isIntSpace text := by
    apply trim_eq_self
    intro c member
    rw [isIntSpace, solid c member, Bool.false_and]
  rw [strip_of_int accepted, int, again]
  exact accepted

theorem caret_notMem_of_int {text : Str} {number : Int}
    (accepted : int text = some number) : '^' ∉ strip text := by
  intro member
  rw [strip_of_int accepted] at member
  rcases mem_trim_of_int accepted '^' member with
    minus | plus | underscore | ⟨digit, value⟩
  · exact absurd minus (by decide)
  · exact absurd plus (by decide)
  · exact absurd underscore (by decide)
  · have none : decimalValue '^' = none := by decide
    rw [none] at value
    cases value

end Blanks

end Whitebox.Python
