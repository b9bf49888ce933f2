import Mathlib.Algebra.Order.Floor.Ring
import Mathlib.Data.Rat.Floor

/-!
# Python numbers with a fraction

The value of a `float` is a rational number.  Dividing two integers gives the
`float` closest to the quotient, which is the quotient itself as long as it
has at most 53 significant bits.
-/

namespace Whitebox.Python

/-- `int(value)`, which drops the fraction. -/
def truncate (value : ℚ) : ℤ :=
  if value < 0 then ⌈value⌉ else ⌊value⌋

/-- The closest number with at most 53 significant bits; of two that are as
close, the one with an even last bit. -/
def roundFloat (magnitude : Nat) : Nat :=
  let unit := 2 ^ (magnitude.log2 - 52)
  let low := magnitude / unit
  let rest := magnitude % unit
  if 2 * rest < unit ∨ 2 * rest = unit ∧ low % 2 = 0 then low * unit
  else (low + 1) * unit

/-- `sys.float_info.max_exp`: a `float` is less than this power of two. -/
def maxExponent : Nat := 1024

/-- `number / 2`, with `none` for `OverflowError`. -/
def half (number : Int) : Option ℚ :=
  if 2 ^ (maxExponent + 1) ≤ roundFloat number.natAbs then none
  else some (((number.sign * roundFloat number.natAbs : Int) : ℚ) / 2)

theorem truncate_mono {lower upper : ℚ} (order : lower ≤ upper) :
    truncate lower ≤ truncate upper := by
  unfold truncate
  split
  · split
    · exact Int.ceil_le_ceil order
    · next negative nonnegative =>
        calc
          ⌈lower⌉ ≤ 0 := Int.ceil_le.mpr (by exact_mod_cast negative.le)
          _ ≤ ⌊upper⌋ := Int.floor_nonneg.mpr (not_lt.mp nonnegative)
  · split
    · next nonnegative negative =>
        exact absurd (lt_of_le_of_lt order negative) nonnegative
    · exact Int.floor_le_floor order

theorem le_truncate {number : ℤ} {value : ℚ} (order : number ≤ value) :
    number ≤ truncate value := by
  unfold truncate
  split
  · exact_mod_cast order.trans (Int.le_ceil value)
  · exact Int.le_floor.mpr order

theorem roundFloat_of_lt {magnitude : Nat} (small : magnitude < 2 ^ 53) :
    roundFloat magnitude = magnitude := by
  have bits : magnitude.log2 - 52 = 0 := by
    rcases Nat.eq_zero_or_pos magnitude with rfl | positive
    · rfl
    · have below := (Nat.log2_lt positive.ne').mpr small
      omega
  simp [roundFloat, bits, Nat.mod_one]

/-- Dividing a number with at most 53 bits by two is exact. -/
theorem half_of_lt {number : Int} (small : number.natAbs < 2 ^ 53) :
    half number = some ((number : ℚ) / 2) := by
  have exponents : 53 ≤ maxExponent + 1 := by decide
  have finite : number.natAbs < 2 ^ (maxExponent + 1) :=
    small.trans_le (pow_le_pow_right₀ one_le_two exponents)
  rw [half, roundFloat_of_lt small, if_neg (not_le.mpr finite),
    Int.sign_mul_natAbs]

end Whitebox.Python
