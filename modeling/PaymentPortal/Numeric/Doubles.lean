import Mathlib.Algebra.Order.Field.Power
import Mathlib.Data.Int.Log
import Mathlib.Data.Rat.Floor
import Mathlib.Tactic.Linarith
import Mathlib.Tactic.NormNum
import Mathlib.Tactic.Positivity
import Mathlib.Tactic.Ring

/-!
# Numbers as doubles

A number of the language is the double nearest to what its literal says, and a
product is the double nearest to the product of its factors.  Each of these
steps errs by one part in `2 ^ 53` at most.
-/

namespace PaymentPortal.Numeric

/-- The nearest integer, the even one of two. -/
def roundHalfEven (value : Rat) : Int :=
  let below := value.floor
  let rest := value - below
  if rest < 1 / 2 ∨ (rest = 1 / 2 ∧ 2 ∣ below) then below else below + 1

/-- The nearest integer is at most a half away. -/
theorem abs_roundHalfEven_sub_le (value : Rat) :
    |(roundHalfEven value : Rat) - value| ≤ 1 / 2 := by
  have below : (value.floor : Rat) ≤ value := Int.floor_le value
  have above : value < value.floor + 1 := Int.lt_floor_add_one value
  unfold roundHalfEven
  dsimp only
  rw [abs_le]
  split
  · next near =>
    have : value - value.floor ≤ 1 / 2 := by
      rcases near with near | ⟨near, _⟩ <;> exact near.le
    constructor <;> linarith
  · next far =>
    have : 1 / 2 ≤ value - value.floor := by
      by_contra near
      exact far (.inl (not_le.mp near))
    push_cast
    constructor <;> linarith

/-- The double that stands for a number, which is far from the ends of the range
of doubles. -/
def nearestDouble (value : Rat) : Rat :=
  let unit : Rat := 2 ^ (Int.log 2 |value| - 52)
  roundHalfEven (value / unit) * unit

/-- A number is at least `2 ^ 52` times the last place of its double. -/
theorem half_lastPlace_le {value : Rat} (nonzero : value ≠ 0) :
    (2 : Rat) ^ (Int.log 2 |value| - 52) / 2 ≤ |value| / 2 ^ 53 := by
  have leading : (2 : Rat) ^ Int.log 2 |value| ≤ |value| := by
    exact_mod_cast Int.zpow_log_le_self (b := 2) (by norm_num)
      (abs_pos.mpr nonzero)
  have places : (2 : Rat) ^ (52 : Int) * 2 = 2 ^ 53 := by norm_num
  rw [zpow_sub₀ (by norm_num), div_div, places]
  gcongr

/-- A double has 53 significant bits. -/
theorem abs_nearestDouble_sub_le (value : Rat) :
    |nearestDouble value - value| ≤ |value| / 2 ^ 53 := by
  rcases eq_or_ne value 0 with rfl | nonzero
  · have : roundHalfEven 0 = 0 := by decide +kernel
    simp [nearestDouble, this]
  have lastPlace := half_lastPlace_le nonzero
  have positive : (0 : Rat) < 2 ^ (Int.log 2 |value| - 52) := by positivity
  unfold nearestDouble
  dsimp only
  generalize (2 : Rat) ^ (Int.log 2 |value| - 52) = unit at lastPlace positive ⊢
  have near := abs_roundHalfEven_sub_le (value / unit)
  have scaled : roundHalfEven (value / unit) * unit - value =
      (roundHalfEven (value / unit) - value / unit) * unit := by
    rw [sub_mul, div_mul_cancel₀ value positive.ne']
  rw [scaled, abs_mul, abs_of_pos positive]
  calc |(roundHalfEven (value / unit) : Rat) - value / unit| * unit
      ≤ 1 / 2 * unit := by gcongr
    _ = unit / 2 := by ring
    _ ≤ |value| / 2 ^ 53 := lastPlace

/--
A factor that is read as a double and the product that is read as one together
move the product by less than a half, if it is not too large.
-/
theorem abs_nearestDouble_mul_sub_lt {value factor : Rat}
    (small : |value * factor| < 2 ^ 50) :
    |nearestDouble (nearestDouble value * factor) - value * factor| <
      1 / 2 := by
  have read : |nearestDouble value * factor - value * factor| ≤
      |value * factor| / 2 ^ 53 := by
    rw [← sub_mul, abs_mul, abs_mul, mul_div_right_comm]
    gcongr
    exact abs_nearestDouble_sub_le value
  have product := abs_nearestDouble_sub_le (nearestDouble value * factor)
  have grown := abs_sub_abs_le_abs_sub (nearestDouble value * factor)
    (value * factor)
  have apart := abs_sub_le (nearestDouble (nearestDouble value * factor))
    (nearestDouble value * factor) (value * factor)
  linarith

end PaymentPortal.Numeric
