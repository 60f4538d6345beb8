import Mathlib.Algebra.Order.Round
import Mathlib.Algebra.Order.Field.Basic
import Mathlib.Tactic.FieldSimp
import Mathlib.Tactic.Linarith
import Mathlib.Tactic.Ring

/-!
# Rounding half away from zero

The nearest integer, where a value halfway between two integers goes to the one
further from zero.  Along a line of positive slope the arguments that round to
an integer form a half-open interval.
-/

namespace OranE2
namespace Library

variable {α : Type*} [Field α] [LinearOrder α] [FloorRing α]

def roundAway (x : α) : Int :=
  if 0 ≤ x then round x else -round (-x)

theorem roundAway_of_nonneg {x : α} (hx : 0 ≤ x) : roundAway x = round x := by
  unfold roundAway
  rw [if_pos hx]

variable [IsStrictOrderedRing α]

theorem roundAway_eq_iff {x : α} (hx : 0 ≤ x) (n : Int) :
    roundAway x = n <-> (n : α) - 1 / 2 ≤ x ∧ x < n + 1 / 2 := by
  rw [roundAway_of_nonneg hx, round_eq_iff, Set.mem_Ico]

@[simp] theorem roundAway_intCast (n : Int) : roundAway (n : α) = n := by
  unfold roundAway
  split
  · exact round_intCast n
  · rw [← Int.cast_neg, round_intCast, neg_neg]

theorem abs_sub_roundAway_le (x : α) (n : Int) :
    |x - roundAway x| ≤ |x - n| := by
  unfold roundAway
  split
  · exact round_le x n
  · have hround := round_le (-x) (-n)
    rw [Int.cast_neg, neg_sub_neg, abs_sub_comm (n : α) x] at hround
    rw [Int.cast_neg, sub_neg_eq_add, ← abs_neg, neg_add, ← sub_eq_add_neg]
    exact hround

theorem abs_sub_roundAway_le_half (x : α) : |x - roundAway x| ≤ 1 / 2 :=
  (abs_sub_roundAway_le x (round x)).trans (abs_sub_round x)

theorem roundAway_mono {x y : α} (hxy : x ≤ y) :
    roundAway x ≤ roundAway y := by
  by_contra hlt
  have hstep : (roundAway y : α) + 1 ≤ roundAway x := by
    exact_mod_cast Int.add_one_le_of_lt (not_le.mp hlt)
  have hx := abs_le.mp (abs_sub_roundAway_le_half x)
  have hy := abs_le.mp (abs_sub_roundAway_le_half y)
  have heq : x = y := by
    linarith [hx.left, hy.right]
  rw [heq] at hlt
  exact hlt le_rfl

/-- The arguments that a line of slope `p / q` sends to `n`. -/
theorem roundAway_scale_eq_iff {p q x : α} (hp : 0 < p) (hq : 0 < q)
    (hx : 0 ≤ x) (n : Int) :
    roundAway (p / q * x) = n <->
      q * (2 * n - 1) ≤ 2 * p * x ∧ 2 * p * x < q * (2 * n + 1) := by
  have hscaled : 0 ≤ p / q * x := mul_nonneg (div_pos hp hq).le hx
  have hq2 : 0 < 2 * q := mul_pos two_pos hq
  have hcancel : 2 * q * (p / q * x) = 2 * p * x := by
    field_simp
  have hlower : 2 * q * ((n : α) - 1 / 2) = q * (2 * n - 1) := by
    ring
  have hupper : 2 * q * ((n : α) + 1 / 2) = q * (2 * n + 1) := by
    ring
  rw [roundAway_eq_iff hscaled, <- mul_le_mul_iff_right₀ hq2,
    <- mul_lt_mul_iff_right₀ hq2, hcancel, hlower, hupper]

end Library
end OranE2
