import Mathlib.Algebra.Order.Floor.Ring
import OranE2.Library.Rounding

/-!
# Quantisers

A range is divided by equally spaced levels, which are numbered from zero.  A
value is coded by rounding along the line through the ends of the range, and a
value outside the range by the level at its end.
-/

namespace OranE2
namespace Library

structure Quantiser (α : Type*) [Field α] [LinearOrder α] where
  start : α
  stop : α
  top : Nat
  start_lt_stop : start < stop
  top_pos : 0 < top

namespace Quantiser

variable {α : Type*} [Field α] [LinearOrder α]

def slope (q : Quantiser α) : α :=
  q.top / (q.stop - q.start)

def level (q : Quantiser α) (k : Int) : α :=
  q.start + k / q.slope

def code [FloorRing α] (q : Quantiser α) (x : α) : Int :=
  if x < q.start then 0
  else if q.stop < x then q.top
  else roundAway (q.slope * (x - q.start))

theorem level_zero (q : Quantiser α) : q.level 0 = q.start := by
  unfold level
  rw [Int.cast_zero, zero_div, add_zero]

section

variable [FloorRing α]

theorem code_below {q : Quantiser α} {x : α} (h : x < q.start) :
    q.code x = 0 :=
  if_pos h

theorem code_above {q : Quantiser α} {x : α} (h : q.stop < x) :
    q.code x = q.top := by
  unfold code
  rw [if_neg (not_lt.mpr (q.start_lt_stop.trans h).le), if_pos h]

theorem code_within {q : Quantiser α} {x : α} (hlow : q.start ≤ x)
    (hhigh : x ≤ q.stop) :
    q.code x = roundAway (q.slope * (x - q.start)) := by
  unfold code
  rw [if_neg (not_lt.mpr hlow), if_neg (not_lt.mpr hhigh)]

end

variable [IsStrictOrderedRing α]

theorem slope_pos (q : Quantiser α) : 0 < q.slope :=
  div_pos (Nat.cast_pos.mpr q.top_pos) (sub_pos.mpr q.start_lt_stop)

theorem slope_mul_range (q : Quantiser α) :
    q.slope * (q.stop - q.start) = q.top :=
  div_mul_cancel₀ _ (sub_pos.mpr q.start_lt_stop).ne'

theorem slope_mul_level (q : Quantiser α) (k : Int) :
    q.slope * (q.level k - q.start) = k := by
  unfold level
  rw [add_sub_cancel_left]
  exact mul_div_cancel₀ _ q.slope_pos.ne'

theorem level_mono (q : Quantiser α) {j k : Int} (hjk : j ≤ k) :
    q.level j ≤ q.level k := by
  have hcast : (j : α) ≤ k := Int.cast_le.mpr hjk
  exact add_le_add_right (div_le_div_of_nonneg_right hcast q.slope_pos.le) _

theorem level_top (q : Quantiser α) : q.level q.top = q.stop := by
  have hrange : (q.top : α) / q.slope = q.stop - q.start := by
    rw [← q.slope_mul_range]
    exact mul_div_cancel_left₀ _ q.slope_pos.ne'
  unfold level
  rw [Int.cast_natCast, hrange, add_sub_cancel]

theorem slope_mul_abs_sub_level (q : Quantiser α) (x : α) (k : Int) :
    q.slope * |x - q.level k| = |q.slope * (x - q.start) - k| := by
  have hscale : q.slope * (x - q.level k) = q.slope * (x - q.start) - k := by
    rw [← q.slope_mul_level k, ← mul_sub, sub_sub_sub_cancel_right]
  rw [← hscale, abs_mul, abs_of_pos q.slope_pos]

variable [FloorRing α]

theorem code_level (q : Quantiser α) {k : Int} (hk : 0 ≤ k)
    (hk' : k ≤ q.top) : q.code (q.level k) = k := by
  have hlow := q.level_mono hk
  have hhigh := q.level_mono hk'
  rw [level_zero] at hlow
  rw [level_top] at hhigh
  rw [code_within hlow hhigh, slope_mul_level, roundAway_intCast]

theorem code_start (q : Quantiser α) : q.code q.start = 0 := by
  have hlevel := q.code_level (le_refl 0) (Int.natCast_nonneg q.top)
  rw [level_zero] at hlevel
  exact hlevel

theorem code_stop (q : Quantiser α) : q.code q.stop = q.top := by
  have hlevel := q.code_level (Int.natCast_nonneg q.top) (le_refl (q.top : Int))
  rw [level_top] at hlevel
  exact hlevel

theorem code_mono_within {q : Quantiser α} {x y : α} (hlow : q.start ≤ x)
    (hxy : x ≤ y) (hhigh : y ≤ q.stop) : q.code x ≤ q.code y := by
  rw [code_within hlow (hxy.trans hhigh), code_within (hlow.trans hxy) hhigh]
  apply roundAway_mono
  exact mul_le_mul_of_nonneg_left (sub_le_sub_right hxy _) q.slope_pos.le

theorem code_bounds (q : Quantiser α) (x : α) :
    0 ≤ q.code x ∧ q.code x ≤ q.top := by
  by_cases hlow : x < q.start
  · rw [code_below hlow]
    exact ⟨le_rfl, Int.natCast_nonneg _⟩
  · by_cases hhigh : q.stop < x
    · rw [code_above hhigh]
      exact ⟨Int.natCast_nonneg _, le_rfl⟩
    · have hfirst := code_mono_within le_rfl (not_lt.mp hlow) (not_lt.mp hhigh)
      have hlast := code_mono_within (not_lt.mp hlow) (not_lt.mp hhigh) le_rfl
      rw [code_start] at hfirst
      rw [code_stop] at hlast
      exact ⟨hfirst, hlast⟩

theorem code_mono (q : Quantiser α) {x y : α} (hxy : x ≤ y) :
    q.code x ≤ q.code y := by
  by_cases hlow : x < q.start
  · rw [code_below hlow]
    exact (q.code_bounds y).left
  · by_cases hhigh : q.stop < y
    · rw [code_above hhigh]
      exact (q.code_bounds x).right
    · exact code_mono_within (not_lt.mp hlow) hxy (not_lt.mp hhigh)

/-- No level is nearer to a value than that of its code. -/
theorem abs_sub_level_code_le (q : Quantiser α) (x : α) {j : Int}
    (hj : 0 ≤ j) (hj' : j ≤ q.top) :
    |x - q.level (q.code x)| ≤ |x - q.level j| := by
  have hfirst := q.level_mono hj
  have hlast := q.level_mono hj'
  rw [level_zero] at hfirst
  rw [level_top] at hlast
  by_cases hlow : x < q.start
  · rw [code_below hlow, level_zero, abs_of_neg (sub_neg.mpr hlow),
      abs_of_neg (sub_neg.mpr (hlow.trans_le hfirst))]
    exact neg_le_neg (sub_le_sub_left hfirst x)
  · by_cases hhigh : q.stop < x
    · rw [code_above hhigh, level_top, abs_of_pos (sub_pos.mpr hhigh),
        abs_of_pos (sub_pos.mpr (hlast.trans_lt hhigh))]
      exact sub_le_sub_left hlast x
    · apply le_of_mul_le_mul_left _ q.slope_pos
      rw [slope_mul_abs_sub_level, slope_mul_abs_sub_level,
        code_within (not_lt.mp hlow) (not_lt.mp hhigh)]
      exact abs_sub_roundAway_le _ j

theorem abs_sub_level_code_le_half {q : Quantiser α} {x : α}
    (hlow : q.start ≤ x) (hhigh : x ≤ q.stop) :
    q.slope * |x - q.level (q.code x)| ≤ 1 / 2 := by
  rw [slope_mul_abs_sub_level, code_within hlow hhigh]
  exact abs_sub_roundAway_le_half _

end Quantiser

end Library
end OranE2
