import OranE2.Library.Quantiser
import OranE2.L3Rrc.Sinr

/-!
# Reading a SINR back from its code

`ThreeGppMapSinr` divides its range into equal steps.  The code that it gives is
that of the nearest step, and reading it back costs at most half of one.
-/

namespace OranE2
namespace L3Rrc

open Library

def sinrQuantiser : Quantiser Rat where
  start := -23
  stop := 40
  top := 127
  start_lt_stop := by norm_num
  top_pos := by norm_num

def codedSinr (k : Int) : Rat :=
  -23 + 63 / 127 * k

theorem slope_sinrQuantiser : sinrQuantiser.slope = 127 / 63 := by
  show ((127 : Nat) : Rat) / (40 - -23) = 127 / 63
  norm_num

theorem level_sinrQuantiser (k : Int) :
    sinrQuantiser.level k = codedSinr k := by
  unfold Quantiser.level codedSinr
  rw [slope_sinrQuantiser]
  show -23 + (k : Rat) / (127 / 63) = _
  ring

/-- The function in the source is the quantiser. -/
theorem threeGppMapSinr_eq_code (s : Rat) :
    threeGppMapSinr s = sinrQuantiser.code s := by
  by_cases hlow : s < -23
  · have hcode : sinrQuantiser.code s = 0 := Quantiser.code_below hlow
    rw [threeGppMapSinr_below hlow, hcode, Int.cast_zero]
  · by_cases hhigh : 40 < s
    · have hcode : sinrQuantiser.code s = (127 : Nat) :=
        Quantiser.code_above hhigh
      rw [threeGppMapSinr_above hhigh.le, hcode]
      norm_num
    · have hcode : sinrQuantiser.code s =
          roundAway (sinrQuantiser.slope * (s - -23)) :=
        Quantiser.code_within (not_lt.mp hlow) (not_lt.mp hhigh)
      rw [threeGppMapSinr_line (not_lt.mp hlow) (not_lt.mp hhigh), hcode,
        slope_sinrQuantiser, sub_neg_eq_add]

/-- The codes are the integers from 0 to 127 in the order of the SINRs; each is
given back when it is read, and it is the code of a SINR that no other one comes
closer to. -/
theorem sinr_code_nearest (s : Rat) :
    exists k : Int, threeGppMapSinr s = k ∧ 0 ≤ k ∧ k ≤ 127 ∧
      (forall t, s ≤ t -> threeGppMapSinr s ≤ threeGppMapSinr t) ∧
      (forall j : Int, 0 ≤ j -> j ≤ 127 ->
        threeGppMapSinr (codedSinr j) = j ∧
          |s - codedSinr k| ≤ |s - codedSinr j|) ∧
      (-23 ≤ s -> s ≤ 40 -> |s - codedSinr k| ≤ 63 / 254) := by
  have hbounds := sinrQuantiser.code_bounds s
  refine ⟨sinrQuantiser.code s, threeGppMapSinr_eq_code s, hbounds.left,
    hbounds.right, ?_, ?_, ?_⟩
  · intro t hst
    rw [threeGppMapSinr_eq_code, threeGppMapSinr_eq_code]
    exact Int.cast_le.mpr (sinrQuantiser.code_mono hst)
  · intro j hj hj'
    have hcode := sinrQuantiser.code_level hj hj'
    have hnearest := sinrQuantiser.abs_sub_level_code_le s hj hj'
    rw [level_sinrQuantiser] at hcode
    rw [level_sinrQuantiser, level_sinrQuantiser] at hnearest
    rw [threeGppMapSinr_eq_code, hcode]
    exact ⟨rfl, hnearest⟩
  · intro hlow hhigh
    have hhalf : sinrQuantiser.slope *
        |s - sinrQuantiser.level (sinrQuantiser.code s)| ≤ 1 / 2 :=
      Quantiser.abs_sub_level_code_le_half hlow hhigh
    rw [level_sinrQuantiser, slope_sinrQuantiser] at hhalf
    linarith

end L3Rrc
end OranE2
