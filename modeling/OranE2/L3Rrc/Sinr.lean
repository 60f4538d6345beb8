import OranE2.Library.Rounding
import Mathlib.Data.Rat.Floor
import Mathlib.Tactic.Linarith
import Mathlib.Tactic.NormNum

/-!
# Mapping an SINR to its reporting value

This module embeds `ThreeGppMapSinr` with exact rationals in place of doubles,
and the table its documentation refers to: steps of half a decibel.  The
function rounds a line through the ends of the table instead, so the two meet
in the upper part of every step below the middle of the table, and in the lower
part of every step above it.
-/

namespace OranE2
namespace L3Rrc

open Library

def threeGppMapSinr (sinr : Rat) : Rat :=
  let inputEnd : Rat := 40
  let inputStart : Rat := -23
  let outputStart : Rat := 0
  let outputEnd : Rat := 127
  let slope := (outputEnd - outputStart) / (inputEnd - inputStart)
  if sinr < inputStart then outputStart
  else if inputEnd < sinr then outputEnd
  else outputStart + roundAway (slope * (sinr - inputStart))

/-!
# The reporting table

SS-SINR and CSI-SINR measurement report mapping, one constructor for each kind
of row.
-/

inductive SinrReport (s : Rat) : Int -> Prop where
  | below : s < -23 -> SinrReport s 0
  | step (k : Int) : 1 ≤ k -> k ≤ 126 ->
      -23 + ((k : Rat) - 1) / 2 ≤ s -> s < -23 + (k : Rat) / 2 ->
      SinrReport s k
  | above : 40 ≤ s -> SinrReport s 127

theorem SinrReport.bounds {s : Rat} {v : Int} (h : SinrReport s v) :
    (v = 0 ∨ -23 + ((v : Rat) - 1) / 2 ≤ s) ∧
      (v = 127 ∨ s < -23 + (v : Rat) / 2) ∧ 0 ≤ v ∧ v ≤ 127 := by
  cases h with
  | below h =>
      refine And.intro (Or.inl rfl) (And.intro (Or.inr ?_) (by decide))
      push_cast
      linarith
  | step k hk hk' hlow hhigh =>
      exact And.intro (Or.inr hlow)
        (And.intro (Or.inr hhigh) (And.intro (by omega) (by omega)))
  | above h =>
      refine And.intro (Or.inr ?_) (And.intro (Or.inl rfl) (by decide))
      push_cast
      linarith

theorem SinrReport.le {s t : Rat} {v w : Int} (hv : SinrReport s v)
    (hw : SinrReport t w) (hst : s ≤ t) : v ≤ w := by
  by_contra hlt
  rcases hv.bounds with ⟨hlow, _, hv0, hv127⟩
  rcases hw.bounds with ⟨_, hhigh, hw0, hw127⟩
  have hcast : (w : Rat) + 1 ≤ v := by
    exact_mod_cast Int.add_one_le_of_lt (not_le.mp hlt)
  have hs : -23 + ((v : Rat) - 1) / 2 ≤ s := hlow.resolve_left (by omega)
  have ht : t < -23 + (w : Rat) / 2 := hhigh.resolve_left (by omega)
  linarith

theorem SinrReport.unique {s : Rat} {v w : Int} (hv : SinrReport s v)
    (hw : SinrReport s w) : v = w :=
  Int.le_antisymm (hv.le hw le_rfl) (hw.le hv le_rfl)

/-!
# The function against the table
-/

theorem threeGppMapSinr_below {s : Rat} (h : s < -23) :
    threeGppMapSinr s = 0 := by
  unfold threeGppMapSinr
  exact if_pos h

theorem threeGppMapSinr_line {s : Rat} (hlow : -23 ≤ s) (hhigh : s ≤ 40) :
    threeGppMapSinr s = roundAway ((127 : Rat) / 63 * (s + 23)) := by
  unfold threeGppMapSinr
  rw [if_neg (not_lt.mpr hlow), if_neg (not_lt.mpr hhigh)]
  norm_num

theorem threeGppMapSinr_eq_iff {s : Rat} (hlow : -23 ≤ s) (hhigh : s ≤ 40)
    (k : Int) :
    threeGppMapSinr s = k <->
      63 * (2 * (k : Rat) - 1) ≤ 254 * (s + 23) ∧
        254 * (s + 23) < 63 * (2 * (k : Rat) + 1) := by
  have hnonneg : 0 ≤ s + 23 := by linarith
  have hscale := roundAway_scale_eq_iff (p := (127 : Rat)) (q := 63)
    (by norm_num) (by norm_num) hnonneg k
  have hslope : 2 * (127 : Rat) = 254 := by norm_num
  rw [threeGppMapSinr_line hlow hhigh, Int.cast_inj, hscale, hslope]

theorem threeGppMapSinr_above {s : Rat} (h : 40 ≤ s) :
    threeGppMapSinr s = 127 := by
  by_cases hend : s ≤ 40
  · have hline := threeGppMapSinr_eq_iff (le_trans (by norm_num) h) hend 127
    have hs : s = 40 := le_antisymm hend h
    rw [hs] at hline ⊢
    exact hline.mpr (by norm_num)
  · have hlow : ¬ s < -23 := by linarith
    unfold threeGppMapSinr
    rw [if_neg hlow, if_pos (not_le.mp hend)]

theorem lower_row_iff {s : Rat} {k : Int} (hk : 1 ≤ k) (hk' : k ≤ 63) :
    (-23 + ((k : Rat) - 1) / 2 ≤ s ∧ s < -23 + (k : Rat) / 2) ∧
        threeGppMapSinr s = k <->
      63 * (2 * (k : Rat) - 1) / 254 ≤ s + 23 ∧ s + 23 < (k : Rat) / 2 := by
  have hcast : (1 : Rat) ≤ k := by exact_mod_cast hk
  have hcast' : (k : Rat) ≤ 63 := by exact_mod_cast hk'
  constructor
  · intro h
    rcases h with ⟨⟨hlow, hhigh⟩, hv⟩
    have hline := (threeGppMapSinr_eq_iff (by linarith) (by linarith) k).mp hv
    constructor
    · linarith [hline.left]
    · linarith
  · intro h
    rcases h with ⟨hlow, hhigh⟩
    have hrow : -23 + ((k : Rat) - 1) / 2 ≤ s := by linarith
    have hrow' : s < -23 + (k : Rat) / 2 := by linarith
    refine And.intro (And.intro hrow hrow') ?_
    apply (threeGppMapSinr_eq_iff (by linarith) (by linarith) k).mpr
    constructor <;> linarith

theorem upper_row_iff {s : Rat} {k : Int} (hk : 64 ≤ k) (hk' : k ≤ 126) :
    (-23 + ((k : Rat) - 1) / 2 ≤ s ∧ s < -23 + (k : Rat) / 2) ∧
        threeGppMapSinr s = k <->
      ((k : Rat) - 1) / 2 ≤ s + 23 ∧
        s + 23 < 63 * (2 * (k : Rat) + 1) / 254 := by
  have hcast : (64 : Rat) ≤ k := by exact_mod_cast hk
  have hcast' : (k : Rat) ≤ 126 := by exact_mod_cast hk'
  constructor
  · intro h
    rcases h with ⟨⟨hlow, hhigh⟩, hv⟩
    have hline := (threeGppMapSinr_eq_iff (by linarith) (by linarith) k).mp hv
    constructor
    · linarith
    · linarith [hline.right]
  · intro h
    rcases h with ⟨hlow, hhigh⟩
    have hrow : -23 + ((k : Rat) - 1) / 2 ≤ s := by linarith
    have hrow' : s < -23 + (k : Rat) / 2 := by linarith
    refine And.intro (And.intro hrow hrow') ?_
    apply (threeGppMapSinr_eq_iff (by linarith) (by linarith) k).mpr
    constructor <;> linarith

/-- The function follows the table below and above it, in the upper part of
each step up to row 63, and in the lower part of each step from row 64 on. -/
theorem sinr_report_iff (s : Rat) :
    (exists v, SinrReport s v ∧ threeGppMapSinr s = v) <->
      s < -23 ∨ 40 ≤ s ∨
        (exists k : Int, 1 ≤ k ∧ k ≤ 63 ∧
          63 * (2 * (k : Rat) - 1) / 254 ≤ s + 23 ∧ s + 23 < (k : Rat) / 2) ∨
        (exists k : Int, 64 ≤ k ∧ k ≤ 126 ∧
          ((k : Rat) - 1) / 2 ≤ s + 23 ∧
          s + 23 < 63 * (2 * (k : Rat) + 1) / 254) := by
  constructor
  · intro h
    rcases h with ⟨v, hreport, hv⟩
    cases hreport with
    | below h =>
        exact Or.inl h
    | step k hk hk' hlow hhigh =>
        have hmet := And.intro (And.intro hlow hhigh) hv
        apply Or.inr
        apply Or.inr
        by_cases hhalf : v ≤ 63
        · exact Or.inl
            (Exists.intro v ⟨hk, hhalf, (lower_row_iff hk hhalf).mp hmet⟩)
        · have hupper : 64 ≤ v := by omega
          exact Or.inr
            (Exists.intro v ⟨hupper, hk', (upper_row_iff hupper hk').mp hmet⟩)
    | above h =>
        exact Or.inr (Or.inl h)
  · intro h
    rcases h with h | h | h | h
    · exact Exists.intro 0
        (And.intro (SinrReport.below h) (threeGppMapSinr_below h))
    · exact Exists.intro 127
        (And.intro (SinrReport.above h) (threeGppMapSinr_above h))
    · rcases h with ⟨k, hk, hk', h⟩
      rcases (lower_row_iff hk hk').mpr h with ⟨⟨hlow, hhigh⟩, hv⟩
      exact Exists.intro k
        (And.intro (SinrReport.step k hk (by omega) hlow hhigh) hv)
    · rcases h with ⟨k, hk, hk', h⟩
      rcases (upper_row_iff hk hk').mpr h with ⟨⟨hlow, hhigh⟩, hv⟩
      exact Exists.intro k
        (And.intro (SinrReport.step k (by omega) hk' hlow hhigh) hv)

theorem inputStart_not_reported :
    threeGppMapSinr (-23) = 0 ∧ SinrReport (-23) 1 ∧
      ¬ exists v, SinrReport (-23) v ∧ threeGppMapSinr (-23) = v := by
  have hzero : threeGppMapSinr (-23) = (0 : Int) := by
    apply (threeGppMapSinr_eq_iff le_rfl (by norm_num) 0).mpr
    norm_num
  have hrow : SinrReport (-23) 1 := by
    apply SinrReport.step
    · decide
    · decide
    · norm_num
    · norm_num
  refine And.intro hzero (And.intro hrow ?_)
  intro h
  rcases h with ⟨v, hreport, hv⟩
  have hone : (1 : Int) = v := hrow.unique hreport
  have hnone : (0 : Int) = v := Int.cast_injective (hzero.symm.trans hv)
  omega

end L3Rrc
end OranE2
