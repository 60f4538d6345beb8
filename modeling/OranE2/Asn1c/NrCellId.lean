import OranE2.Asn1c.BitString

/-!
# NR cell identities

`NrCellId` shifts the cell number by four bits in sixteen-bit arithmetic,
renders the result in decimal and keeps five bytes of the rendering, the last
four bits of which are unused.
-/

namespace OranE2
namespace Asn1c

open Library

/-- The value rendered: `value * 16`, stored into a `uint16_t`. -/
def NrCellId.shifted (value : UInt16) : UInt16 :=
  value * 16

/-- `NrCellId::NrCellId`; `beyond` is the memory behind `str_shift`. -/
def NrCellId.new (value : UInt16) (beyond : Nat -> UInt8) : BitString :=
  BitString.ofStringUnused
    { bytes := decimal (NrCellId.shifted value).toNat
      beyond := beyond } 5 4

namespace NrCellId

theorem toNat_shifted (value : UInt16) :
    (shifted value).toNat = 16 * (value.toNat % 4096) := by
  unfold shifted
  rw [UInt16.toNat_mul]
  show value.toNat * 16 % 65536 = 16 * (value.toNat % 4096)
  omega

theorem length_rendering (value : UInt16) :
    (decimal (shifted value).toNat).length ≤ 5 := by
  apply (length_decimal_le_iff (by decide)).mpr
  exact Nat.lt_trans (shifted value).toNat_lt (by decide)

theorem decimalDigit_ne_zero {d : Nat} (hd : d < 10) : decimalDigit d ≠ 0 := by
  intro hzero
  have htoNat := congrArg UInt8.toNat hzero
  rw [toNat_decimalDigit hd] at htoNat
  exact absurd htoNat (Nat.ne_of_gt (Nat.lt_add_right d (by decide)))

theorem rendering_of_padded {m n i j : Nat}
    (h : decimal m ++ List.replicate i 0 = decimal n ++ List.replicate j 0) :
    m = n := by
  have hdigits : forall k l,
      (decimal k ++ List.replicate l 0).filter (fun b => b ≠ 0) =
        decimal k := by
    intro k l
    rw [List.filter_append, List.filter_replicate_of_neg (by simp),
      List.append_nil, List.filter_eq_self]
    intro b hb
    rcases exists_digit_of_mem_decimal hb with ⟨d, hd, rfl⟩
    exact decide_eq_true (decimalDigit_ne_zero hd)
  apply decimal_injective
  rw [← hdigits m i, ← hdigits n j, h]

theorem upperHalf_of_length_eq {n : Nat} (h : (decimal n).length = 5) :
    ((StdString.ofBytes (decimal n)).read 5)[4].toNat / 16 = 3 := by
  have hread : (StdString.ofBytes (decimal n)).read 5 = decimal n := by
    rw [StdString.read_ofBytes (Nat.le_of_eq h), h, Nat.sub_self,
      List.replicate_zero, List.append_nil]
  have hmem : ((StdString.ofBytes (decimal n)).read 5)[4] ∈ decimal n := by
    simp only [hread]
    exact List.getElem_mem _
  rcases exists_digit_of_mem_decimal hmem with ⟨d, hd, hdigit⟩
  rw [hdigit, toNat_decimalDigit hd]
  omega

theorem upperHalf_of_length_lt {n : Nat} (h : (decimal n).length < 5) :
    ((StdString.ofBytes (decimal n)).read 5)[4].toNat / 16 = 0 := by
  have hread := StdString.read_ofBytes (Nat.le_of_lt h)
  simp only [hread]
  rw [List.getElem_append_right (Nat.le_of_lt_succ h), List.getElem_replicate]
  rfl

/-- Multiples of sixteen survive the loss of the lower half of the fifth byte:
no two of them differ in their last decimal digit only. -/
theorem rendering_injective {m n : Nat}
    (hm : (decimal m).length ≤ 5) (hn : (decimal n).length ≤ 5)
    (hdvdm : 16 ∣ m) (hdvdn : 16 ∣ n)
    (hfront : ((StdString.ofBytes (decimal m)).read 5).take 4 =
      ((StdString.ofBytes (decimal n)).read 5).take 4)
    (hlast : ((StdString.ofBytes (decimal m)).read 5)[4].toNat / 16 =
      ((StdString.ofBytes (decimal n)).read 5)[4].toNat / 16) :
    m = n := by
  rcases Nat.lt_or_eq_of_le hm with hmlt | hmeq <;>
    rcases Nat.lt_or_eq_of_le hn with hnlt | hneq
  · rw [StdString.read_ofBytes hm, StdString.read_ofBytes hn, List.take_append,
      List.take_append, List.take_of_length_le (Nat.le_of_lt_succ hmlt),
      List.take_of_length_le (Nat.le_of_lt_succ hnlt), List.take_replicate,
      List.take_replicate] at hfront
    exact rendering_of_padded hfront
  · rw [upperHalf_of_length_lt hmlt, upperHalf_of_length_eq hneq] at hlast
    exact absurd hlast (by decide)
  · rw [upperHalf_of_length_eq hmeq, upperHalf_of_length_lt hnlt] at hlast
    exact absurd hlast (by decide)
  · rw [StdString.read_ofBytes hm, StdString.read_ofBytes hn, hmeq, hneq,
      Nat.sub_self, List.replicate_zero, List.append_nil, List.append_nil,
      take_decimal (by decide) hmeq, take_decimal (by decide) hneq] at hfront
    have hquotient := decimal_injective hfront
    omega

/-- Over zeroed memory two cells have the same bit string exactly when their
numbers agree in the lower twelve bits. -/
theorem significant_eq_iff (value value' : UInt16) :
    (new value fun _ => 0).getValue.significant =
        (new value' fun _ => 0).getValue.significant <->
      value.toNat % 4096 = value'.toNat % 4096 := by
  constructor
  · intro h
    rcases (BitString.significant_ofStringUnused_eq_iff _ _ 4).mp h
      with ⟨hfront, hlast⟩
    have hshifted := rendering_injective (length_rendering value)
      (length_rendering value')
      ⟨_, toNat_shifted value⟩ ⟨_, toNat_shifted value'⟩ hfront hlast
    rw [toNat_shifted, toNat_shifted] at hshifted
    exact Nat.eq_of_mul_eq_mul_left (by decide) hshifted
  · intro h
    have hshifted : (shifted value).toNat = (shifted value').toNat := by
      rw [toNat_shifted, toNat_shifted, h]
    unfold new
    rw [hshifted]

theorem length_rendering_ge_iff (value : UInt16) :
    5 ≤ (decimal (shifted value).toNat).length + 1 <->
      63 ≤ value.toNat % 4096 := by
  have hlength := length_decimal_le_iff
    (n := (shifted value).toNat) (show 0 < 3 by decide)
  rw [toNat_shifted] at hlength ⊢
  constructor
  · intro h
    by_contra hsmall
    have hshort := hlength.mpr (by omega)
    omega
  · intro h
    by_contra hshort
    have hsmall := hlength.mp (by omega)
    omega

theorem significant_independent_iff (value : UInt16) :
    (forall beyond beyond' : Nat -> UInt8,
        (new value beyond).getValue.significant =
          (new value beyond').getValue.significant) <->
      63 ≤ value.toNat % 4096 := by
  rw [← length_rendering_ge_iff]
  exact BitString.significantUnused_independent_iff _ 4

theorem le_of_significant_eq {value : UInt16}
    (h : (new value fun _ => 0).getValue.significant =
      (new value fun _ => 255).getValue.significant) :
    63 ≤ value.toNat % 4096 :=
  (length_rendering_ge_iff value).mp (BitString.le_of_significantUnused_eq h)

end NrCellId

end Asn1c
end OranE2
