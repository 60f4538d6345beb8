import Mathlib.Algebra.Group.Nat.Defs
import Mathlib.Data.List.Basic

/-!
# Decimal renderings

The decimal digits of a number as characters.  The rendering determines the
number, and the rendering without its last digit is the rendering of the
quotient by ten.
-/

namespace OranE2
namespace Library

def decimal (n : Nat) : List UInt8 :=
  (Nat.toDigits 10 n).map fun c => UInt8.ofNat c.toNat

def decimalDigit (d : Nat) : UInt8 :=
  UInt8.ofNat (48 + d)

theorem toNat_decimalDigit {d : Nat} (hd : d < 10) :
    (decimalDigit d).toNat = 48 + d := by
  unfold decimalDigit
  rw [UInt8.toNat_ofNat_of_lt' (by simp [UInt8.size]; omega)]

theorem decimalDigit_injective {d e : Nat} (hd : d < 10) (he : e < 10)
    (h : decimalDigit d = decimalDigit e) : d = e := by
  have htoNat := congrArg UInt8.toNat h
  rw [toNat_decimalDigit hd, toNat_decimalDigit he] at htoNat
  exact Nat.add_left_cancel htoNat

theorem ofNat_digitChar {d : Nat} (hd : d < 10) :
    UInt8.ofNat (Nat.digitChar d).toNat = decimalDigit d := by
  have hall : forall e, e < 10 ->
      UInt8.ofNat (Nat.digitChar e).toNat = decimalDigit e := by decide
  exact hall d hd

theorem decimal_of_lt {n : Nat} (h : n < 10) : decimal n = [decimalDigit n] := by
  unfold decimal
  rw [Nat.toDigits_of_lt_base h, List.map_singleton, ofNat_digitChar h]

theorem decimal_of_le {n : Nat} (h : 10 ≤ n) :
    decimal n = decimal (n / 10) ++ [decimalDigit (n % 10)] := by
  have hmod : n % 10 < 10 := Nat.mod_lt n (by decide)
  unfold decimal
  rw [Nat.toDigits_of_base_le (by decide) h, List.map_append,
    List.map_singleton, ofNat_digitChar hmod]

theorem decimal_ne_nil (n : Nat) : decimal n ≠ [] := by
  unfold decimal
  intro h
  exact Nat.toDigits_ne_nil (List.map_eq_nil_iff.mp h)

theorem length_decimal_le_iff {n k : Nat} (hk : 0 < k) :
    (decimal n).length ≤ k <-> n < 10 ^ k := by
  unfold decimal
  rw [List.length_map]
  exact Nat.length_toDigits_le_iff (by decide) hk

theorem exists_digit_of_mem_decimal {n : Nat} {b : UInt8}
    (h : b ∈ decimal n) : exists d, d < 10 ∧ b = decimalDigit d := by
  induction n using Nat.strongRecOn with
  | ind n ih =>
      rcases Nat.lt_or_ge n 10 with hlt | hge
      · rw [decimal_of_lt hlt] at h
        exact ⟨n, hlt, List.mem_singleton.mp h⟩
      · rw [decimal_of_le hge] at h
        rcases List.mem_append.mp h with hfront | hlast
        · exact ih (n / 10) (Nat.div_lt_self (by omega) (by decide)) hfront
        · exact ⟨n % 10, Nat.mod_lt n (by decide), List.mem_singleton.mp hlast⟩

theorem zero_notMem_decimal (n : Nat) : 0 ∉ decimal n := by
  intro h
  rcases exists_digit_of_mem_decimal h with ⟨d, hd, heq⟩
  have htoNat := congrArg UInt8.toNat heq
  rw [toNat_decimalDigit hd, UInt8.toNat_zero] at htoNat
  omega

theorem getLast?_decimal (n : Nat) :
    (decimal n).getLast? = some (decimalDigit (n % 10)) := by
  rcases Nat.lt_or_ge n 10 with hlt | hge
  · rw [decimal_of_lt hlt, Nat.mod_eq_of_lt hlt]
    rfl
  · rw [decimal_of_le hge, List.getLast?_concat]

theorem decimal_eq_last_digit_iff (n : Nat) :
    [decimalDigit (n % 10)] = decimal n <-> n < 10 := by
  constructor
  · intro h
    by_contra hge
    rw [decimal_of_le (Nat.not_lt.mp hge)] at h
    have hfront := List.append_inj_left' (show [] ++ _ = _ from h) rfl
    exact decimal_ne_nil (n / 10) hfront.symm
  · intro hlt
    rw [decimal_of_lt hlt, Nat.mod_eq_of_lt hlt]

theorem decimal_injective {m n : Nat} (h : decimal m = decimal n) : m = n := by
  induction m using Nat.strongRecOn generalizing n with
  | ind m ih =>
      rcases Nat.lt_or_ge m 10 with hm | hm <;>
        rcases Nat.lt_or_ge n 10 with hn | hn
      · rw [decimal_of_lt hm, decimal_of_lt hn] at h
        exact decimalDigit_injective hm hn (List.head_eq_of_cons_eq h)
      · rw [decimal_of_lt hm, decimal_of_le hn] at h
        exact absurd (List.append_eq_singleton_iff.mp h.symm)
          (by simp [decimal_ne_nil])
      · rw [decimal_of_le hm, decimal_of_lt hn] at h
        exact absurd (List.append_eq_singleton_iff.mp h)
          (by simp [decimal_ne_nil])
      · rw [decimal_of_le hm, decimal_of_le hn] at h
        rcases List.append_inj' h rfl with ⟨hfront, hlast⟩
        have hquotient : m / 10 = n / 10 :=
          ih (m / 10) (Nat.div_lt_self (by omega) (by decide)) hfront
        have hdigit : m % 10 = n % 10 :=
          decimalDigit_injective (Nat.mod_lt m (by decide))
            (Nat.mod_lt n (by decide)) (List.head_eq_of_cons_eq hlast)
        omega

theorem take_decimal {n k : Nat} (hk : 0 < k)
    (hlength : (decimal n).length = k + 1) :
    (decimal n).take k = decimal (n / 10) := by
  rcases Nat.lt_or_ge n 10 with hlt | hge
  · rw [decimal_of_lt hlt, List.length_singleton] at hlength
    omega
  · rw [decimal_of_le hge, List.length_append, List.length_singleton] at hlength
    rw [decimal_of_le hge]
    exact List.take_left' (Nat.succ.inj hlength)

end Library
end OranE2
