import Mathlib.Algebra.Group.Nat.Defs
import Mathlib.Data.List.Basic

/-!
# Bits and byte order of octet sequences

Octets as bits, most significant bit first, and the two byte orders of a
number of fixed width.
-/

namespace OranE2
namespace Library

/-!
## Bits
-/

def octetBits (b : UInt8) : List Bool :=
  [7, 6, 5, 4, 3, 2, 1, 0].map fun i => b.toNat.testBit i

def bits (octets : List UInt8) : List Bool :=
  octets.flatMap octetBits

theorem octetBits_injective {b c : UInt8} (h : octetBits b = octetBits c) :
    b = c := by
  apply UInt8.toNat_inj.mp
  apply Nat.eq_of_testBit_eq
  intro i
  rcases Nat.lt_or_ge i 8 with hlow | hhigh
  · have hall := List.map_inj_left.mp h
    apply hall
    simp only [List.mem_cons, List.not_mem_nil, or_false]
    omega
  · have hpow : 2 ^ 8 ≤ 2 ^ i := Nat.pow_le_pow_right (by decide) hhigh
    rw [Nat.testBit_lt_two_pow (Nat.lt_of_lt_of_le b.toNat_lt hpow),
      Nat.testBit_lt_two_pow (Nat.lt_of_lt_of_le c.toNat_lt hpow)]

theorem take_octetBits_eq_iff {b c : UInt8} :
    (octetBits b).take 4 = (octetBits c).take 4 <->
      b.toNat / 16 = c.toNat / 16 := by
  have hdrop : forall x : Nat, forall i, (x / 16).testBit i = x.testBit (4 + i) := by
    intro x i
    rw [Nat.add_comm, show 16 = 2 ^ 4 by rfl, Nat.testBit_div_two_pow]
  show [7, 6, 5, 4].map (fun i => b.toNat.testBit i) =
      [7, 6, 5, 4].map (fun i => c.toNat.testBit i) <-> _
  constructor
  · intro h
    have hall := List.map_inj_left.mp h
    apply Nat.eq_of_testBit_eq
    intro i
    rcases Nat.lt_or_ge i 4 with hlow | hhigh
    · rw [hdrop, hdrop]
      apply hall
      simp only [List.mem_cons, List.not_mem_nil, or_false]
      omega
    · have hb : b.toNat / 16 < 2 ^ 4 := by
        have := b.toNat_lt
        omega
      have hc : c.toNat / 16 < 2 ^ 4 := by
        have := c.toNat_lt
        omega
      have hpow : 2 ^ 4 ≤ 2 ^ i := Nat.pow_le_pow_right (by decide) hhigh
      rw [Nat.testBit_lt_two_pow (Nat.lt_of_lt_of_le hb hpow),
        Nat.testBit_lt_two_pow (Nat.lt_of_lt_of_le hc hpow)]
  · intro h
    apply List.map_inj_left.mpr
    intro i hi
    simp only [List.mem_cons, List.not_mem_nil, or_false] at hi
    obtain ⟨k, rfl⟩ : exists k, i = 4 + k := ⟨i - 4, by omega⟩
    rw [← hdrop, ← hdrop, h]

@[simp] theorem length_octetBits (b : UInt8) : (octetBits b).length = 8 := by
  rfl

@[simp] theorem bits_nil : bits [] = [] := by
  rfl

theorem bits_cons (b : UInt8) (octets : List UInt8) :
    bits (b :: octets) = octetBits b ++ bits octets := by
  rfl

@[simp] theorem bits_append (xs ys : List UInt8) :
    bits (xs ++ ys) = bits xs ++ bits ys :=
  List.flatMap_append

@[simp] theorem length_bits (octets : List UInt8) :
    (bits octets).length = 8 * octets.length := by
  induction octets with
  | nil => rfl
  | cons b rest ih =>
      rw [bits_cons, List.length_append, length_octetBits, ih, List.length_cons]
      omega

theorem bits_injective {xs ys : List UInt8} (h : bits xs = bits ys) :
    xs = ys := by
  induction xs generalizing ys with
  | nil =>
      have hlength := congrArg List.length h
      rw [length_bits, length_bits, List.length_nil] at hlength
      exact (List.length_eq_zero_iff.mp (by omega)).symm
  | cons x xs ih =>
      cases ys with
      | nil =>
          have hlength := congrArg List.length h
          rw [length_bits, length_bits, List.length_nil,
            List.length_cons] at hlength
          omega
      | cons y ys =>
          rw [bits_cons, bits_cons] at h
          rcases List.append_inj h rfl with ⟨hhead, htail⟩
          rw [octetBits_injective hhead, ih htail]

theorem take_bits_snoc (octets : List UInt8) (b : UInt8) :
    (bits (octets ++ [b])).take (8 * (octets.length + 1) - 4) =
      bits octets ++ (octetBits b).take 4 := by
  have hcount : 8 * (octets.length + 1) - 4 = (bits octets).length + 4 := by
    rw [length_bits]
    omega
  rw [bits_append, hcount, List.take_length_add_append]
  rfl

theorem take_bits_eq_iff {xs ys : List UInt8} {k : Nat}
    (hxs : xs.length = k + 1) (hys : ys.length = k + 1) :
    (bits xs).take (8 * (k + 1) - 4) = (bits ys).take (8 * (k + 1) - 4) <->
      xs.take k = ys.take k ∧ xs[k].toNat / 16 = ys[k].toNat / 16 := by
  have hsplit : forall {zs : List UInt8} (hzs : zs.length = k + 1),
      (bits zs).take (8 * (k + 1) - 4) =
        bits (zs.take k) ++ (octetBits zs[k]).take 4 := by
    intro zs hzs
    have hfront : (zs.take k).length = k := by simp [hzs]
    have hsnoc := take_bits_snoc (zs.take k) zs[k]
    rw [hfront, List.take_append_getElem,
      List.take_of_length_le (Nat.le_of_eq hzs)] at hsnoc
    exact hsnoc
  rw [hsplit hxs, hsplit hys, ← take_octetBits_eq_iff]
  constructor
  · intro h
    rcases List.append_inj h (by simp [hxs, hys]) with ⟨hfront, hlast⟩
    exact ⟨bits_injective hfront, hlast⟩
  · intro hall
    rcases hall with ⟨hfront, hlast⟩
    rw [hfront, hlast]

/-!
## Byte order
-/

/-- The low-order `width` octets of a number, least significant first. -/
def littleEndian : Nat -> Nat -> List UInt8
  | 0, _ => []
  | width + 1, n => UInt8.ofNat n :: littleEndian width (n / 256)

def ofLittleEndian : List UInt8 -> Nat
  | [] => 0
  | b :: rest => b.toNat + 256 * ofLittleEndian rest

def ofBigEndian (octets : List UInt8) : Nat :=
  ofLittleEndian octets.reverse

@[simp] theorem length_littleEndian (width n : Nat) :
    (littleEndian width n).length = width := by
  induction width generalizing n with
  | zero => rfl
  | succ width ih =>
      show (littleEndian width (n / 256)).length + 1 = width + 1
      rw [ih]

theorem ofLittleEndian_littleEndian {width n : Nat} (h : n < 256 ^ width) :
    ofLittleEndian (littleEndian width n) = n := by
  induction width generalizing n with
  | zero =>
      rw [Nat.pow_zero] at h
      exact (Nat.lt_one_iff.mp h).symm
  | succ width ih =>
      have hquotient : n / 256 < 256 ^ width := by
        rw [Nat.pow_succ] at h
        exact Nat.div_lt_of_lt_mul (by omega)
      show (UInt8.ofNat n).toNat + 256 * ofLittleEndian (littleEndian width (n / 256)) = n
      rw [ih hquotient, UInt8.toNat_ofNat']
      omega

theorem littleEndian_ofLittleEndian (octets : List UInt8) :
    littleEndian octets.length (ofLittleEndian octets) = octets := by
  induction octets with
  | nil => rfl
  | cons b rest ih =>
      have hb := b.toNat_lt
      have hquotient :
          (b.toNat + 256 * ofLittleEndian rest) / 256 = ofLittleEndian rest := by
        omega
      have hdigit :
          UInt8.ofNat (b.toNat + 256 * ofLittleEndian rest) = b := by
        apply UInt8.toNat_inj.mp
        rw [UInt8.toNat_ofNat']
        omega
      show UInt8.ofNat (b.toNat + 256 * ofLittleEndian rest) ::
          littleEndian rest.length
            ((b.toNat + 256 * ofLittleEndian rest) / 256) = b :: rest
      rw [hquotient, hdigit, ih]

theorem ofLittleEndian_lt (octets : List UInt8) :
    ofLittleEndian octets < 256 ^ octets.length := by
  induction octets with
  | nil => exact Nat.one_pos
  | cons b rest ih =>
      have hb := b.toNat_lt
      show b.toNat + 256 * ofLittleEndian rest < 256 ^ (rest.length + 1)
      rw [Nat.pow_succ]
      omega

theorem ofLittleEndian_append (xs ys : List UInt8) :
    ofLittleEndian (xs ++ ys) =
      ofLittleEndian xs + 256 ^ xs.length * ofLittleEndian ys := by
  induction xs with
  | nil =>
      show ofLittleEndian ys = 0 + 1 * ofLittleEndian ys
      omega
  | cons x xs ih =>
      show x.toNat + 256 * ofLittleEndian (xs ++ ys) =
        x.toNat + 256 * ofLittleEndian xs +
          256 ^ (xs.length + 1) * ofLittleEndian ys
      rw [ih, Nat.mul_add, ← Nat.mul_assoc, Nat.pow_succ,
        Nat.mul_comm 256 (256 ^ xs.length), Nat.add_assoc]

theorem ofBigEndian_cons (x : UInt8) (xs : List UInt8) :
    ofBigEndian (x :: xs) = ofBigEndian xs + 256 ^ xs.length * x.toNat := by
  unfold ofBigEndian
  rw [List.reverse_cons, ofLittleEndian_append, List.length_reverse]
  rfl

theorem ofBigEndian_lt (octets : List UInt8) :
    ofBigEndian octets < 256 ^ octets.length := by
  have hlt := ofLittleEndian_lt octets.reverse
  rw [List.length_reverse] at hlt
  exact hlt

theorem ofBigEndian_lt_of_head {x y : UInt8} {xs ys : List UInt8}
    (hlength : xs.length = ys.length) (hxy : x < y) :
    ofBigEndian (x :: xs) < ofBigEndian (y :: ys) := by
  have hstep : 256 ^ xs.length * (x.toNat + 1) ≤ 256 ^ xs.length * y.toNat :=
    Nat.mul_le_mul_left _ (UInt8.lt_iff_toNat_lt.mp hxy)
  have hlow := ofBigEndian_lt xs
  rw [ofBigEndian_cons, ofBigEndian_cons, ← hlength]
  rw [Nat.mul_add, Nat.mul_one] at hstep
  omega

/-- Numbers of one width compare as their octets do from the front. -/
theorem ofBigEndian_lt_iff {xs ys : List UInt8}
    (hlength : xs.length = ys.length) :
    ofBigEndian xs < ofBigEndian ys <-> xs < ys := by
  induction xs generalizing ys with
  | nil =>
      rw [List.eq_nil_of_length_eq_zero hlength.symm]
      exact iff_of_false (Nat.lt_irrefl _) (List.lt_irrefl [])
  | cons x xs ih =>
      cases ys with
      | nil => cases hlength
      | cons y ys =>
          have htail : xs.length = ys.length := Nat.succ.inj hlength
          rw [List.cons_lt_cons_iff]
          rcases Nat.lt_trichotomy x.toNat y.toNat with hlt | heq | hgt
          · have hxy := UInt8.lt_iff_toNat_lt.mpr hlt
            exact iff_of_true (ofBigEndian_lt_of_head htail hxy) (Or.inl hxy)
          · rw [UInt8.toNat_inj.mp heq, ofBigEndian_cons, ofBigEndian_cons,
              htail, Nat.add_lt_add_iff_right, ih htail]
            exact ⟨fun hlt => Or.inr ⟨rfl, hlt⟩,
              fun h => (h.resolve_left (UInt8.lt_irrefl y)).right⟩
          · have hyx := UInt8.lt_iff_toNat_lt.mpr hgt
            have hnot := ofBigEndian_lt_of_head htail.symm hyx
            refine iff_of_false (Nat.lt_asymm hnot) ?_
            intro h
            rcases h with hlt | ⟨heq, _⟩
            · exact UInt8.lt_asymm hyx hlt
            · rw [heq] at hgt
              exact Nat.lt_irrefl _ hgt

end Library
end OranE2
