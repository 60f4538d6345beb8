import OranE2.Asn1c.OctetString
import OranE2.Library.Decimal
import OranE2.Library.Octets

/-!
# Bit strings and copies of a fixed size

The constructors from a `std::string` copy as many bytes as they are told to,
whatever the length of the string: a longer string is cut, and behind a shorter
one the copy goes on into the memory that follows its terminating zero.
-/

namespace OranE2
namespace Asn1c

open Library

/-- A `std::string` as `c_str ()` shows it: its bytes, a terminating zero, and
the memory that follows. -/
structure StdString where
  bytes : List UInt8
  beyond : Nat -> UInt8

def StdString.ofBytes (bytes : List UInt8) : StdString where
  bytes := bytes
  beyond := fun _ => 0

def StdString.read (value : StdString) (size : Nat) : List UInt8 :=
  (value.bytes ++ 0 :: (List.range size).map value.beyond).take size

def OctetString.ofString (value : StdString) (size : Nat) : OctetString :=
  OctetString.ofPointer (value.read size) size (by
    unfold StdString.read
    simp only [List.length_take, List.length_append, List.length_cons,
      List.length_map, List.length_range]
    omega)

@[ext] structure BitStringT where
  buf : List UInt8
  size : Nat
  bitsUnused : Nat
  size_le : size ≤ buf.length

instance : DecidableEq BitStringT := fun _ _ =>
  decidable_of_iff _ BitStringT.ext_iff.symm

def BitStringT.significant (b : BitStringT) : List Bool :=
  (bits (b.buf.take b.size)).take (8 * b.size - b.bitsUnused)

structure BitString where
  bitString : BitStringT
  deriving DecidableEq

/-!
## Reading behind a string
-/

namespace StdString

@[simp] theorem length_read (value : StdString) (size : Nat) :
    (value.read size).length = size := by
  unfold read
  simp only [List.length_take, List.length_append, List.length_cons,
    List.length_map, List.length_range]
  omega

theorem read_of_le {value : StdString} {size : Nat}
    (h : size ≤ value.bytes.length + 1) :
    value.read size = (value.bytes ++ [0]).take size := by
  have hsplit : value.bytes ++ 0 :: (List.range size).map value.beyond =
      (value.bytes ++ [0]) ++ (List.range size).map value.beyond := by
    rw [List.append_assoc]
    rfl
  unfold read
  rw [hsplit, List.take_append_of_le_length (by simpa using h)]

theorem read_eq_take {value : StdString} {size : Nat}
    (h : size ≤ value.bytes.length) :
    value.read size = value.bytes.take size := by
  rw [read_of_le (Nat.le_succ_of_le h), List.take_append_of_le_length h]

theorem read_length (value : StdString) :
    value.read value.bytes.length = value.bytes := by
  rw [read_eq_take (Nat.le_refl _), List.take_length]

theorem read_ofBytes {bytes : List UInt8} {size : Nat}
    (h : bytes.length ≤ size) :
    (ofBytes bytes).read size =
      bytes ++ List.replicate (size - bytes.length) 0 := by
  have hzeros : (0 :: (List.range size).map fun _ => (0 : UInt8)) =
      List.replicate (size + 1) 0 := by
    rw [List.map_const', List.length_range, List.replicate_succ]
  show (bytes ++ 0 :: (List.range size).map fun _ => (0 : UInt8)).take size = _
  rw [hzeros, List.take_append, List.take_of_length_le h, List.take_replicate,
    Nat.min_eq_left (Nat.le_succ_of_le (Nat.sub_le _ _))]

theorem getElem?_read {value : StdString} {size : Nat}
    (h : value.bytes.length + 1 < size) :
    (value.read size)[value.bytes.length + 1]? = some (value.beyond 0) := by
  cases size with
  | zero => omega
  | succ size =>
      unfold read
      rw [List.getElem?_take_of_lt h,
        List.getElem?_append_right (Nat.le_add_right _ 1),
        Nat.add_sub_cancel_left, List.range_succ_eq_map]
      rfl

/-- Zeros and ones behind a string are seen by every read that goes past the
terminator. -/
theorem le_of_read_eq {bytes : List UInt8} {size : Nat}
    (h : (StdString.mk bytes fun _ => 0).read size =
      (StdString.mk bytes fun _ => 255).read size) :
    size ≤ bytes.length + 1 := by
  by_contra hlong
  have hpast : bytes.length + 1 < size := Nat.lt_of_not_le hlong
  have hzero := getElem?_read
    (show (StdString.mk bytes fun _ => 0).bytes.length + 1 < size from hpast)
  have hones := getElem?_read
    (show (StdString.mk bytes fun _ => 255).bytes.length + 1 < size from hpast)
  rw [h] at hzero
  have hsame : (0 : UInt8) = 255 := Option.some.inj (hzero.symm.trans hones)
  exact absurd hsame (by decide)

/-- A read depends on what follows the string exactly when it goes past the
terminator. -/
theorem read_independent_iff (bytes : List UInt8) (size : Nat) :
    (forall beyond beyond' : Nat -> UInt8,
        (StdString.mk bytes beyond).read size =
          (StdString.mk bytes beyond').read size) <->
      size ≤ bytes.length + 1 := by
  constructor
  · intro h
    exact le_of_read_eq (h _ _)
  · intro hshort beyond beyond'
    rw [read_of_le (show size ≤ (StdString.mk bytes beyond).bytes.length + 1
        from hshort),
      read_of_le (show size ≤ (StdString.mk bytes beyond').bytes.length + 1
        from hshort)]

end StdString

namespace OctetString

@[simp] theorem octets_ofString (value : StdString) (size : Nat) :
    (ofString value size).getValue.octets = value.read size := by
  unfold ofString
  rw [octets_ofPointer, List.take_of_length_le (by simp)]

end OctetString

/-!
## Bit strings
-/

namespace BitString

/-- The constructor without unused bits; `calloc` leaves the count at zero. -/
def ofString (value : StdString) (size : Nat) : BitString where
  bitString :=
    { buf := value.read size
      size := size
      bitsUnused := 0
      size_le := by simp }

def ofStringUnused (value : StdString) (size bitsUnused : Nat) :
    BitString where
  bitString := { (ofString value size).bitString with bitsUnused := bitsUnused }

def getValue (b : BitString) : BitStringT :=
  b.bitString

theorem significant_ofString (value : StdString) (size : Nat) :
    (ofString value size).getValue.significant = bits (value.read size) := by
  show (bits ((value.read size).take size)).take (8 * size - 0) = _
  rw [List.take_of_length_le (by simp), List.take_of_length_le (by simp)]

theorem significant_ofStringUnused (value : StdString)
    (size bitsUnused : Nat) :
    (ofStringUnused value size bitsUnused).getValue.significant =
      (bits (value.read size)).take (8 * size - bitsUnused) := by
  show (bits ((value.read size).take size)).take (8 * size - bitsUnused) = _
  rw [List.take_of_length_le (by simp : (value.read size).length ≤ size)]

def lastRead (value : StdString) (k : Nat) : UInt8 :=
  (value.read (k + 1)).get
    ⟨k, Nat.lt_of_lt_of_eq (Nat.lt_succ_self k)
      (StdString.length_read value (k + 1)).symm⟩

theorem significant_ofStringUnused_eq_iff (value value' : StdString)
    (k : Nat) :
    (ofStringUnused value (k + 1) 4).getValue.significant =
        (ofStringUnused value' (k + 1) 4).getValue.significant <->
      (value.read (k + 1)).take k = (value'.read (k + 1)).take k ∧
        (lastRead value k).toNat / 16 = (lastRead value' k).toNat / 16 := by
  rw [significant_ofStringUnused, significant_ofStringUnused]
  exact take_bits_eq_iff (StdString.length_read value (k + 1))
    (StdString.length_read value' (k + 1))

theorem significant_independent_iff (bytes : List UInt8) (size : Nat) :
    (forall beyond beyond' : Nat -> UInt8,
        (ofString ⟨bytes, beyond⟩ size).getValue.significant =
          (ofString ⟨bytes, beyond'⟩ size).getValue.significant) <->
      size ≤ bytes.length + 1 := by
  rw [← StdString.read_independent_iff]
  constructor
  · intro h beyond beyond'
    have hbits := h beyond beyond'
    rw [significant_ofString, significant_ofString] at hbits
    exact bits_injective hbits
  · intro h beyond beyond'
    rw [significant_ofString, significant_ofString, h beyond beyond']

theorem le_of_significantUnused_eq {bytes : List UInt8} {k : Nat}
    (h : (ofStringUnused ⟨bytes, fun _ => 0⟩ (k + 1) 4).getValue.significant =
      (ofStringUnused ⟨bytes, fun _ => 255⟩ (k + 1) 4).getValue.significant) :
    k + 1 ≤ bytes.length + 1 := by
  by_contra hlong
  have hpast : bytes.length + 1 < k + 1 := Nat.lt_of_not_le hlong
  have hzero := StdString.getElem?_read
    (show (StdString.mk bytes fun _ => 0).bytes.length + 1 < k + 1 from hpast)
  have hones := StdString.getElem?_read
    (show (StdString.mk bytes fun _ => 255).bytes.length + 1 < k + 1 from hpast)
  rcases (significant_ofStringUnused_eq_iff _ _ k).mp h with ⟨hfront, hlast⟩
  rcases Nat.lt_or_ge (bytes.length + 1) k with hinside | hend
  · have hsame := congrArg (fun xs => xs[bytes.length + 1]?) hfront
    simp only [List.getElem?_take_of_lt hinside] at hsame
    rw [hzero, hones] at hsame
    have hbyte : (0 : UInt8) = 255 := Option.some.inj hsame
    exact absurd hbyte (by decide)
  · have hk : bytes.length + 1 = k :=
      Nat.le_antisymm (Nat.le_of_lt_succ hpast) hend
    simp only [hk] at hzero hones
    unfold lastRead at hlast
    rw [List.get_eq_getElem, List.get_eq_getElem,
      List.getElem?_eq_some_iff.mp hzero |>.2,
      List.getElem?_eq_some_iff.mp hones |>.2] at hlast
    exact absurd hlast (by decide)

theorem significantUnused_independent_iff (bytes : List UInt8) (k : Nat) :
    (forall beyond beyond' : Nat -> UInt8,
        (ofStringUnused ⟨bytes, beyond⟩ (k + 1) 4).getValue.significant =
          (ofStringUnused ⟨bytes, beyond'⟩ (k + 1) 4).getValue.significant) <->
      k + 1 ≤ bytes.length + 1 := by
  constructor
  · intro h
    exact le_of_significantUnused_eq (h _ _)
  · intro hshort beyond beyond'
    rw [significant_ofStringUnused, significant_ofStringUnused,
      (StdString.read_independent_iff bytes (k + 1)).mpr hshort beyond beyond']

end BitString

end Asn1c
end OranE2
