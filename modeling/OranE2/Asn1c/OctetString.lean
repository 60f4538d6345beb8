import Mathlib.Data.List.Basic
import Mathlib.Data.List.TakeWhile

/-!
# Octet strings

This module embeds the wrapper class `OctetString` around `OCTET_STRING_t`.
Characters of a `std::string` are bytes, and a C string ends before its first
zero byte.
-/

namespace OranE2
namespace Asn1c

/-- `OCTET_STRING_t`: a buffer and how many of its octets are in use. -/
structure OctetStringT where
  buf : List UInt8
  size : Nat
  size_le : size ≤ buf.length
  deriving DecidableEq

def OctetStringT.octets (o : OctetStringT) : List UInt8 :=
  o.buf.take o.size

def OctetStringT.ofBytes (bytes : List UInt8) : OctetStringT where
  buf := bytes
  size := bytes.length
  size_le := Nat.le_refl _

/-- The characters of a C string: everything before the first zero byte. -/
def cString (bytes : List UInt8) : List UInt8 :=
  bytes.takeWhile fun b => b != 0

/-- What lies behind the first zero byte is not read. -/
theorem cString_append_zero (front rest : List UInt8) :
    cString (front ++ 0 :: rest) = front.takeWhile fun b => b != 0 := by
  unfold cString
  rw [List.takeWhile_append]
  split
  · rename_i hfull
    rw [List.takeWhile_cons_of_neg (by simp), List.append_nil]
    exact ((List.takeWhile_prefix _).eq_of_length hfull).symm
  · rfl

structure OctetString where
  octetString : OctetStringT
  deriving DecidableEq

namespace OctetString

def ofPointer (value : List UInt8) (size : Nat) (h : size ≤ value.length) :
    OctetString where
  octetString :=
    { buf := value.take size
      size := size
      size_le := by simp [h] }

def getValue (o : OctetString) : OctetStringT :=
  o.octetString

/-- Copy the octets, put a zero after them and read a C string.  The source keeps
the size in an `int`: the octet strings here are below `2 ^ 31` octets. -/
def decodeContent (o : OctetString) : List UInt8 :=
  let out := o.getValue.buf.take o.getValue.size ++ [0]
  cString out

theorem decodeContent_eq (o : OctetString) :
    o.decodeContent = o.getValue.octets.takeWhile fun b => b != 0 :=
  cString_append_zero o.getValue.octets []

theorem decodeContent_eq_nil_iff (o : OctetString) :
    o.decodeContent = [] <->
      o.getValue.octets = [] ∨ o.getValue.octets.head? = some 0 := by
  rw [decodeContent_eq]
  cases hoctets : o.getValue.octets with
  | nil => simp
  | cons b rest => by_cases hb : b = 0 <;> simp [hb]

theorem decodeContent_eq_octets_iff (o : OctetString) :
    o.decodeContent = o.getValue.octets <-> 0 ∉ o.getValue.octets := by
  rw [decodeContent_eq, List.takeWhile_eq_self_iff]
  constructor
  · intro h hmem
    exact absurd (h 0 hmem) (by simp)
  · intro hzero b hb
    have hne : b ≠ 0 := fun heq => hzero (heq ▸ hb)
    simpa using hne

@[simp] theorem octets_ofPointer (value : List UInt8) (size : Nat)
    (h : size ≤ value.length) :
    (ofPointer value size h).getValue.octets = value.take size := by
  show (value.take size).take size = value.take size
  rw [List.take_take, Nat.min_self]

end OctetString

end Asn1c
end OranE2
