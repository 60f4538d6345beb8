import OranE2.Asn1c.BitString
import OranE2.Library.Buffer

/-!
# Buffers behind octet and bit strings

The constructors that fill an octet or bit string allocate its buffer, set its
size and copy the bytes in separate statements.  Here the copies are bounded by
the capacity of the buffer, `none` stands for one that goes beyond it, and the
size is not tied to the buffer by the type.
-/

namespace OranE2
namespace Asn1c

open Library

/-- `OCTET_STRING_t` without regard to its invariant. -/
abbrev RawOctetString := SizedBuffer UInt8

structure RawBitString extends SizedBuffer UInt8 where
  bitsUnused : Nat
  deriving DecidableEq, Repr

def characters (text : String) : List UInt8 :=
  text.toList.map fun c => UInt8.ofNat c.toNat

namespace RawOctetString

def createBaseOctetString (size : Nat) : RawOctetString where
  buf := calloc 0 size
  size := size

def ofString (value : StdString) (size : Nat) : Option RawOctetString :=
  (createBaseOctetString size).memcpy (value.read size)

def ofPointer (value : List UInt8) (size : Nat) : Option RawOctetString :=
  (createBaseOctetString size).memcpy (value.take size)

end RawOctetString

namespace RawBitString

def ofString (value : StdString) (size : Nat) : Option RawBitString :=
  let bitString : SizedBuffer UInt8 := { buf := calloc 0 size, size := size }
  (bitString.memcpy (value.read size)).map fun filled =>
    { toSizedBuffer := filled, bitsUnused := 0 }

def ofStringUnused (value : StdString) (size bitsUnused : Nat) :
    Option RawBitString :=
  (ofString value size).map fun bitString =>
    { bitString with bitsUnused := bitsUnused }

end RawBitString

structure Snssai where
  sST : RawOctetString
  sD : Option RawOctetString
  deriving DecidableEq, Repr

namespace Snssai

def new (sst : List UInt8) : Option Snssai :=
  let m_sst : RawOctetString :=
    { buf := calloc 0 sst.length, size := sst.length }
  (m_sst.memcpy sst).map fun sST => { sST := sST, sD := none }

def newWithSd (sst sd : List UInt8) : Option Snssai :=
  match new sst with
  | none => none
  | some m_sNssai =>
      -- The capacity of the buffer is taken from the other string.
      let m_sd : RawOctetString :=
        { buf := calloc 0 sst.length, size := sd.length }
      (m_sd.memcpy sd).map fun sD => { m_sNssai with sD := some sD }

end Snssai

/-!
## The unbounded constructors
-/

theorem memcpy_full {size : Nat} {src : List UInt8} (h : src.length = size) :
    (RawOctetString.createBaseOctetString size).memcpy src =
      some { buf := src, size := size } := by
  rw [SizedBuffer.memcpy_eq_some_iff]
  simp [RawOctetString.createBaseOctetString, calloc, h]

theorem rawOctetString_ofString (value : StdString) (size : Nat) :
    RawOctetString.ofString value size =
      some
        { buf := (OctetString.ofString value size).getValue.buf
          size := (OctetString.ofString value size).getValue.size } := by
  have hbuf : (OctetString.ofString value size).getValue.buf =
      value.read size :=
    List.take_of_length_le (Nat.le_of_eq (StdString.length_read value size))
  rw [hbuf]
  exact memcpy_full (StdString.length_read value size)

theorem rawOctetString_ofPointer {value : List UInt8} {size : Nat}
    (h : size ≤ value.length) :
    RawOctetString.ofPointer value size =
      some
        { buf := (OctetString.ofPointer value size h).getValue.buf
          size := (OctetString.ofPointer value size h).getValue.size } :=
  memcpy_full (List.length_take_of_le h)

theorem rawBitString_ofString (value : StdString) (size : Nat) :
    RawBitString.ofString value size =
      some
        { buf := (BitString.ofString value size).bitString.buf
          size := (BitString.ofString value size).bitString.size
          bitsUnused :=
            (BitString.ofString value size).bitString.bitsUnused } := by
  show ((RawOctetString.createBaseOctetString size).memcpy
    (value.read size)).map _ = _
  rw [memcpy_full (StdString.length_read value size)]
  rfl

/-!
## Slice identities
-/

namespace Snssai

theorem new_eq (sst : List UInt8) :
    new sst = some { sST := { buf := sst, size := sst.length }, sD := none } := by
  show ((RawOctetString.createBaseOctetString sst.length).memcpy sst).map _ = _
  rw [memcpy_full rfl]
  rfl

/-- The constructor with two arguments returns only if the second fits the
buffer, and then both can be read back. -/
theorem newWithSd_eq_some_iff {sst sd : List UInt8} {snssai : Snssai} :
    newWithSd sst sd = some snssai <->
      sd.length ≤ sst.length ∧
        snssai =
          { sST := { buf := sst, size := sst.length }
            sD := some
              { buf := sd ++ (calloc 0 sst.length).drop sd.length
                size := sd.length } } := by
  unfold newWithSd
  rw [new_eq]
  exact SizedBuffer.map_memcpy_calloc_eq_some_iff

end Snssai

end Asn1c
end OranE2
