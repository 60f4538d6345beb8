import Mathlib.Data.List.Basic

/-!
# Buffers with a size field

A buffer is allocated with a capacity, filled by a bounded copy, and comes with
a size that is set on its own.  It carries a content when all three agree.
-/

namespace OranE2
namespace Library

def calloc (zero : octet) (capacity : Nat) : List octet :=
  List.replicate capacity zero

/-- Overwrite the front of a buffer; a copy that goes beyond its end fails. -/
def memcpy (dest src : List octet) : Option (List octet) :=
  if src.length ≤ dest.length then
    some (src ++ dest.drop src.length)
  else
    none

theorem memcpy_calloc (zero : octet) (src : List octet) :
    memcpy (calloc zero src.length) src = some src := by
  simp [memcpy, calloc]

structure SizedBuffer (octet : Type) where
  buf : List octet
  size : Nat
  deriving DecidableEq, Repr

namespace SizedBuffer

def memcpy (b : SizedBuffer octet) (src : List octet) :
    Option (SizedBuffer octet) :=
  (Library.memcpy b.buf src).map fun buf => { b with buf := buf }

/-- The size is that of the content, fits the buffer, and delimits the
content. -/
structure Carries (b : SizedBuffer octet) (content : List octet) : Prop where
  size_eq : b.size = content.length
  size_le : b.size ≤ b.buf.length
  content_eq : b.buf.take b.size = content

theorem memcpy_eq_some_iff {b b' : SizedBuffer octet} {src : List octet} :
    b.memcpy src = some b' <->
      src.length ≤ b.buf.length ∧
        b' = { buf := src ++ b.buf.drop src.length, size := b.size } := by
  unfold SizedBuffer.memcpy Library.memcpy
  split
  · rename_i hfits
    simp [hfits, eq_comm]
  · rename_i hlong
    simp [hlong]

theorem carries_exact (content : List octet) :
    Carries { buf := content, size := content.length } content where
  size_eq := rfl
  size_le := Nat.le_refl _
  content_eq := List.take_length

theorem carries_front (content rest : List octet) :
    Carries { buf := content ++ rest, size := content.length } content where
  size_eq := rfl
  size_le := by simp
  content_eq := List.take_left

theorem map_memcpy_calloc_eq_some_iff {zero : octet} {capacity size : Nat}
    {src : List octet} {f : SizedBuffer octet -> value} {y : value} :
    ((SizedBuffer.mk (calloc zero capacity) size).memcpy src).map f = some y <->
      src.length ≤ capacity ∧
        y = f
          { buf := src ++ (calloc zero capacity).drop src.length
            size := size } := by
  have hcapacity : (calloc zero capacity).length = capacity :=
    List.length_replicate
  rw [Option.map_eq_some_iff]
  constructor
  · intro h
    rcases h with ⟨b, hcopy, hy⟩
    rcases memcpy_eq_some_iff.mp hcopy with ⟨hfits, rfl⟩
    rw [hcapacity] at hfits
    exact ⟨hfits, hy.symm⟩
  · intro h
    rcases h with ⟨hfits, hy⟩
    rw [← hcapacity] at hfits
    exact ⟨_, memcpy_eq_some_iff.mpr ⟨hfits, rfl⟩, hy.symm⟩

end SizedBuffer

end Library
end OranE2
