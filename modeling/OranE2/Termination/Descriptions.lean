import OranE2.Library.Buffer
import OranE2.Library.Heap
import OranE2.Library.PartialRun
import OranE2.Termination.Calls

/-!
# Registered descriptions

This module embeds `RegisterFunctionDescToE2Sm` and the destructors with the
buffers behind the descriptions: the octet string of the simulator is a copy,
and a description frees its own buffer at its end, a KPM description that leaves
its scope twice.  The octet strings read as the descriptions that were
registered, whatever has become of these.
-/

namespace OranE2
namespace Termination

open Library
open PartialRun
open Asn1c

/-- The classes whose constructors fill `m_buffer`.  A `FunctionDescription` of
neither leaves it unset, so that nothing can be said about its end. -/
inductive DescriptionClass where
  | kpmFunctionDescription
  | ricControlFunctionDescription
  deriving DecidableEq, Repr

structure DescriptionBlock where
  descriptionClass : DescriptionClass
  buffer : Nat
  size : Nat
  deriving DecidableEq, Repr

structure RegisteredBlock where
  ranFunctionId : Int
  buf : Nat
  size : Nat
  deriving DecidableEq, Repr

structure DescriptionMemory where
  buffers : Heap (List UInt8)
  next : Nat
  descriptions : Heap DescriptionBlock
  registered : List RegisteredBlock

/-- What happens to a description of a given name.  Both ways of registering a
callback register the description first.  A description ends with the last `Ptr`
to it, or with the scope of its variable. -/
inductive DescriptionCall where
  | create (n : Nat) (descriptionClass : DescriptionClass)
      (description : FunctionDescription)
  | register (ranFunctionId : Int) (n : Nat)
  | unref (n : Nat)
  | leaveScope (n : Nat)
  deriving DecidableEq, Repr

def bytesToCopy (source : List UInt8) (size : Nat) : Option (List UInt8) :=
  if size ≤ source.length then some (source.take size) else none

theorem bytesToCopy_length (source : List UInt8) :
    bytesToCopy source source.length = some source := by
  unfold bytesToCopy
  rw [if_pos (Nat.le_refl _), List.take_length]

namespace DescriptionMemory

def empty : DescriptionMemory where
  buffers := .empty
  next := 0
  descriptions := .empty
  registered := []

def create (s : DescriptionMemory) (n : Nat)
    (descriptionClass : DescriptionClass) (encoded : List UInt8) :
    Option DescriptionMemory := do
  let buffers <- s.buffers.alloc s.next encoded
  let descriptions <- s.descriptions.alloc n
    { descriptionClass := descriptionClass
      buffer := s.next
      size := encoded.length }
  some
    { s with
      buffers := buffers
      next := s.next + 1
      descriptions := descriptions }

def registerFunctionDescToE2Sm (s : DescriptionMemory) (ranFunctionId : Int)
    (n : Nat) : Option DescriptionMemory := do
  let ranFunctionDescription <- s.descriptions.read n
  let buffers <- s.buffers.alloc s.next (calloc 0 ranFunctionDescription.size)
  let rfdBuf <- buffers.read s.next
  let source <- buffers.read ranFunctionDescription.buffer
  let bytes <- bytesToCopy source ranFunctionDescription.size
  let copied <- memcpy rfdBuf bytes
  let buffers <- buffers.modify s.next fun _ => copied
  some
    { s with
      buffers := buffers
      next := s.next + 1
      registered := s.registered ++
        [{ ranFunctionId := ranFunctionId
           buf := s.next
           size := ranFunctionDescription.size }] }

def destroyFunctionDescription (buffers : Heap (List UInt8))
    (description : DescriptionBlock) : Option (Heap (List UInt8)) :=
  buffers.free description.buffer

def destroyKpmFunctionDescription (buffers : Heap (List UInt8))
    (description : DescriptionBlock) : Option (Heap (List UInt8)) :=
  buffers.free description.buffer

def destroyObject (buffers : Heap (List UInt8))
    (description : DescriptionBlock) : Option (Heap (List UInt8)) :=
  match description.descriptionClass with
  | .kpmFunctionDescription => do
      let buffers <- destroyKpmFunctionDescription buffers description
      destroyFunctionDescription buffers description
  | .ricControlFunctionDescription =>
      -- `~RicControlFunctionDescription` is empty.
      destroyFunctionDescription buffers description

def destroyWith (s : DescriptionMemory) (n : Nat)
    (destroy : Heap (List UInt8) -> DescriptionBlock ->
      Option (Heap (List UInt8))) : Option DescriptionMemory := do
  let description <- s.descriptions.read n
  let buffers <- destroy s.buffers description
  let descriptions <- s.descriptions.free n
  some { s with buffers := buffers, descriptions := descriptions }

/-- `SimpleRefCount<FunctionDescription>` deletes a `FunctionDescription`.  Its
destructor is not virtual, so it alone runs, whatever the class. -/
def unref (s : DescriptionMemory) (n : Nat) : Option DescriptionMemory :=
  s.destroyWith n destroyFunctionDescription

def leaveScope (s : DescriptionMemory) (n : Nat) : Option DescriptionMemory :=
  s.destroyWith n destroyObject

def step (s : DescriptionMemory) : DescriptionCall -> Option DescriptionMemory
  | .create n descriptionClass description =>
      s.create n descriptionClass description.buffer
  | .register ranFunctionId n => s.registerFunctionDescToE2Sm ranFunctionId n
  | .unref n => s.unref n
  | .leaveScope n => s.leaveScope n

def readRegistered (s : DescriptionMemory) (r : RegisteredBlock) :
    Option E2SimCall :=
  (s.buffers.read r.buf).bind fun bytes =>
    if h : r.size ≤ bytes.length then
      some (.registerE2sm r.ranFunctionId
        { buf := bytes, size := r.size, size_le := h })
    else
      none

end DescriptionMemory

/-!
## Descriptions as values
-/

structure DescribedFunction where
  descriptionClass : DescriptionClass
  description : FunctionDescription
  deriving DecidableEq, Repr

structure DescribedFunctions where
  descriptions : Heap DescribedFunction
  calls : List E2SimCall

namespace DescribedFunctions

def empty : DescribedFunctions where
  descriptions := .empty
  calls := []

def endOf (a : DescribedFunctions) (n : Nat) : Option DescribedFunctions :=
  (a.descriptions.free n).map fun descriptions =>
    { a with descriptions := descriptions }

/-- A KPM description must not leave a scope. -/
def step (a : DescribedFunctions) :
    DescriptionCall -> Option DescribedFunctions
  | .create n descriptionClass description =>
      (a.descriptions.alloc n
          { descriptionClass := descriptionClass
            description := description }).map fun descriptions =>
        { a with descriptions := descriptions }
  | .register ranFunctionId n =>
      (a.descriptions.read n).map fun described =>
        { a with
          calls := a.calls ++
            registerFunctionDescToE2Sm ranFunctionId described.description }
  | .unref n => a.endOf n
  | .leaveScope n =>
      (a.descriptions.read n).bind fun described =>
        match described.descriptionClass with
        | .kpmFunctionDescription => none
        | .ricControlFunctionDescription => a.endOf n

end DescribedFunctions

/-!
## Refinement
-/

def HoldsCall (buffers : Heap (List UInt8)) (r : RegisteredBlock)
    (call : E2SimCall) : Prop :=
  exists bytes, buffers.read r.buf = some bytes ∧ r.size = bytes.length ∧
    call = .registerE2sm r.ranFunctionId (.ofBytes bytes)

structure Describes (buffers : Heap (List UInt8)) (block : DescriptionBlock)
    (described : DescribedFunction) : Prop where
  descriptionClass : block.descriptionClass = described.descriptionClass
  buffer : buffers.read block.buffer = some described.description.buffer
  size : block.size = described.description.buffer.length

/-- The same descriptions exist, each with a buffer of its own that holds the
value, and the octet strings are apart from these and hold the calls. -/
structure Refines (s : DescriptionMemory) (a : DescribedFunctions) : Prop where
  unused : s.buffers.UnusedFrom s.next
  freed : s.descriptions.freed = a.descriptions.freed
  absent : forall n, s.descriptions.contents n = none <->
    a.descriptions.contents n = none
  described : forall n block, s.descriptions.read n = some block ->
    exists described, a.descriptions.read n = some described ∧
      Describes s.buffers block described
  separate : forall n n' block block',
    s.descriptions.read n = some block ->
      s.descriptions.read n' = some block' ->
        block.buffer = block'.buffer -> n = n'
  apart : forall n block r, s.descriptions.read n = some block ->
    r ∈ s.registered -> block.buffer ≠ r.buf
  registered : List.Forall₂ (HoldsCall s.buffers) s.registered a.calls

theorem refines_empty : Refines .empty .empty where
  unused := Heap.unusedFrom_empty 0
  freed := rfl
  absent := fun _ => iff_of_true rfl rfl
  described := by
    intro n block h
    cases h
  separate := by
    intro n n' block block' h
    cases h
  apart := by
    intro n block r h
    cases h
  registered := List.Forall₂.nil

namespace Refines

variable {s : DescriptionMemory} {a : DescribedFunctions}

theorem read_none (h : Refines s a) {n : Nat}
    (hread : a.descriptions.read n = none) : s.descriptions.read n = none := by
  cases hblock : s.descriptions.read n with
  | none => rfl
  | some block =>
      rcases h.described n block hblock with ⟨described, hsome, _⟩
      rw [hread] at hsome
      cases hsome

theorem read_some (h : Refines s a) {n : Nat} {described : DescribedFunction}
    (hread : a.descriptions.read n = some described) :
    exists block, s.descriptions.read n = some block ∧
      Describes s.buffers block described := by
  rcases Heap.read_eq_some_iff.mp hread with ⟨hlive, hcontents⟩
  cases hblock : s.descriptions.contents n with
  | none =>
      rw [(h.absent n).mp hblock] at hcontents
      cases hcontents
  | some block =>
      rw [← h.freed] at hlive
      have hblock' := Heap.read_eq_some_iff.mpr ⟨hlive, hblock⟩
      rcases h.described n block hblock' with ⟨d, hd, hdescribes⟩
      rw [hread] at hd
      cases hd
      exact ⟨block, hblock', hdescribes⟩

theorem buffer_ne_next (h : Refines s a) {n : Nat} {block : DescriptionBlock}
    (hread : s.descriptions.read n = some block) :
    block.buffer ≠ s.next := by
  rcases h.described n block hread with ⟨_, _, hdescribes⟩
  exact h.unused.ne_of_read hdescribes.buffer

theorem registered_ne_next (h : Refines s a) {r : RegisteredBlock}
    (hr : r ∈ s.registered) : r.buf ≠ s.next := by
  rcases List.forall₂_iff_get.mp h.registered with ⟨hlength, hall⟩
  rcases List.mem_iff_get.mp hr with ⟨i, rfl⟩
  rcases hall i.val i.isLt (hlength ▸ i.isLt) with ⟨_, hread, _⟩
  exact h.unused.ne_of_read hread

theorem registered_of_agreeOff (h : Refines s a) {buffers : Heap (List UInt8)}
    (hagree : Heap.AgreeOff s.next s.buffers buffers) :
    List.Forall₂ (HoldsCall buffers) s.registered a.calls := by
  apply h.registered.imp
  intro r call hholds
  rcases hholds with ⟨bytes, hread, hsize, hcall⟩
  exact ⟨bytes, Heap.read_of_agreeOff h.unused hagree hread, hsize, hcall⟩

end Refines

theorem Describes.of_agreeOff {buffers buffers' : Heap (List UInt8)} {next : Nat}
    {block : DescriptionBlock} {described : DescribedFunction}
    (h : Describes buffers block described) (hunused : buffers.UnusedFrom next)
    (hagree : Heap.AgreeOff next buffers buffers') :
    Describes buffers' block described where
  descriptionClass := h.descriptionClass
  buffer := Heap.read_of_agreeOff hunused hagree h.buffer
  size := h.size

/-!
## One call
-/

def blockAt (buffer : Nat) (described : DescribedFunction) :
    DescriptionBlock where
  descriptionClass := described.descriptionClass
  buffer := buffer
  size := described.description.buffer.length

section

variable {s : DescriptionMemory} {a : DescribedFunctions}

theorem refines_create (h : Refines s a) {n : Nat}
    {described : DescribedFunction} {buffers : Heap (List UInt8)}
    {descriptions : Heap DescriptionBlock}
    {descriptions' : Heap DescribedFunction}
    (hbuffers :
      s.buffers.alloc s.next described.description.buffer = some buffers)
    (hs : s.descriptions.alloc n (blockAt s.next described) =
      some descriptions)
    (ha : a.descriptions.alloc n described = some descriptions') :
    Refines
      { s with
        buffers := buffers
        next := s.next + 1
        descriptions := descriptions }
      { a with descriptions := descriptions' } := by
  have hagree : Heap.AgreeOff s.next s.buffers buffers := by
    rw [h.unused.alloc_eq] at hbuffers
    cases hbuffers
    exact Heap.agreeOff_update _ _ _
  have hfresh : buffers.read s.next = some described.description.buffer :=
    (Heap.read_alloc_self hbuffers).mpr
      ⟨(h.unused s.next (Nat.le_refl _)).right, rfl⟩
  -- A description is either the new one or was there before.
  have hcases : forall n' block, descriptions.read n' = some block ->
      n = n' ∧ n ∉ s.descriptions.freed ∧ blockAt s.next described = block ∨
        n ≠ n' ∧ s.descriptions.read n' = some block := by
    intro n' block hread
    by_cases hn : n = n'
    · rw [← hn] at hread
      exact Or.inl ⟨hn, (Heap.read_alloc_self hs).mp hread⟩
    · rw [Heap.read_alloc_ne hs hn] at hread
      exact Or.inr ⟨hn, hread⟩
  constructor
  · exact h.unused.of_agreeOff hagree
  · show descriptions.freed = descriptions'.freed
    rw [Heap.freed_alloc hs, Heap.freed_alloc ha]
    exact h.freed
  · intro n'
    show descriptions.contents n' = none <-> descriptions'.contents n' = none
    rw [Heap.contents_alloc hs, Heap.contents_alloc ha]
    by_cases hn : n = n'
    · rw [if_pos hn, if_pos hn]
      exact iff_of_false (Option.some_ne_none _) (Option.some_ne_none _)
    · rw [if_neg hn, if_neg hn]
      exact h.absent n'
  · intro n' block hread
    rcases hcases n' block hread with ⟨rfl, hlive, rfl⟩ | ⟨hn, hold⟩
    · rw [h.freed] at hlive
      exact ⟨described, (Heap.read_alloc_self ha).mpr ⟨hlive, rfl⟩, rfl,
        hfresh, rfl⟩
    · rcases h.described n' block hold with ⟨d, hd, hdescribes⟩
      exact ⟨d, (Heap.read_alloc_ne ha hn).trans hd,
        hdescribes.of_agreeOff h.unused hagree⟩
  · intro n₁ n₂ block₁ block₂ hread₁ hread₂ hsame
    rcases hcases n₁ block₁ hread₁ with ⟨rfl, _, rfl⟩ | ⟨hn₁, hold₁⟩
    · rcases hcases n₂ block₂ hread₂ with ⟨hn, _, _⟩ | ⟨hn₂, hold₂⟩
      · exact hn
      · exact absurd hsame.symm (h.buffer_ne_next hold₂)
    · rcases hcases n₂ block₂ hread₂ with ⟨rfl, _, rfl⟩ | ⟨hn₂, hold₂⟩
      · exact absurd hsame (h.buffer_ne_next hold₁)
      · exact h.separate n₁ n₂ block₁ block₂ hold₁ hold₂ hsame
  · intro n' block r hread hr
    rcases hcases n' block hread with ⟨rfl, _, rfl⟩ | ⟨hn, hold⟩
    · exact (h.registered_ne_next hr).symm
    · exact h.apart n' block r hold hr
  · exact h.registered_of_agreeOff hagree

theorem refines_end (h : Refines s a) {n : Nat} {block : DescriptionBlock}
    {buffers : Heap (List UInt8)} {descriptions : Heap DescriptionBlock}
    {descriptions' : Heap DescribedFunction}
    (hread : s.descriptions.read n = some block)
    (hbuffers : s.buffers.free block.buffer = some buffers)
    (hs : s.descriptions.free n = some descriptions)
    (ha : a.descriptions.free n = some descriptions') :
    Refines { s with buffers := buffers, descriptions := descriptions }
      { a with descriptions := descriptions' } := by
  have hkept : forall b, block.buffer ≠ b ->
      buffers.read b = s.buffers.read b := by
    intro b hb
    rw [Heap.read_free hbuffers, if_neg hb]
  have hcases : forall n' block', descriptions.read n' = some block' ->
      n ≠ n' ∧ s.descriptions.read n' = some block' := by
    intro n' block' hread'
    rw [Heap.read_free hs] at hread'
    by_cases hn : n = n'
    · rw [if_pos hn] at hread'
      cases hread'
    · rw [if_neg hn] at hread'
      exact ⟨hn, hread'⟩
  constructor
  · exact h.unused.free hbuffers
  · show descriptions.freed = descriptions'.freed
    rw [Heap.freed_free hs, Heap.freed_free ha, h.freed]
  · intro n'
    show descriptions.contents n' = none <-> descriptions'.contents n' = none
    rw [Heap.contents_free hs, Heap.contents_free ha]
    exact h.absent n'
  · intro n' block' hread'
    rcases hcases n' block' hread' with ⟨hn, hold⟩
    rcases h.described n' block' hold with ⟨d, hd, hclass, hbuffer, hsize⟩
    have hother : block.buffer ≠ block'.buffer := fun hsame =>
      hn (h.separate n n' block block' hread hold hsame)
    refine ⟨d, ?_, hclass, (hkept _ hother).trans hbuffer, hsize⟩
    rw [Heap.read_free ha, if_neg hn]
    exact hd
  · intro n₁ n₂ block₁ block₂ hread₁ hread₂ hsame
    exact h.separate n₁ n₂ block₁ block₂ (hcases n₁ block₁ hread₁).right
      (hcases n₂ block₂ hread₂).right hsame
  · intro n' block' r hread' hr
    exact h.apart n' block' r (hcases n' block' hread').right hr
  · have hheld := List.forall₂_iff_zip.mp h.registered
    refine List.forall₂_iff_zip.mpr ⟨hheld.left, ?_⟩
    intro r call hmem
    rcases hheld.right hmem with ⟨bytes, hbytes, hsize, hcall⟩
    have hr := (List.of_mem_zip hmem).left
    exact ⟨bytes, (hkept _ (h.apart n block r hread hr)).trans hbytes, hsize,
      hcall⟩

theorem registerFunctionDescToE2Sm_eq (h : Refines s a) {n : Nat}
    {block : DescriptionBlock} {content : List UInt8}
    (hread : s.descriptions.read n = some block)
    (hbuffer : s.buffers.read block.buffer = some content)
    (hsize : block.size = content.length) (ranFunctionId : Int) :
    s.registerFunctionDescToE2Sm ranFunctionId n =
      some
        { s with
          buffers :=
            { s.buffers with
              contents := Function.update s.buffers.contents s.next
                (some content) }
          next := s.next + 1
          registered := s.registered ++
            [{ ranFunctionId := ranFunctionId
               buf := s.next
               size := content.length }] } := by
  have hother : s.next ≠ block.buffer := (h.buffer_ne_next hread).symm
  have halloc := h.unused.alloc_eq (calloc 0 content.length)
  have hfilled := (Heap.read_alloc_self halloc).mpr
    ⟨(h.unused s.next (Nat.le_refl _)).right, rfl⟩
  have hsource := (Heap.read_alloc_ne halloc hother).trans hbuffer
  have hmodify := Heap.modify_eq_some_iff (f := fun _ => content) |>.mpr
    ⟨_, hfilled, rfl⟩
  unfold DescriptionMemory.registerFunctionDescToE2Sm
  rw [hread]
  simp only [Option.bind_eq_bind, Option.bind_some, hsize, halloc, hfilled,
    hsource, bytesToCopy_length, memcpy_calloc, hmodify, Function.update_idem]

theorem register_related (h : Refines s a) (ranFunctionId : Int) (n : Nat) :
    Option.Rel Refines (s.step (.register ranFunctionId n))
      (a.step (.register ranFunctionId n)) := by
  show Option.Rel Refines (s.registerFunctionDescToE2Sm ranFunctionId n)
    (Option.map _ (a.descriptions.read n))
  cases hdescribed : a.descriptions.read n with
  | none =>
      unfold DescriptionMemory.registerFunctionDescToE2Sm
      rw [h.read_none hdescribed]
      exact Option.Rel.none
  | some described =>
      rcases h.read_some hdescribed with ⟨block, hread, hdescribes⟩
      rw [registerFunctionDescToE2Sm_eq h hread hdescribes.buffer
        hdescribes.size]
      have hagree := Heap.agreeOff_update s.buffers s.next
        (some described.description.buffer)
      refine Option.Rel.some ?_
      constructor
      · exact h.unused.of_agreeOff hagree
      · exact h.freed
      · exact h.absent
      · intro n' block' hread'
        rcases h.described n' block' hread' with ⟨d, hd, hdescribes'⟩
        exact ⟨d, hd, hdescribes'.of_agreeOff h.unused hagree⟩
      · exact h.separate
      · intro n' block' r hread' hr
        rcases List.mem_append.mp hr with hr | hr
        · exact h.apart n' block' r hread' hr
        · rw [List.mem_singleton.mp hr]
          exact h.buffer_ne_next hread'
      · refine List.rel_append (h.registered_of_agreeOff hagree)
          (.cons ⟨described.description.buffer, ?_, rfl, rfl⟩ .nil)
        exact Heap.read_eq_some_iff.mpr
          ⟨(h.unused s.next (Nat.le_refl _)).right, Function.update_self ..⟩

theorem create_related (h : Refines s a) (n : Nat)
    (descriptionClass : DescriptionClass) (description : FunctionDescription) :
    Option.Rel Refines (s.step (.create n descriptionClass description))
      (a.step (.create n descriptionClass description)) := by
  have hbuffers := h.unused.alloc_eq description.buffer
  let described : DescribedFunction :=
    { descriptionClass := descriptionClass, description := description }
  show Option.Rel Refines (s.create n descriptionClass description.buffer)
    (Option.map _ (a.descriptions.alloc n described))
  unfold DescriptionMemory.create
  rw [hbuffers]
  change Option.Rel Refines
    ((s.descriptions.alloc n (blockAt s.next described)).bind _) _
  by_cases hcontents : a.descriptions.contents n = none
  · have hs := Heap.alloc_eq_some_iff (x := blockAt s.next described) |>.mpr
      ⟨(h.absent n).mpr hcontents, rfl⟩
    have ha := Heap.alloc_eq_some_iff (x := described) |>.mpr ⟨hcontents, rfl⟩
    rw [hs, ha]
    exact Option.Rel.some (refines_create h hbuffers hs ha)
  · have ha := Heap.alloc_eq_none_iff (x := described) |>.mpr hcontents
    have hs := Heap.alloc_eq_none_iff (x := blockAt s.next described) |>.mpr
      fun hnone => hcontents ((h.absent n).mp hnone)
    rw [hs, ha]
    exact Option.Rel.none

theorem unref_related (h : Refines s a) (n : Nat) :
    Option.Rel Refines (s.unref n) (a.endOf n) := by
  unfold DescriptionMemory.unref DescriptionMemory.destroyWith
    DescribedFunctions.endOf DescriptionMemory.destroyFunctionDescription
  cases hdescribed : a.descriptions.read n with
  | none =>
      have hfree : a.descriptions.free n = none := by
        unfold Heap.free
        rw [hdescribed]
      rw [h.read_none hdescribed, hfree]
      exact Option.Rel.none
  | some described =>
      rcases h.read_some hdescribed with ⟨block, hread, hdescribes⟩
      have hbuffers := Heap.free_eq_some_iff.mpr ⟨⟨_, hdescribes.buffer⟩, rfl⟩
      have hs := Heap.free_eq_some_iff.mpr ⟨⟨_, hread⟩, rfl⟩
      have ha := Heap.free_eq_some_iff.mpr ⟨⟨_, hdescribed⟩, rfl⟩
      rw [hread, ha]
      simp only [Option.bind_eq_bind, Option.bind_some, hbuffers, hs]
      exact Option.Rel.some (refines_end h hread hbuffers hs ha)

theorem destroyObject_kpm {buffers : Heap (List UInt8)}
    {block : DescriptionBlock}
    (hclass : block.descriptionClass = .kpmFunctionDescription) :
    DescriptionMemory.destroyObject buffers block = none := by
  unfold DescriptionMemory.destroyObject
    DescriptionMemory.destroyKpmFunctionDescription
    DescriptionMemory.destroyFunctionDescription
  rw [hclass]
  simp only [Option.bind_eq_bind]
  cases hfree : buffers.free block.buffer with
  | none => rfl
  | some buffers' => exact Heap.free_of_free hfree

theorem destroyObject_ricControl {buffers : Heap (List UInt8)}
    {block : DescriptionBlock}
    (hclass : block.descriptionClass = .ricControlFunctionDescription) :
    DescriptionMemory.destroyObject buffers block =
      DescriptionMemory.destroyFunctionDescription buffers block := by
  unfold DescriptionMemory.destroyObject
  rw [hclass]

theorem leaveScope_related (h : Refines s a) (n : Nat) :
    Option.Rel Refines (s.step (.leaveScope n)) (a.step (.leaveScope n)) := by
  show Option.Rel Refines (s.leaveScope n) (Option.bind _ _)
  have hunref := unref_related h n
  unfold DescriptionMemory.unref at hunref
  unfold DescriptionMemory.leaveScope DescriptionMemory.destroyWith
  unfold DescriptionMemory.destroyWith at hunref
  cases hdescribed : a.descriptions.read n with
  | none =>
      rw [h.read_none hdescribed]
      exact Option.Rel.none
  | some described =>
      rcases h.read_some hdescribed with ⟨block, hread, hdescribes⟩
      rw [hread] at hunref ⊢
      simp only [Option.bind_eq_bind, Option.bind_some] at hunref ⊢
      cases hclass : described.descriptionClass with
      | kpmFunctionDescription =>
          rw [destroyObject_kpm (hdescribes.descriptionClass.trans hclass)]
          exact Option.Rel.none
      | ricControlFunctionDescription =>
          rw [destroyObject_ricControl
            (hdescribes.descriptionClass.trans hclass)]
          exact hunref

theorem step_related (h : Refines s a) (call : DescriptionCall) :
    Option.Rel Refines (s.step call) (a.step call) := by
  cases call with
  | create n descriptionClass description =>
      exact create_related h n descriptionClass description
  | register ranFunctionId n => exact register_related h ranFunctionId n
  | unref n => exact unref_related h n
  | leaveScope n => exact leaveScope_related h n

theorem HoldsCall.readRegistered {r : RegisteredBlock} {call : E2SimCall}
    (h : HoldsCall s.buffers r call) : s.readRegistered r = some call := by
  rcases h with ⟨bytes, hread, hsize, rfl⟩
  unfold DescriptionMemory.readRegistered OctetStringT.ofBytes
  rw [hread, Option.bind_some, dif_pos (Nat.le_of_eq hsize)]
  simp only [hsize]

end

/-- The memory goes wrong exactly where a description is used that does not
exist or a KPM description leaves its scope.  Otherwise the octet strings of the
simulator can be read, and are those of the descriptions when they were
registered. -/
theorem registered_descriptions_kept (calls : List DescriptionCall) :
    Option.Rel (fun s a => s.registered.map s.readRegistered =
        a.calls.map some)
      (run DescriptionMemory.step .empty calls)
      (run DescribedFunctions.step .empty calls) := by
  apply rel_imp (run_related (fun s a call h => step_related h call)
    refines_empty calls)
  intro s a _ _ h
  rw [← List.forall₂_eq_eq_eq, List.forall₂_map_left_iff,
    List.forall₂_map_right_iff]
  apply h.registered.imp
  intro r call hholds
  exact hholds.readRegistered

def replacedDescription : List DescriptionCall :=
  [.create 0 .kpmFunctionDescription { buffer := [1, 2, 3] },
    .register 200 0, .unref 0,
    .create 1 .ricControlFunctionDescription { buffer := [4] },
    .register 300 1, .leaveScope 1]

example : (run DescriptionMemory.step .empty replacedDescription).map
      (fun s => s.registered.map s.readRegistered) =
    some
      [some (.registerE2sm 200 (.ofBytes [1, 2, 3])),
        some (.registerE2sm 300 (.ofBytes [4]))] := by
  decide

example : (run DescriptionMemory.step .empty
    [.create 0 .kpmFunctionDescription { buffer := [1] },
      .leaveScope 0]).isNone := by
  decide

end Termination
end OranE2
