import Mathlib.Data.List.Basic
import Mathlib.Logic.Function.Basic

/-!
# Heaps of named objects

An object is allocated under a name that was never used before, so a name that
outlives its object is told from every other name.  What an object held when
it was freed is remembered, but can no longer be read.
-/

namespace OranE2
namespace Library

structure Heap (object : Type) where
  contents : Nat -> Option object
  freed : List Nat

namespace Heap

def empty : Heap object where
  contents := fun _ => none
  freed := []

def read (h : Heap object) (a : Nat) : Option object :=
  if a ∈ h.freed then none else h.contents a

def alloc (h : Heap object) (a : Nat) (x : object) : Option (Heap object) :=
  match h.contents a with
  | none => some { h with contents := Function.update h.contents a (some x) }
  | some _ => none

def modify (h : Heap object) (a : Nat) (f : object -> object) :
    Option (Heap object) :=
  match h.read a with
  | none => none
  | some x =>
      some { h with contents := Function.update h.contents a (some (f x)) }

/-- `none` is the release of an object that is not live. -/
def free (h : Heap object) (a : Nat) : Option (Heap object) :=
  match h.read a with
  | none => none
  | some _ => some { h with freed := a :: h.freed }

theorem read_eq_some_iff {h : Heap object} {a : Nat} {x : object} :
    h.read a = some x <-> a ∉ h.freed ∧ h.contents a = some x := by
  unfold read
  by_cases ha : a ∈ h.freed
  · simp [ha]
  · simp [ha]

theorem alloc_eq_some_iff {h h' : Heap object} {a : Nat} {x : object} :
    h.alloc a x = some h' <->
      h.contents a = none ∧
        h' = { h with contents := Function.update h.contents a (some x) } := by
  unfold alloc
  cases hcontents : h.contents a with
  | none => simp [eq_comm]
  | some y => simp

theorem alloc_eq_none_iff {h : Heap object} {a : Nat} {x : object} :
    h.alloc a x = none <-> h.contents a ≠ none := by
  unfold alloc
  cases hcontents : h.contents a with
  | none => simp
  | some y => simp

theorem modify_eq_some_iff {h h' : Heap object} {a : Nat}
    {f : object -> object} :
    h.modify a f = some h' <->
      exists x, h.read a = some x ∧
        h' = { h with
          contents := Function.update h.contents a (some (f x)) } := by
  unfold modify
  cases hread : h.read a with
  | none => simp
  | some x => simp [eq_comm]

theorem free_eq_some_iff {h h' : Heap object} {a : Nat} :
    h.free a = some h' <->
      (exists x, h.read a = some x) ∧ h' = { h with freed := a :: h.freed } := by
  unfold free
  cases hread : h.read a with
  | none => simp
  | some x => simp [eq_comm]

/-!
## What the operations leave
-/

theorem contents_alloc {h h' : Heap object} {a : Nat} {x : object}
    (hstep : h.alloc a x = some h') (b : Nat) :
    h'.contents b = if a = b then some x else h.contents b := by
  rcases alloc_eq_some_iff.mp hstep with ⟨_, rfl⟩
  by_cases hb : a = b
  · subst hb
    simp
  · simp [hb, Ne.symm hb]

theorem freed_alloc {h h' : Heap object} {a : Nat} {x : object}
    (hstep : h.alloc a x = some h') : h'.freed = h.freed := by
  rcases alloc_eq_some_iff.mp hstep with ⟨_, rfl⟩
  rfl

theorem contents_modify {h h' : Heap object} {a : Nat} {f : object -> object}
    (hstep : h.modify a f = some h') (b : Nat) :
    exists x, h.read a = some x ∧
      h'.contents b = if a = b then some (f x) else h.contents b := by
  rcases modify_eq_some_iff.mp hstep with ⟨x, hread, rfl⟩
  refine ⟨x, hread, ?_⟩
  by_cases hb : a = b
  · subst hb
    simp
  · simp [hb, Ne.symm hb]

theorem part_modify {h h' : Heap object} {a : Nat} {f : object -> object}
    (hstep : h.modify a f = some h') (part : object -> Option value) (b : Nat) :
    exists x, h.read a = some x ∧
      (h'.contents b).bind part =
        if a = b then part (f x) else (h.contents b).bind part := by
  rcases contents_modify hstep b with ⟨x, hread, hcontents⟩
  refine ⟨x, hread, ?_⟩
  rw [hcontents]
  by_cases hb : a = b
  · rw [if_pos hb, if_pos hb]
    rfl
  · rw [if_neg hb, if_neg hb]

theorem isSome_modify {h h' : Heap object} {a : Nat} {f : object -> object}
    (hstep : h.modify a f = some h') (b : Nat) :
    (h'.contents b).isSome = (h.contents b).isSome := by
  rcases contents_modify hstep b with ⟨x, hread, hcontents⟩
  rw [hcontents]
  by_cases hb : a = b
  · rw [if_pos hb, ← hb, (read_eq_some_iff.mp hread).right]
    rfl
  · rw [if_neg hb]

theorem freed_modify {h h' : Heap object} {a : Nat} {f : object -> object}
    (hstep : h.modify a f = some h') : h'.freed = h.freed := by
  rcases modify_eq_some_iff.mp hstep with ⟨x, _, rfl⟩
  rfl

theorem contents_free {h h' : Heap object} {a : Nat}
    (hstep : h.free a = some h') : h'.contents = h.contents := by
  rcases free_eq_some_iff.mp hstep with ⟨_, rfl⟩
  rfl

theorem freed_free {h h' : Heap object} {a : Nat}
    (hstep : h.free a = some h') : h'.freed = a :: h.freed := by
  rcases free_eq_some_iff.mp hstep with ⟨_, rfl⟩
  rfl

theorem read_alloc_ne {h h' : Heap object} {a b : Nat} {x : object}
    (hstep : h.alloc a x = some h') (hne : a ≠ b) : h'.read b = h.read b := by
  unfold read
  rw [freed_alloc hstep, contents_alloc hstep, if_neg hne]

theorem read_alloc_self {h h' : Heap object} {a : Nat} {x y : object}
    (hstep : h.alloc a x = some h') :
    h'.read a = some y <-> a ∉ h.freed ∧ x = y := by
  rw [read_eq_some_iff, freed_alloc hstep, contents_alloc hstep, if_pos rfl,
    Option.some_inj]

theorem read_free {h h' : Heap object} {a b : Nat}
    (hstep : h.free a = some h') :
    h'.read b = if a = b then none else h.read b := by
  unfold read
  rw [freed_free hstep, contents_free hstep]
  by_cases hb : a = b
  · rw [if_pos hb, ← hb, if_pos List.mem_cons_self]
  · rw [if_neg hb]
    simp only [List.mem_cons, Ne.symm hb, false_or]

theorem free_of_free {h h' : Heap object} {a : Nat}
    (hstep : h.free a = some h') : h'.free a = none := by
  unfold free
  rw [read_free hstep, if_pos rfl]

/-!
## Names in use
-/

def UnusedFrom (h : Heap object) (n : Nat) : Prop :=
  forall a, n ≤ a -> h.contents a = none ∧ a ∉ h.freed

/-- Two heaps differ at most in the object of one name. -/
def AgreeOff (n : Nat) (h h' : Heap object) : Prop :=
  forall a, a ≠ n ->
    h'.contents a = h.contents a ∧ (a ∈ h'.freed <-> a ∈ h.freed)

theorem unusedFrom_empty (n : Nat) : UnusedFrom (empty : Heap object) n :=
  fun _ _ => ⟨rfl, List.not_mem_nil⟩

theorem UnusedFrom.alloc_eq {h : Heap object} {n : Nat}
    (hunused : UnusedFrom h n) (x : object) :
    h.alloc n x =
      some { h with contents := Function.update h.contents n (some x) } :=
  alloc_eq_some_iff.mpr ⟨(hunused n (Nat.le_refl n)).left, rfl⟩

theorem UnusedFrom.free {h h' : Heap object} {n a : Nat}
    (hunused : UnusedFrom h n) (hstep : h.free a = some h') :
    UnusedFrom h' n := by
  intro b hb
  rcases free_eq_some_iff.mp hstep with ⟨⟨x, hread⟩, rfl⟩
  rcases hunused b hb with ⟨hcontents, hlive⟩
  refine ⟨hcontents, ?_⟩
  intro hmem
  rcases List.mem_cons.mp hmem with rfl | hmem
  · rw [(read_eq_some_iff.mp hread).right] at hcontents
    cases hcontents
  · exact hlive hmem

theorem UnusedFrom.of_agreeOff {h h' : Heap object} {n : Nat}
    (hunused : UnusedFrom h n) (hagree : AgreeOff n h h') :
    UnusedFrom h' (n + 1) := by
  intro a ha
  rcases hagree a (Nat.ne_of_gt ha) with ⟨hcontents, hfreed⟩
  rw [hcontents, hfreed]
  exact hunused a (Nat.le_of_lt ha)

theorem agreeOff_update (h : Heap object) (n : Nat) (x : Option object) :
    AgreeOff n h
      { h with contents := Function.update h.contents n x } := by
  intro a ha
  exact ⟨Function.update_of_ne ha x h.contents, Iff.rfl⟩

theorem agreeOff_free (h : Heap object) (n : Nat) :
    AgreeOff n h { h with freed := n :: h.freed } := by
  intro a ha
  exact ⟨rfl, by simp [ha]⟩

theorem AgreeOff.trans {n : Nat} {h h' h'' : Heap object}
    (hleft : AgreeOff n h h') (hright : AgreeOff n h' h'') :
    AgreeOff n h h'' := by
  intro a ha
  rcases hleft a ha with ⟨hcontents, hfreed⟩
  rcases hright a ha with ⟨hcontents', hfreed'⟩
  exact ⟨hcontents'.trans hcontents, hfreed'.trans hfreed⟩

theorem AgreeOff.read_eq {h h' : Heap object} {n a : Nat}
    (hagree : AgreeOff n h h') (hne : a ≠ n) : h'.read a = h.read a := by
  rcases hagree a hne with ⟨hcontents, hfreed⟩
  unfold read
  rw [hcontents]
  by_cases ha : a ∈ h.freed
  · rw [if_pos ha, if_pos (hfreed.mpr ha)]
  · rw [if_neg ha, if_neg fun hmem => ha (hfreed.mp hmem)]

theorem UnusedFrom.ne_of_read {h : Heap object} {n a : Nat} {x : object}
    (hunused : UnusedFrom h n) (hread : h.read a = some x) : a ≠ n := by
  intro heq
  rw [heq] at hread
  have hcontents := (read_eq_some_iff.mp hread).right
  rw [(hunused n (Nat.le_refl n)).left] at hcontents
  cases hcontents

theorem read_of_agreeOff {h h' : Heap object} {n a : Nat} {x : object}
    (hunused : UnusedFrom h n) (hagree : AgreeOff n h h')
    (hread : h.read a = some x) : h'.read a = some x := by
  rw [hagree.read_eq (hunused.ne_of_read hread)]
  exact hread

end Heap

end Library
end OranE2
