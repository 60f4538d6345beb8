import Mathlib.Data.List.Basic

/-!
# A store of growable lists

Lists that are allocated empty, never freed and only appended to, reached
through pointers that may be null or lead nowhere.
-/

namespace OranE2
namespace Library

/-- A null pointer, or an address at which a list may or may not live. -/
inductive Pointer where
  | null
  | addr (address : Nat)
  deriving DecidableEq, Repr

/-- The `n`-th list allocated lives at address `n`. -/
structure ListStore (item : Type) where
  lists : List (List item)
  deriving DecidableEq, Repr

namespace ListStore

def empty : ListStore item where
  lists := []

def alloc (store : ListStore item) : ListStore item × Pointer :=
  ({ lists := store.lists ++ [[]] }, Pointer.addr store.lists.length)

def read (store : ListStore item) : Pointer -> Option (List item)
  | Pointer.null => none
  | Pointer.addr address => store.lists[address]?

def write (store : ListStore item) (xs : List item) :
    Pointer -> ListStore item
  | Pointer.null => store
  | Pointer.addr address => { lists := store.lists.set address xs }

def add (store : ListStore item) (p : Pointer) (x : item) :
    Option (ListStore item) :=
  match store.read p with
  | none => none
  | some xs => some (store.write (xs ++ [x]) p)

theorem read_alloc (store : ListStore item) :
    store.alloc.1.read store.alloc.2 = some [] := by
  show (store.lists ++ [[]])[store.lists.length]? = some []
  rw [List.getElem?_append_right (Nat.le_refl _), Nat.sub_self]
  rfl

theorem read_write {store : ListStore item} {p : Pointer} {xs : List item}
    (h : store.read p = some xs) (ys : List item) :
    (store.write ys p).read p = some ys := by
  cases p with
  | null => cases h
  | addr address =>
      rcases List.getElem?_eq_some_iff.mp h with ⟨hlt, _⟩
      exact List.getElem?_set_self hlt

theorem add_eq_none {store : ListStore item} {p : Pointer}
    (h : store.read p = none) (x : item) : store.add p x = none := by
  unfold add
  rw [h]

theorem exists_add {store : ListStore item} {p : Pointer} {xs : List item}
    (h : store.read p = some xs) (x : item) :
    exists store', store.add p x = some store' ∧
      store'.read p = some (xs ++ [x]) := by
  refine ⟨store.write (xs ++ [x]) p, ?_, read_write h _⟩
  unfold add
  rw [h]

theorem add_ne_self (store : ListStore item) (p : Pointer) (x : item) :
    store.add p x ≠ some store := by
  intro h
  cases hread : store.read p with
  | none =>
      rw [add_eq_none hread] at h
      cases h
  | some xs =>
      rcases exists_add hread x with ⟨store', hadd, hread'⟩
      rw [h] at hadd
      cases hadd
      rw [hread] at hread'
      have hlength := congrArg List.length (Option.some.inj hread')
      rw [List.length_append] at hlength
      exact absurd hlength (Nat.ne_of_lt (Nat.lt_succ_self xs.length))

end ListStore

end Library
end OranE2
