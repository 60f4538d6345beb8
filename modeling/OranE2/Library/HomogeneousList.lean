import Mathlib.Data.List.Basic

/-!
# Bounded homogeneous lists

A list that takes its kind from the first item, refuses items of any other
kind, and refuses every item once it is full.
-/

namespace OranE2
namespace Library

/-- At most `bound` items, all of the kind of the tag. -/
@[ext] structure HomogeneousList (kindOf : item -> kind) (bound : Nat) where
  tag : kind
  items : List item
  items_kind : forall x, x ∈ items -> kindOf x = tag
  length_le : items.length ≤ bound

namespace HomogeneousList

variable {item kind : Type} [DecidableEq kind]
variable {kindOf : item -> kind} {bound : Nat}

def Accepts (l : HomogeneousList kindOf bound) (x : item) : Prop :=
  l.items.length < bound ∧ kindOf x = l.tag

instance (l : HomogeneousList kindOf bound) (x : item) :
    Decidable (l.Accepts x) :=
  inferInstanceAs (Decidable (_ ∧ _))

def push (l : HomogeneousList kindOf bound) (x : item) :
    HomogeneousList kindOf bound :=
  if h : l.Accepts x then
    { tag := l.tag
      items := l.items ++ [x]
      items_kind := by
        intro y hy
        rcases List.mem_append.mp hy with hy | hy
        · exact l.items_kind y hy
        · rw [List.mem_singleton.mp hy]
          exact h.right
      length_le := by
        rw [List.length_append]
        exact h.left }
  else
    l

theorem push_of_accepts {l : HomogeneousList kindOf bound} {x : item}
    (h : l.Accepts x) :
    (l.push x).tag = l.tag ∧ (l.push x).items = l.items ++ [x] := by
  unfold push
  rw [dif_pos h]
  exact ⟨rfl, rfl⟩

theorem push_of_not_accepts {l : HomogeneousList kindOf bound} {x : item}
    (h : ¬ l.Accepts x) : l.push x = l := by
  unfold push
  exact dif_neg h

@[simp] theorem push_tag (l : HomogeneousList kindOf bound) (x : item) :
    (l.push x).tag = l.tag := by
  by_cases h : l.Accepts x
  · exact (push_of_accepts h).left
  · rw [push_of_not_accepts h]

theorem foldl_push_tag (l : HomogeneousList kindOf bound) (xs : List item) :
    (xs.foldl push l).tag = l.tag := by
  induction xs generalizing l with
  | nil => rfl
  | cons x xs ih => rw [List.foldl_cons, ih, push_tag]

/-- Whatever was offered, the list holds its own items and then those of its
kind in the order of arrival, cut off at the bound. -/
theorem foldl_push_items (l : HomogeneousList kindOf bound)
    (xs : List item) :
    (xs.foldl push l).items =
      (l.items ++ xs.filter fun x => kindOf x = l.tag).take bound := by
  induction xs generalizing l with
  | nil =>
      rw [List.filter_nil, List.append_nil]
      exact (List.take_of_length_le l.length_le).symm
  | cons x xs ih =>
      rw [List.foldl_cons, ih, push_tag]
      by_cases haccepts : l.Accepts x
      · have hfilter : (x :: xs).filter (fun y => kindOf y = l.tag) =
            x :: xs.filter fun y => kindOf y = l.tag :=
          List.filter_cons_of_pos (decide_eq_true haccepts.right)
        rw [(push_of_accepts haccepts).right, hfilter, List.append_assoc]
        rfl
      · rw [push_of_not_accepts haccepts]
        by_cases hkind : kindOf x = l.tag
        · have hfull : l.items.length = bound := by
            apply Nat.le_antisymm l.length_le
            apply Nat.le_of_not_lt
            intro hlt
            exact haccepts ⟨hlt, hkind⟩
          rw [List.take_append_of_le_length (Nat.le_of_eq hfull.symm),
            List.take_append_of_le_length (Nat.le_of_eq hfull.symm)]
        · rw [List.filter_cons_of_neg (by
            rw [decide_eq_true_eq]
            exact hkind)]

/-!
## Lists that do not exist yet
-/

def nil (tag : kind) : HomogeneousList kindOf bound where
  tag := tag
  items := []
  items_kind := by
    intro x hx
    cases hx
  length_le := Nat.zero_le bound

def add : Option (HomogeneousList kindOf bound) -> item ->
    Option (HomogeneousList kindOf bound)
  | none, x => some ((nil (kindOf x)).push x)
  | some l, x => some (l.push x)

theorem foldl_add_some (l : HomogeneousList kindOf bound)
    (xs : List item) :
    xs.foldl add (some l) = some (xs.foldl push l) := by
  induction xs generalizing l with
  | nil => rfl
  | cons x xs ih =>
      rw [List.foldl_cons, List.foldl_cons]
      exact ih (l.push x)

theorem foldl_add_eq_none_iff {xs : List item} :
    xs.foldl add (none : Option (HomogeneousList kindOf bound)) = none <->
      xs = [] := by
  cases xs with
  | nil => exact iff_of_true rfl rfl
  | cons x xs =>
      rw [List.foldl_cons]
      show xs.foldl add (some _) = none <-> _
      rw [foldl_add_some]
      exact iff_of_false (Option.some_ne_none _) (List.cons_ne_nil x xs)

theorem foldl_add_cons (x : item) (xs : List item) :
    exists l : HomogeneousList kindOf bound,
      (x :: xs).foldl add none = some l ∧ l.tag = kindOf x ∧
        l.items =
          ((x :: xs).filter fun y => kindOf y = kindOf x).take bound := by
  refine ⟨(x :: xs).foldl push (nil (kindOf x)), ?_, ?_, ?_⟩
  · exact foldl_add_some ((nil (kindOf x)).push x) xs
  · exact foldl_push_tag (nil (kindOf x)) (x :: xs)
  · exact foldl_push_items (nil (kindOf x)) (x :: xs)

theorem foldl_add_of_refused {l : Option (HomogeneousList kindOf bound)}
    {xs : List item}
    (h : forall x, x ∈ xs ->
      exists held, l = some held ∧ kindOf x ≠ held.tag) :
    xs.foldl add l = l := by
  induction xs with
  | nil => rfl
  | cons x xs ih =>
      rcases h x List.mem_cons_self with ⟨held, rfl, hkind⟩
      rw [List.foldl_cons]
      show xs.foldl add (some (held.push x)) = some held
      rw [push_of_not_accepts fun haccepts => hkind haccepts.right]
      exact ih fun y hy => h y (List.mem_cons_of_mem x hy)

end HomogeneousList

end Library
end OranE2
