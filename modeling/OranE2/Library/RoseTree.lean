import Mathlib.Data.List.Basic
import Mathlib.Data.List.Forall2
import OranE2.Library.AppendLoop

/-!
# Labelled leaves of rose trees

A leaf of a tree is named by the path that leads to it, the list of the child
numbers on the way.  The fringe of a tree lists its leaves in depth-first
order, which is the lexicographic order of their paths.
-/

namespace OranE2
namespace Library

inductive RoseTree (label : Type) where
  | leaf (content : label)
  | node (children : List (RoseTree label))

namespace RoseTree

/-- What stands at the end of a path, if it leads to a leaf. -/
def leafAt : List Nat -> RoseTree label -> Option label
  | [], .leaf content => some content
  | k :: path, .node children => (children[k]?).bind (leafAt path)
  | [], .node _ => none
  | _ :: _, .leaf _ => none

def leafIn (trees : List (RoseTree label)) : List Nat -> Option label
  | [] => none
  | k :: path => (trees[k]?).bind (leafAt path)

mutual

def fringe : RoseTree label -> List label
  | .leaf content => [content]
  | .node children => fringeForest children

def fringeForest : List (RoseTree label) -> List label
  | [] => []
  | tree :: trees => fringe tree ++ fringeForest trees

end

def shift : List Nat -> List Nat
  | [] => []
  | k :: path => (k + 1) :: path

mutual

def paths : RoseTree label -> List (List Nat)
  | .leaf _ => [[]]
  | .node children => pathsForest children

def pathsForest : List (RoseTree label) -> List (List Nat)
  | [] => []
  | tree :: trees =>
      (paths tree).map (fun path => 0 :: path) ++
        (pathsForest trees).map shift

end

theorem leafAt_node (children : List (RoseTree label)) (path : List Nat) :
    leafAt path (.node children) = leafIn children path := by
  cases path <;> rfl

theorem leafIn_zero (tree : RoseTree label) (trees : List (RoseTree label))
    (path : List Nat) :
    leafIn (tree :: trees) (0 :: path) = leafAt path tree := rfl

theorem leafIn_shift (tree : RoseTree label) (trees : List (RoseTree label))
    (path : List Nat) :
    leafIn (tree :: trees) (shift path) = leafIn trees path := by
  cases path <;> rfl

/-!
## The paths lead to the leaves, in lexicographic order
-/

theorem shift_eq_succ_iff {path other : List Nat} {k : Nat} :
    shift other = (k + 1) :: path <-> other = k :: path := by
  cases other <;> simp [shift]

theorem shift_ne_zero_cons (path other : List Nat) :
    shift other ≠ 0 :: path := by
  cases other <;> simp [shift]

theorem shift_eq_nil_iff {other : List Nat} :
    shift other = [] <-> other = [] := by
  cases other <;> simp [shift]

theorem mem_pathsForest_cons_iff {tree : RoseTree label}
    {trees : List (RoseTree label)} {path : List Nat} :
    path ∈ pathsForest (tree :: trees) <->
      (exists first, first ∈ paths tree ∧ 0 :: first = path) ∨
        exists other, other ∈ pathsForest trees ∧ shift other = path := by
  show path ∈ (paths tree).map (fun path => 0 :: path) ++
    (pathsForest trees).map shift <-> _
  rw [List.mem_append, List.mem_map, List.mem_map]

mutual

theorem mem_paths_iff : forall (tree : RoseTree label) (path : List Nat),
    path ∈ paths tree <-> exists content, leafAt path tree = some content
  | .leaf content, [] => by simp [paths, leafAt]
  | .leaf content, k :: path => by simp [paths, leafAt]
  | .node children, path => by
      rw [leafAt_node]
      exact mem_pathsForest_iff children path

theorem mem_pathsForest_iff :
    forall (trees : List (RoseTree label)) (path : List Nat),
      path ∈ pathsForest trees <->
        exists content, leafIn trees path = some content
  | [], path => by cases path <;> simp [pathsForest, leafIn]
  | tree :: trees, [] => by
      have hrest := mem_pathsForest_iff trees []
      rw [mem_pathsForest_cons_iff]
      simp only [shift_eq_nil_iff, exists_eq_right, hrest]
      simp [leafIn]
  | tree :: trees, 0 :: path => by
      rw [mem_pathsForest_cons_iff, leafIn_zero, ← mem_paths_iff tree path]
      simp [shift_ne_zero_cons]
  | tree :: trees, (k + 1) :: path => by
      have hrest := mem_pathsForest_iff trees (k :: path)
      rw [mem_pathsForest_cons_iff]
      simp only [shift_eq_succ_iff, exists_eq_right, hrest]
      simp [leafIn]

end

theorem ne_nil_of_mem_pathsForest {trees : List (RoseTree label)}
    {path : List Nat} (h : path ∈ pathsForest trees) : path ≠ [] := by
  intro hnil
  rcases (mem_pathsForest_iff trees path).mp h with ⟨content, hleaf⟩
  rw [hnil] at hleaf
  cases hleaf

theorem zero_cons_lt_shift (path : List Nat) {other : List Nat}
    (h : other ≠ []) : 0 :: path < shift other := by
  cases other with
  | nil => exact absurd rfl h
  | cons k other => exact List.cons_lt_cons_iff.mpr (Or.inl (Nat.succ_pos k))

theorem shift_lt_shift {path other : List Nat} (h : path < other) :
    shift path < shift other := by
  cases path with
  | nil =>
      cases other with
      | nil => exact h
      | cons k other => exact List.nil_lt_cons _ _
  | cons j path =>
      cases other with
      | nil => exact absurd h (List.not_lt_nil _)
      | cons k other =>
          rcases List.cons_lt_cons_iff.mp h with hlt | ⟨heq, hlt⟩
          · exact List.cons_lt_cons_iff.mpr (Or.inl (Nat.succ_lt_succ hlt))
          · exact List.cons_lt_cons_iff.mpr (Or.inr ⟨by rw [heq], hlt⟩)

mutual

theorem paths_pairwise_lt : forall tree : RoseTree label,
    (paths tree).Pairwise (fun path other => path < other)
  | .leaf _ => List.pairwise_singleton _ _
  | .node children => pathsForest_pairwise_lt children

theorem pathsForest_pairwise_lt : forall trees : List (RoseTree label),
    (pathsForest trees).Pairwise (fun path other => path < other)
  | [] => List.Pairwise.nil
  | tree :: trees => by
      apply List.pairwise_append.mpr
      refine ⟨?_, ?_, ?_⟩
      · apply List.pairwise_map.mpr
        exact (paths_pairwise_lt tree).imp fun h =>
          List.cons_lt_cons_iff.mpr (Or.inr ⟨rfl, h⟩)
      · apply List.pairwise_map.mpr
        exact (pathsForest_pairwise_lt trees).imp shift_lt_shift
      · intro path hpath other hother
        rcases List.mem_map.mp hpath with ⟨first, _, rfl⟩
        rcases List.mem_map.mp hother with ⟨second, hsecond, rfl⟩
        exact zero_cons_lt_shift first (ne_nil_of_mem_pathsForest hsecond)

end

mutual

theorem forall₂_paths_fringe : forall tree : RoseTree label,
    List.Forall₂ (fun path content => leafAt path tree = some content)
      (paths tree) (fringe tree)
  | .leaf _ => List.Forall₂.cons rfl List.Forall₂.nil
  | .node children =>
      (forall₂_pathsForest_fringeForest children).imp
        fun path _ h => (leafAt_node children path).trans h

theorem forall₂_pathsForest_fringeForest :
    forall trees : List (RoseTree label),
      List.Forall₂ (fun path content => leafIn trees path = some content)
        (pathsForest trees) (fringeForest trees)
  | [] => List.Forall₂.nil
  | tree :: trees => by
      apply List.rel_append
      · exact List.forall₂_map_left_iff.mpr (forall₂_paths_fringe tree)
      · apply List.forall₂_map_left_iff.mpr
        exact (forall₂_pathsForest_fringeForest trees).imp
          fun path _ h => (leafIn_shift tree trees path).trans h

end

/-- The values stand for the leaves of the trees, one value for each leaf, from
left to right and depth first. -/
def InDepthFirstOrder (trees : List (RoseTree label))
    (R : label -> value -> Prop) (values : List value) : Prop :=
  exists order : List (List Nat),
    order.Pairwise (fun path other => path < other) ∧
      (forall path, path ∈ order <->
        exists content, leafIn trees path = some content) ∧
      List.Forall₂
        (fun path v => exists content,
          leafIn trees path = some content ∧ R content v)
        order values

theorem inDepthFirstOrder_of_fringe {trees : List (RoseTree label)}
    {R : label -> value -> Prop} {values : List value}
    (h : List.Forall₂ R (fringeForest trees) values) :
    InDepthFirstOrder trees R values :=
  ⟨pathsForest trees, pathsForest_pairwise_lt trees,
    mem_pathsForest_iff trees,
    forall₂_comp (forall₂_pathsForest_fringeForest trees) h⟩

end RoseTree

end Library
end OranE2
