import Mathlib.Data.List.Lattice
import Mathlib.Data.List.Nodup
import OranE2.Library.PartialRun

/-!
# Rounds that release what they use

A round uses some structures and then releases each of them.  A structure that
has been released must not be used or released again, and nothing allocates it
anew.
-/

namespace OranE2
namespace Library

open PartialRun

def Live (released use : List object) : Prop :=
  forall x, x ∈ use -> x ∉ released

theorem live_cons_iff {released use : List object} {x : object} :
    Live released (x :: use) <-> x ∉ released ∧ Live released use :=
  List.forall_mem_cons

theorem live_snoc_iff {released use : List object} {x : object} :
    Live (released ++ [x]) use <-> Live released use ∧ x ∉ use := by
  constructor
  · intro h
    constructor
    · intro y hy hmem
      exact h y hy (List.mem_append_left _ hmem)
    · intro hmem
      exact h x hmem (List.mem_append_right _ List.mem_cons_self)
  · intro hall y hy hmem
    rcases List.mem_append.mp hmem with hmem | hmem
    · exact hall.left y hy hmem
    · rw [List.mem_singleton.mp hmem] at hy
      exact hall.right hy

section

variable [DecidableEq object]

instance (released use : List object) : Decidable (Live released use) :=
  inferInstanceAs (Decidable (forall x, x ∈ use -> x ∉ released))

def release (released : List object) (x : object) : Option (List object) :=
  if x ∈ released then none else some (released ++ [x])

/-- Release structures one after the other; `none` is the second release of
one of them. -/
def releaseAll (released use : List object) : Option (List object) :=
  run release released use

theorem releaseAll_eq_some_iff {released released' use : List object} :
    releaseAll released use = some released' <->
      Live released use ∧ use.Nodup ∧ released' = released ++ use := by
  unfold releaseAll
  induction use generalizing released with
  | nil =>
      rw [run_nil, List.append_nil]
      constructor
      · intro h
        cases h
        exact ⟨fun x hx => absurd hx List.not_mem_nil, List.nodup_nil, rfl⟩
      · intro hall
        rcases hall with ⟨_, _, rfl⟩
        rfl
  | cons x rest ih =>
      rw [run_cons, live_cons_iff, List.nodup_cons]
      by_cases hx : x ∈ released
      · have hstep : release released x = none := if_pos hx
        rw [hstep]
        constructor
        · intro h
          cases h
        · intro hall
          exact absurd hx hall.left.left
      · have hstep : release released x = some (released ++ [x]) := if_neg hx
        rw [hstep, Option.bind_some, ih, live_snoc_iff, List.append_assoc,
          List.singleton_append]
        constructor
        · intro hall
          rcases hall with ⟨⟨hlive, hfresh⟩, hnodup, hreleased⟩
          exact ⟨⟨hx, hlive⟩, ⟨hfresh, hnodup⟩, hreleased⟩
        · intro hall
          rcases hall with ⟨⟨_, hlive⟩, ⟨hfresh, hnodup⟩, hreleased⟩
          exact ⟨⟨hlive, hfresh⟩, hnodup, hreleased⟩

def rounds (use : Nat -> List object) (n : Nat) : Option (List object) :=
  run (fun released k => releaseAll released (use k)) [] (List.range n)

theorem rounds_succ (use : Nat -> List object) (n : Nat) :
    rounds use (n + 1) =
      (rounds use n).bind fun released => releaseAll released (use n) := by
  unfold rounds
  rw [List.range_succ, run_snoc]

theorem released_of_rounds {use : Nat -> List object} {n : Nat}
    {released : List object} (h : rounds use n = some released) :
    released = (List.range n).flatMap use := by
  induction n generalizing released with
  | zero =>
      cases h
      rfl
  | succ n ih =>
      rw [rounds_succ] at h
      rcases Option.bind_eq_some_iff.mp h with ⟨mid, hmid, hlast⟩
      rw [(releaseAll_eq_some_iff.mp hlast).right.right, ih hmid,
        List.range_succ, List.flatMap_append, List.flatMap_singleton]

/-- All rounds succeed exactly when no round uses a structure twice and no two
rounds use the same one. -/
theorem rounds_succeed_iff (use : Nat -> List object) :
    (forall n, rounds use n ≠ none) <->
      (forall k, (use k).Nodup) ∧
        forall j k, j < k -> Live (use j) (use k) := by
  constructor
  · intro h
    have hround : forall k, Live ((List.range k).flatMap use) (use k) ∧
        (use k).Nodup := by
      intro k
      rcases Option.ne_none_iff_exists'.mp (h (k + 1)) with ⟨released, hk⟩
      rw [rounds_succ] at hk
      rcases Option.bind_eq_some_iff.mp hk with ⟨mid, hmid, hlast⟩
      rcases releaseAll_eq_some_iff.mp hlast with ⟨hlive, hnodup, _⟩
      rw [released_of_rounds hmid] at hlive
      exact ⟨hlive, hnodup⟩
    refine ⟨fun k => (hround k).right, ?_⟩
    intro j k hjk x hx hmem
    exact (hround k).left x hx
      (List.mem_flatMap.mpr ⟨j, List.mem_range.mpr hjk, hmem⟩)
  · intro hall n
    rcases hall with ⟨hnodup, hlive⟩
    induction n with
    | zero => exact Option.some_ne_none _
    | succ n ih =>
        rcases Option.ne_none_iff_exists'.mp ih with ⟨released, hn⟩
        rw [rounds_succ, hn, Option.bind_some]
        have hfresh : Live released (use n) := by
          rw [released_of_rounds hn]
          intro x hx hmem
          rcases List.mem_flatMap.mp hmem with ⟨j, hj, hxj⟩
          exact hlive j n (List.mem_range.mp hj) x hx hxj
        rw [releaseAll_eq_some_iff.mpr ⟨hfresh, hnodup n, rfl⟩]
        exact Option.some_ne_none _

end

end Library
end OranE2
