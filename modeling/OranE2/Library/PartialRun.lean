import Mathlib.Data.List.Basic

/-!
# Runs of partial machines

A partial machine consumes one input per step and may leave its domain.  This
module collects the general rules for its runs: how runs compose, and how a run
follows an abstract machine that is total.
-/

namespace OranE2
namespace Library

namespace PartialRun

/-- Run a partial step over a list of inputs; `none` means that some step was
taken outside its domain. -/
def run (step : state -> input -> Option state) :
    state -> List input -> Option state
  | s, [] => some s
  | s, x :: xs =>
      match step s x with
      | none => none
      | some s' => run step s' xs

@[simp] theorem run_nil (step : state -> input -> Option state) (s : state) :
    run step s [] = some s := rfl

theorem run_cons (step : state -> input -> Option state) (s : state)
    (x : input) (xs : List input) :
    run step s (x :: xs) = (step s x).bind fun s' => run step s' xs := by
  cases hstep : step s x with
  | none => simp [run, hstep]
  | some s' => simp [run, hstep]

theorem run_cons_some {step : state -> input -> Option state} {s s' : state}
    {x : input} (h : step s x = some s') (xs : List input) :
    run step s (x :: xs) = run step s' xs := by
  rw [run_cons, h]
  rfl

theorem run_append (step : state -> input -> Option state) (s : state)
    (xs ys : List input) :
    run step s (xs ++ ys) = (run step s xs).bind fun s' => run step s' ys := by
  induction xs generalizing s with
  | nil => rfl
  | cons x xs ih =>
      rw [List.cons_append, run_cons, run_cons]
      cases hstep : step s x with
      | none => rfl
      | some s' => exact ih s'

theorem run_append_some {step : state -> input -> Option state}
    {s s' : state} {xs ys : List input}
    (h : run step s (xs ++ ys) = some s') :
    exists mid, run step s xs = some mid ∧ run step mid ys = some s' := by
  rw [run_append] at h
  exact Option.bind_eq_some_iff.mp h

theorem run_snoc (step : state -> input -> Option state) (s : state)
    (xs : List input) (x : input) :
    run step s (xs ++ [x]) = (run step s xs).bind fun s' => step s' x := by
  rw [run_append]
  congr 1
  funext mid
  rw [run_cons]
  cases step mid x <;> rfl

/-!
## Simulations

What one step preserves, a run preserves; the run stays inside the domain of
the step.
-/

theorem run_simulates {step : state -> input -> Option state}
    {abstractStep : abstract -> input -> abstract}
    {R : state -> abstract -> Prop} {xs : List input}
    (hstep : forall s a x, x ∈ xs -> R s a ->
      exists s', step s x = some s' ∧ R s' (abstractStep a x))
    {s : state} {a : abstract} (hinit : R s a) :
    exists s', run step s xs = some s' ∧ R s' (xs.foldl abstractStep a) := by
  induction xs generalizing s a with
  | nil => exact ⟨s, rfl, hinit⟩
  | cons x xs ih =>
      rcases hstep s a x List.mem_cons_self hinit with ⟨mid, hmid, hR⟩
      rw [run_cons_some hmid]
      exact ih (fun s a y hy => hstep s a y (List.mem_cons_of_mem x hy)) hR

theorem run_history {step : state -> input -> Option state}
    {R : state -> List input -> Prop} {xs : List input}
    (hstep : forall s history x, x ∈ xs -> R s history ->
      exists s', step s x = some s' ∧ R s' (history ++ [x]))
    {s : state} (hinit : R s []) :
    exists s', run step s xs = some s' ∧ R s' xs := by
  have hfold : xs.foldl (fun history x => history ++ [x]) [] = xs := by
    rw [List.foldl_append_eq_append, List.nil_append, ← List.flatMap_def,
      List.flatMap_singleton']
  rcases run_simulates hstep hinit with ⟨s', hrun, hR⟩
  rw [hfold] at hR
  exact ⟨s', hrun, hR⟩

theorem run_completes {step : state -> input -> Option state} {xs : List input}
    (hstep : forall s x, x ∈ xs -> exists s', step s x = some s')
    (s : state) : exists s', run step s xs = some s' := by
  have haccepted : forall s (history : List input) x, x ∈ xs -> True ->
      exists s', step s x = some s' ∧ True := by
    intro s history x hmem _
    rcases hstep s x hmem with ⟨s', hs'⟩
    exact ⟨s', hs', trivial⟩
  rcases run_history (R := fun _ _ => True) haccepted trivial with
    ⟨s', hrun, _⟩
  exact ⟨s', hrun⟩

theorem run_succeeds_iff {step : state -> input -> Option state}
    {I : state -> Prop} {Accepts : input -> Prop}
    (haccepts : forall s x, I s -> ((exists s', step s x = some s') <->
      Accepts x))
    (hkeeps : forall s x s', I s -> step s x = some s' -> I s')
    {s : state} (hinit : I s) (xs : List input) :
    (exists s', run step s xs = some s') <-> forall x, x ∈ xs -> Accepts x := by
  induction xs generalizing s with
  | nil =>
      constructor
      · intro _ x hx
        cases hx
      · intro _
        exact ⟨s, rfl⟩
  | cons x xs ih =>
      rw [List.forall_mem_cons, run_cons]
      constructor
      · intro h
        rcases h with ⟨s', hs'⟩
        rcases Option.bind_eq_some_iff.mp hs' with ⟨mid, hmid, hrest⟩
        exact ⟨(haccepts s x hinit).mp ⟨mid, hmid⟩,
          (ih (hkeeps s x mid hinit hmid)).mp ⟨s', hrest⟩⟩
      · intro h
        rcases (haccepts s x hinit).mpr h.left with ⟨mid, hmid⟩
        rw [hmid]
        exact (ih (hkeeps s x mid hinit hmid)).mpr h.right

/-- What every successful step preserves about the state and the inputs so far,
a successful run establishes about its inputs. -/
theorem run_traces {step : state -> input -> Option state}
    {R : state -> List input -> Prop}
    (hstep : forall s history x s', R s history -> step s x = some s' ->
      R s' (history ++ [x]))
    {s s' : state} {xs : List input} (hinit : R s [])
    (h : run step s xs = some s') : R s' xs := by
  have hgeneral : forall history, R s history -> R s' (history ++ xs) := by
    clear hinit
    induction xs generalizing s with
    | nil =>
        intro history hR
        cases h
        rw [List.append_nil]
        exact hR
    | cons x xs ih =>
        intro history hR
        rw [run_cons] at h
        rcases Option.bind_eq_some_iff.mp h with ⟨mid, hmid, hrest⟩
        have htail := ih hrest (history ++ [x]) (hstep s history x mid hR hmid)
        rw [List.append_assoc] at htail
        exact htail
  exact hgeneral [] hinit

theorem run_inputs {step : state -> input -> Option state}
    {I : state -> Prop} {P : input -> Prop}
    (hstep : forall s x s', I s -> step s x = some s' -> I s' ∧ P x)
    {s s' : state} {xs : List input} (hinit : I s)
    (h : run step s xs = some s') : I s' ∧ forall x, x ∈ xs -> P x := by
  refine run_traces
    (R := fun s history => I s ∧ forall x, x ∈ history -> P x) ?_ ?_ h
  · intro s history x s' hhistory hs'
    rcases hstep s x s' hhistory.left hs' with ⟨hinv, hx⟩
    exact ⟨hinv, List.forall_mem_append.mpr
      ⟨hhistory.right, List.forall_mem_singleton.mpr hx⟩⟩
  · exact ⟨hinit, fun _ hmem => absurd hmem List.not_mem_nil⟩

theorem rel_imp {R S : value -> value' -> Prop} {x : Option value}
    {y : Option value'} (h : Option.Rel R x y)
    (himp : forall a b, x = some a -> y = some b -> R a b -> S a b) :
    Option.Rel S x y := by
  cases h with
  | none => exact Option.Rel.none
  | some hR => exact Option.Rel.some (himp _ _ rfl rfl hR)

/-- Two machines that leave their domains together and stay related otherwise
do so over whole runs. -/
theorem run_related {step : state -> input -> Option state}
    {step' : state' -> input -> Option state'} {R : state -> state' -> Prop}
    (hstep : forall s t x, R s t -> Option.Rel R (step s x) (step' t x))
    {s : state} {t : state'} (hinit : R s t) (xs : List input) :
    Option.Rel R (run step s xs) (run step' t xs) := by
  induction xs generalizing s t with
  | nil => exact Option.Rel.some hinit
  | cons x xs ih =>
      have hx := hstep s t x hinit
      rw [run_cons, run_cons]
      cases hs : step s x with
      | none =>
          rw [hs] at hx
          cases ht : step' t x with
          | none => exact Option.Rel.none
          | some t' =>
              rw [ht] at hx
              cases hx
      | some s' =>
          rw [hs] at hx
          cases ht : step' t x with
          | none =>
              rw [ht] at hx
              cases hx
          | some t' =>
              rw [ht] at hx
              cases hx with
              | some hR => exact ih hR

end PartialRun

end Library
end OranE2
