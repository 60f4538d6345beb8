import OranE2.L3Rrc.Sharing

/-!
# Lifetime of the structures handed out

A structure whose pointer was handed out may be freed by its object.  This
module determines, for every sequence of calls, which structures have been
freed and when all pointers handed out still lead somewhere.
-/

namespace OranE2
namespace L3Rrc

open Library
open PartialRun

namespace ObjectCall

def creates (w : Nat) : ObjectCall -> Bool
  | .newNr w' _ => w' = w
  | _ => false

def pointer? : ObjectCall -> Option Nat
  | .getPointer w => some w
  | _ => none

def copy? : ObjectCall -> Option Nat
  | .getValue w => some w
  | _ => none

end ObjectCall

namespace Objects

theorem results_exist_step (w : Nat) {s s' : Objects} {call : ObjectCall}
    (h : s.step call = some s') :
    (s'.results.contents w).isSome =
      (call.creates w || (s.results.contents w).isSome) := by
  cases steps_of_step h with
  | newNr halloc hobject =>
      rename_i w' physCellId results shouldFree
      show (results.contents w).isSome = _
      rw [Heap.contents_alloc halloc]
      by_cases hw : w' = w
      · simp [ObjectCall.creates, hw]
      · simp [ObjectCall.creates, hw]
  | addPhyCellId hmodify => exact Heap.isSome_modify hmodify w
  | addCellResults hread hmodify => exact Heap.isSome_modify hmodify w
  | destroyFreed hread hobject hfree =>
      exact congrArg (fun contents => (contents w).isSome)
        (Heap.contents_free hfree)
  | _ => rfl

theorem objects_exist_step (w : Nat) {s s' : Objects} {call : ObjectCall}
    (h : s.step call = some s') :
    (s'.shouldFree.contents w).isSome =
      (call.creates w || (s.shouldFree.contents w).isSome) := by
  cases steps_of_step h with
  | newNr halloc hobject =>
      rename_i w' physCellId results shouldFree
      show (shouldFree.contents w).isSome = _
      rw [Heap.contents_alloc hobject]
      by_cases hw : w' = w
      · simp [ObjectCall.creates, hw]
      · simp [ObjectCall.creates, hw]
  | getPointer hmodify => exact Heap.isSome_modify hmodify w
  | getValue hmodify hread => exact Heap.isSome_modify hmodify w
  | destroyKept hread hobject =>
      exact congrArg (fun contents => (contents w).isSome)
        (Heap.contents_free hobject)
  | destroyFreed hread hobject hfree =>
      exact congrArg (fun contents => (contents w).isSome)
        (Heap.contents_free hobject)
  | _ => rfl

/-- What an object handed out last, when it was destroyed, made it free its
structure. -/
def FreedIn (calls : List ObjectCall) (w : Nat) : Prop :=
  exists pre post, calls = pre ++ .destroy w :: post ∧
    lastWrite (ObjectCall.handOut w) false pre = true

theorem freedIn_snoc (calls : List ObjectCall) (call : ObjectCall) (w : Nat) :
    FreedIn (calls ++ [call]) w <->
      FreedIn calls w ∨ call = .destroy w ∧
        lastWrite (ObjectCall.handOut w) false calls = true := by
  constructor
  · intro h
    rcases h with ⟨pre, post, hsplit, hlast⟩
    rcases List.eq_nil_or_concat post with rfl | ⟨post, last, rfl⟩
    · rcases List.append_inj' hsplit rfl with ⟨rfl, hcall⟩
      exact Or.inr ⟨(List.cons.inj hcall).left, hlast⟩
    · rw [List.concat_eq_append, ← List.cons_append, ← List.append_assoc]
        at hsplit
      exact Or.inl ⟨pre, post, (List.append_inj' hsplit rfl).left, hlast⟩
  · intro h
    rcases h with ⟨pre, post, rfl, hlast⟩ | ⟨rfl, hlast⟩
    · exact ⟨pre, post ++ [call], by simp, hlast⟩
    · exact ⟨calls, [], rfl, hlast⟩

theorem freed_step {calls : List ObjectCall} {s s' : Objects}
    {call : ObjectCall}
    (hflag : forall w, (s.shouldFree.contents w).getD false =
      lastWrite (ObjectCall.handOut w) false calls)
    (hfreed : forall w, w ∈ s.results.freed <-> FreedIn calls w)
    (h : s.step call = some s') (w : Nat) :
    w ∈ s'.results.freed <-> FreedIn (calls ++ [call]) w := by
  rw [freedIn_snoc, ← hfreed w]
  cases steps_of_step h with
  | newNr halloc hobject =>
      rename_i w' physCellId results shouldFree
      show w ∈ results.freed <-> _
      rw [Heap.freed_alloc halloc]
      simp
  | addPhyCellId hmodify =>
      rename_i w' physCellId results
      show w ∈ results.freed <-> _
      rw [Heap.freed_modify hmodify]
      simp
  | addCellResults hread hmodify =>
      rename_i q value w' cell results
      show w ∈ results.freed <-> _
      rw [Heap.freed_modify hmodify]
      simp
  | destroyKept hread hobject =>
      rename_i w' shouldFree
      have hkept := hflag w'
      rw [(Heap.read_eq_some_iff.mp hread).right] at hkept
      constructor
      · exact Or.inl
      · intro hor
        rcases hor with hmem | ⟨heq, hlast⟩
        · exact hmem
        · cases heq
          rw [← hkept] at hlast
          cases hlast
  | destroyFreed hread hobject hfree =>
      rename_i w' shouldFree results
      have hlast := hflag w'
      rw [(Heap.read_eq_some_iff.mp hread).right] at hlast
      show w ∈ results.freed <-> _
      rw [Heap.freed_free hfree, List.mem_cons]
      constructor
      · intro hor
        rcases hor with rfl | hmem
        · exact Or.inr ⟨rfl, hlast.symm⟩
        · exact Or.inl hmem
      · intro hor
        rcases hor with hmem | ⟨heq, _⟩
        · exact Or.inr hmem
        · cases heq
          exact Or.inl rfl
  | _ => simp [setQuantities]

section

variable {calls : List ObjectCall} {s : Objects}

theorem freed_run (h : afterCalls calls = some s) (w : Nat) :
    w ∈ s.results.freed <-> FreedIn calls w := by
  have hall : (forall w, (s.shouldFree.contents w).getD false =
        lastWrite (ObjectCall.handOut w) false calls) ∧
      forall w, w ∈ s.results.freed <-> FreedIn calls w := by
    refine run_traces (R := fun (s : Objects) calls =>
      (forall w, (s.shouldFree.contents w).getD false =
        lastWrite (ObjectCall.handOut w) false calls) ∧
      forall w, w ∈ s.results.freed <-> FreedIn calls w) ?_ ?_ h
    · intro s calls call s' hall hstep
      refine ⟨?_, freed_step hall.left hall.right hstep⟩
      intro w
      rw [shouldFree_step w s call s' hstep, hall.left w, lastWrite_append]
      exact (lastWrite_cons (ObjectCall.handOut w) _ call []).symm
    · refine ⟨fun _ => rfl, ?_⟩
      intro w
      constructor
      · intro hmem
        cases hmem
      · intro hfreed
        rcases hfreed with ⟨pre, post, hsplit, _⟩
        exact absurd hsplit.symm
          (List.append_ne_nil_of_right_ne_nil pre (List.cons_ne_nil _ _))
  exact hall.right w

theorem pointers_step {s s' : Objects} {call : ObjectCall}
    (h : s.step call = some s') :
    s'.pointers = s.pointers ++ call.pointer?.toList := by
  cases steps_of_step h with
  | getPointer hmodify => rfl
  | _ => exact (List.append_nil _).symm

theorem pointers_run (h : afterCalls calls = some s) :
    s.pointers = calls.filterMap ObjectCall.pointer? := by
  refine run_traces (R := fun (s : Objects) calls =>
    s.pointers = calls.filterMap ObjectCall.pointer?) ?_ rfl h
  intro s calls call s' hpointers hstep
  rw [pointers_step hstep, hpointers, List.filterMap_append]
  cases call <;> rfl

theorem exist_run (h : afterCalls calls = some s) (w : Nat) :
    (s.results.contents w).isSome = (s.shouldFree.contents w).isSome := by
  refine run_traces (R := fun (s : Objects) _ =>
    (s.results.contents w).isSome = (s.shouldFree.contents w).isSome)
    ?_ rfl h
  intro s _ call s' hsame hstep
  rw [results_exist_step w hstep, objects_exist_step w hstep, hsame]

theorem exists_of_pointer (h : afterCalls calls = some s) {w : Nat}
    (hmem : w ∈ s.pointers) : (s.results.contents w).isSome := by
  rw [exist_run h w]
  have hall : forall w, w ∈ s.pointers ->
      (s.shouldFree.contents w).isSome := by
    refine run_traces (R := fun (s : Objects) _ =>
      forall w, w ∈ s.pointers -> (s.shouldFree.contents w).isSome) ?_ ?_ h
    · intro s _ call s' hhanded hstep w hmem
      rw [objects_exist_step w hstep]
      cases steps_of_step hstep with
      | getPointer hmodify =>
          rcases List.mem_append.mp hmem with hold | hnew
          · simp [hhanded w hold]
          · rcases Heap.modify_eq_some_iff.mp hmodify with ⟨x, hread, _⟩
            rw [List.mem_singleton.mp hnew,
              (Heap.read_eq_some_iff.mp hread).right]
            simp
      | _ => simp [hhanded w hmem]
    · intro w hmem
      cases hmem
  exact hall w hmem

/-- No object that ever handed out its pointer was destroyed after a copy was
handed out last. -/
def PointersKept (calls : List ObjectCall) : Prop :=
  forall w, .getPointer w ∈ calls -> ¬ FreedIn calls w

theorem mem_pointers_iff (h : afterCalls calls = some s) (w : Nat) :
    w ∈ s.pointers <-> .getPointer w ∈ calls := by
  rw [pointers_run h, List.mem_filterMap]
  constructor
  · intro hmem
    rcases hmem with ⟨call, hcall, hw⟩
    cases call with
    | getPointer w' =>
        cases hw
        exact hcall
    | _ => cases hw
  · intro hmem
    exact ⟨.getPointer w, hmem, rfl⟩

theorem readPointer_ne_none_iff (h : afterCalls calls = some s) {w : Nat}
    (hmem : w ∈ s.pointers) :
    s.readPointer w ≠ none <-> ¬ FreedIn calls w := by
  rcases Option.isSome_iff_exists.mp (exists_of_pointer h hmem) with
    ⟨block, hblock⟩
  rw [← freed_run h w]
  unfold readPointer Heap.read
  by_cases hfreed : w ∈ s.results.freed
  · simp [hfreed]
  · simp [hfreed, hblock]

theorem pointers_lead_somewhere_iff (h : afterCalls calls = some s) :
    (forall w, w ∈ s.pointers -> s.readPointer w ≠ none) <->
      PointersKept calls := by
  constructor
  · intro hall w hw
    have hmem := (mem_pointers_iff h w).mpr hw
    exact (readPointer_ne_none_iff h hmem).mp (hall w hmem)
  · intro hkept w hmem
    exact (readPointer_ne_none_iff h hmem).mpr
      (hkept w ((mem_pointers_iff h w).mp hmem))

end

end Objects

def copyThenPointer : List ObjectCall :=
  [.newNr 0 (some 1), .getValue 0, .getPointer 0, .destroy 0]

theorem copyThenPointer_kept :
    exists s, Objects.afterCalls copyThenPointer = some s ∧
      ((forall w, w ∈ s.pointers -> s.readPointer w ≠ none) <->
        Objects.PointersKept copyThenPointer) := by
  have hruns : (Objects.afterCalls copyThenPointer).isSome = true := by
    decide
  rcases Option.isSome_iff_exists.mp hruns with ⟨s, hs⟩
  exact ⟨s, hs, Objects.pointers_lead_somewhere_iff hs⟩

end L3Rrc
end OranE2
