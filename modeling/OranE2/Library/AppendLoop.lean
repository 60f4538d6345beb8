import Mathlib.Data.List.Forall2
import Mathlib.Data.List.Perm.Basic

/-!
# Loops that append or stop

A loop that builds one result for each item and appends it to those already
built, unless building one fails and stops the loop.
-/

namespace OranE2
namespace Library

def appendLoop (build : item -> Except fault result) :
    List result -> List item -> Except fault (List result)
  | done, [] => .ok done
  | done, x :: xs =>
      match build x with
      | .error e => .error e
      | .ok y => appendLoop build (done ++ [y]) xs

def collect (build : item -> Except fault result) (xs : List item) :
    Except fault (List result) :=
  appendLoop build [] xs

/-!
## Results built from one another
-/

theorem map_eq_ok_iff {f : result -> value} {e : Except fault result}
    {z : value} : e.map f = .ok z <-> exists y, e = .ok y ∧ f y = z := by
  cases e with
  | error a =>
      constructor
      · intro h
        cases h
      · intro hall
        rcases hall with ⟨y, h, _⟩
        cases h
  | ok y =>
      constructor
      · intro h
        exact ⟨y, rfl, Except.ok.inj h⟩
      · intro hall
        rcases hall with ⟨y', h, rfl⟩
        cases h
        rfl

theorem exists_map_error_iff {f : result -> value} {e : Except fault result} :
    (exists a, e.map f = .error a) <-> exists a, e = .error a := by
  cases e with
  | error a => exact ⟨fun _ => ⟨a, rfl⟩, fun _ => ⟨a, rfl⟩⟩
  | ok y =>
      constructor
      · intro hall
        rcases hall with ⟨a, h⟩
        cases h
      · intro hall
        rcases hall with ⟨a, h⟩
        cases h

theorem exists_ok_of_not_error {e : Except fault result}
    (h : ¬ exists a, e = .error a) : exists y, e = .ok y := by
  cases e with
  | error a => exact absurd ⟨a, rfl⟩ h
  | ok y => exact ⟨y, rfl⟩

theorem map_injective {f : result -> value} (hf : Function.Injective f) :
    Function.Injective (Except.map f : Except fault result -> Except fault value) := by
  intro e e' h
  cases e with
  | error a =>
      cases e' with
      | error a' =>
          cases h
          rfl
      | ok y' => cases h
  | ok y =>
      cases e' with
      | error a' => cases h
      | ok y' => rw [hf (Except.ok.inj h)]

/-!
## The loop
-/

section

variable {build : item -> Except fault result}

theorem appendLoop_eq (done : List result) (xs : List item) :
    appendLoop build done xs =
      (collect build xs).map fun ys => done ++ ys := by
  unfold collect
  induction xs generalizing done with
  | nil =>
      show Except.ok done = Except.ok (done ++ [])
      rw [List.append_nil]
  | cons x xs ih =>
      unfold appendLoop
      cases build x with
      | error e => rfl
      | ok y =>
          show appendLoop build (done ++ [y]) xs =
            Except.map _ (appendLoop build ([] ++ [y]) xs)
          rw [ih, ih ([] ++ [y])]
          cases appendLoop build [] xs with
          | error e => rfl
          | ok ys =>
              show Except.ok ((done ++ [y]) ++ ys) =
                Except.ok (done ++ ([y] ++ ys))
              rw [List.append_assoc]

@[simp] theorem collect_nil : collect build [] = .ok [] := by
  rfl

theorem collect_cons_error {x : item} {e : fault} (h : build x = .error e)
    (xs : List item) : collect build (x :: xs) = .error e := by
  unfold collect appendLoop
  rw [h]

theorem collect_cons_ok {x : item} {y : result} (h : build x = .ok y)
    (xs : List item) :
    collect build (x :: xs) = (collect build xs).map fun ys => y :: ys := by
  rw [show collect build (x :: xs) = appendLoop build [y] xs by
    show appendLoop build [] (x :: xs) = appendLoop build [y] xs
    rw [appendLoop, h]
    rfl]
  exact appendLoop_eq [y] xs

/-- A loop that runs to its end has built exactly one result for each item, in
order. -/
theorem collect_eq_ok_iff {xs : List item} {ys : List result} :
    collect build xs = .ok ys <->
      List.Forall₂ (fun x y => build x = .ok y) xs ys := by
  induction xs generalizing ys with
  | nil =>
      rw [collect_nil, List.forall₂_nil_left_iff]
      constructor
      · intro h
        exact (Except.ok.inj h).symm
      · intro h
        rw [h]
  | cons x xs ih =>
      cases hx : build x with
      | error e =>
          rw [collect_cons_error hx, List.forall₂_cons_left_iff]
          simp [hx]
      | ok y =>
          rw [collect_cons_ok hx, List.forall₂_cons_left_iff]
          cases hxs : collect build xs with
          | error e =>
              constructor
              · intro h
                cases h
              · intro hall
                rcases hall with ⟨_, ys', _, hrest, _⟩
                rw [ih.mpr hrest] at hxs
                cases hxs
          | ok zs =>
              constructor
              · intro h
                cases h
                exact ⟨y, zs, hx, ih.mp hxs, rfl⟩
              · intro hall
                rcases hall with ⟨y', ys', hy', hrest, rfl⟩
                rw [hx] at hy'
                rw [ih.mpr hrest] at hxs
                cases hy'
                cases hxs
                rfl

theorem map_of_collect {observe : result -> value} {f : item -> value}
    {xs : List item} {ys : List result}
    (hbuild : forall x y, build x = .ok y -> observe y = f x)
    (h : collect build xs = .ok ys) : ys.map observe = xs.map f := by
  have hall := (collect_eq_ok_iff.mp h).imp fun x y hxy =>
    (hbuild x y hxy).symm
  apply Eq.symm
  rw [← List.forall₂_eq_eq_eq, List.forall₂_map_left_iff,
    List.forall₂_map_right_iff]
  exact hall

theorem collect_eq_ok_map {f : item -> result} {xs : List item}
    (h : forall x, x ∈ xs -> build x = .ok (f x)) :
    collect build xs = .ok (xs.map f) := by
  apply collect_eq_ok_iff.mpr
  rw [List.forall₂_map_right_iff, List.forall₂_same]
  exact h

theorem map_some_of_collect {xs : List item} {ys : List result}
    (h : collect build xs = .ok ys) :
    ys.map some = xs.map fun x => (build x).toOption := by
  apply map_of_collect _ h
  intro x y hxy
  rw [hxy]
  rfl

theorem map_some_injective : Function.Injective (List.map (some (α := value))) :=
  List.map_injective_iff.mpr fun _ _ h => Option.some.inj h

theorem collect_perm {xs xs' : List item} {ys ys' : List result}
    (hperm : xs.Perm xs') (h : collect build xs = .ok ys)
    (h' : collect build xs' = .ok ys') : ys.Perm ys' := by
  have hinjective : Function.Injective (some : result -> Option result) :=
    fun _ _ h => Option.some.inj h
  apply (List.map_perm_map_iff hinjective).mp
  rw [map_some_of_collect h, map_some_of_collect h']
  exact hperm.map _

theorem collect_map {build' : item' -> Except fault result'}
    {g : item -> item'} {k : result -> result'}
    (hbuild : forall x, build' (g x) = (build x).map k) (xs : List item) :
    collect build' (xs.map g) = (collect build xs).map (List.map k) := by
  induction xs with
  | nil => rfl
  | cons x xs ih =>
      rw [List.map_cons]
      cases hx : build x with
      | error e =>
          have hgx : build' (g x) = .error e := by
            rw [hbuild, hx]
            rfl
          rw [collect_cons_error hx, collect_cons_error hgx]
          rfl
      | ok y =>
          have hgx : build' (g x) = .ok (k y) := by
            rw [hbuild, hx]
            rfl
          rw [collect_cons_ok hx, collect_cons_ok hgx, ih]
          cases collect build xs <;> rfl

theorem exists_collect_error_iff {xs : List item} :
    (exists e, collect build xs = .error e) <->
      exists x, x ∈ xs ∧ exists e, build x = .error e := by
  induction xs with
  | nil =>
      constructor
      · intro hall
        rcases hall with ⟨e, h⟩
        cases h
      · intro hall
        rcases hall with ⟨x, hx, _⟩
        cases hx
  | cons x xs ih =>
      cases hx : build x with
      | error e =>
          rw [collect_cons_error hx]
          exact ⟨fun _ => ⟨x, List.mem_cons_self, e, hx⟩, fun _ => ⟨e, rfl⟩⟩
      | ok y =>
          rw [collect_cons_ok hx]
          constructor
          · intro hall
            rcases hall with ⟨e, he⟩
            rcases ih.mp (exists_map_error_iff.mp ⟨e, he⟩)
              with ⟨z, hz, herror⟩
            exact ⟨z, List.mem_cons_of_mem x hz, herror⟩
          · intro hall
            rcases hall with ⟨z, hz, e, herror⟩
            rcases List.mem_cons.mp hz with rfl | hmem
            · rw [hx] at herror
              cases herror
            · rcases ih.mpr ⟨z, hmem, e, herror⟩ with ⟨e', he'⟩
              exact ⟨e', by rw [he']; rfl⟩

theorem exists_collect_ok {xs : List item}
    (h : forall x, x ∈ xs -> exists y, build x = .ok y) :
    exists ys, collect build xs = .ok ys := by
  cases hcollect : collect build xs with
  | ok ys => exact ⟨ys, rfl⟩
  | error e =>
      rcases exists_collect_error_iff.mp ⟨e, hcollect⟩ with ⟨x, hx, a, ha⟩
      rcases h x hx with ⟨y, hy⟩
      rw [hy] at ha
      cases ha

/-!
## Reordered results
-/

/-- The entries of one list are related to those of the other in some order. -/
def Reorders (R : result -> result' -> Prop) (ys : List result)
    (ys' : List result') : Prop :=
  exists zs, ys.Perm zs ∧ List.Forall₂ R zs ys'

theorem forall₂_results {build' : item -> Except fault result'}
    {R : result -> result' -> Prop} {xs : List item} {ys : List result}
    {ys' : List result'}
    (hR : forall x y y', build x = .ok y -> build' x = .ok y' -> R y y')
    (h : List.Forall₂ (fun x y => build x = .ok y) xs ys)
    (h' : List.Forall₂ (fun x y => build' x = .ok y) xs ys') :
    List.Forall₂ R ys ys' := by
  induction h generalizing ys' with
  | nil =>
      cases h'
      exact List.Forall₂.nil
  | cons hx _ ih =>
      cases h' with
      | cons hx' hrest' =>
          exact List.Forall₂.cons (hR _ _ _ hx hx') (ih hrest')

theorem reorders_of_collect {build' : item -> Except fault result'}
    {R : result -> result' -> Prop} {xs xs' : List item} {ys : List result}
    {ys' : List result'} (hperm : xs.Perm xs')
    (hR : forall x y y', build x = .ok y -> build' x = .ok y' -> R y y')
    (h : collect build xs = .ok ys) (h' : collect build' xs' = .ok ys') :
    Reorders R ys ys' := by
  cases hzs : collect build xs' with
  | error e =>
      rcases exists_collect_error_iff.mp ⟨e, hzs⟩ with ⟨x, hx, herror⟩
      rcases exists_collect_error_iff.mpr ⟨x, hperm.mem_iff.mpr hx, herror⟩
        with ⟨a, ha⟩
      rw [ha] at h
      cases h
  | ok zs =>
      exact ⟨zs, collect_perm hperm h hzs,
        forall₂_results hR (collect_eq_ok_iff.mp hzs)
          (collect_eq_ok_iff.mp h')⟩

end

theorem exists_right_of_forall₂ {R : item -> entry -> Prop} {xs : List item}
    {ys : List entry} (h : List.Forall₂ R xs ys) {x : item} (hx : x ∈ xs) :
    exists y, y ∈ ys ∧ R x y := by
  induction h with
  | nil => cases hx
  | cons hxy _ ih =>
      rcases List.mem_cons.mp hx with rfl | hx
      · exact ⟨_, List.mem_cons_self, hxy⟩
      · rcases ih hx with ⟨y, hy, hrel⟩
        exact ⟨y, List.mem_cons_of_mem _ hy, hrel⟩

theorem exists_left_of_forall₂ {R : item -> entry -> Prop} {xs : List item}
    {ys : List entry} (h : List.Forall₂ R xs ys) {y : entry} (hy : y ∈ ys) :
    exists x, x ∈ xs ∧ R x y :=
  exists_right_of_forall₂ h.flip hy

theorem forall₂_comp {R : first -> second -> Prop} {S : second -> third -> Prop}
    {xs : List first} {ys : List second} {zs : List third}
    (h : List.Forall₂ R xs ys) (h' : List.Forall₂ S ys zs) :
    List.Forall₂ (fun x z => exists y, R x y ∧ S y z) xs zs := by
  induction h generalizing zs with
  | nil =>
      cases h'
      exact List.Forall₂.nil
  | cons hxy _ ih =>
      cases h' with
      | cons hyz htail => exact List.Forall₂.cons ⟨_, hxy, hyz⟩ (ih htail)

end Library
end OranE2
