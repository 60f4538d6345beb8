import Mathlib.Data.List.Sort
import Mathlib.Logic.Equiv.Basic

/-!
# Sets of references

A reference names an object; where the object lies is decided by an assignment
of addresses to names.  A set of references holds each name once and is walked
through in the order of the addresses.
-/

namespace OranE2
namespace Library

structure Ref (item : Type) where
  id : Nat
  object : item
  deriving DecidableEq, Repr

structure RefSet (item : Type) where
  refs : List (Ref item)
  nodup : (refs.map Ref.id).Nodup

namespace RefSet

def empty : RefSet item where
  refs := []
  nodup := List.nodup_nil

/-- Insert a reference unless the set already holds its name. -/
def insert (s : RefSet item) (r : Ref item) : RefSet item :=
  if h : r.id ∈ s.refs.map Ref.id then
    s
  else
    { refs := s.refs ++ [r]
      nodup := by
        rw [List.map_append, List.map_singleton]
        exact List.nodup_append.mpr
          ⟨s.nodup, List.nodup_singleton _, by
            intro i hi j hj hij
            rw [List.mem_singleton.mp hj] at hij
            exact h (hij ▸ hi)⟩ }

def freshId : List (Ref item) -> Nat
  | [] => 0
  | r :: rest => max (r.id + 1) (freshId rest)

def insertNew (s : RefSet item) (x : item) : RefSet item :=
  s.insert { id := freshId s.refs, object := x }

def objects (s : RefSet item) : List item :=
  s.refs.map Ref.object

/-- The objects in the order in which an iteration reaches them. -/
def iterate (address : Nat -> Nat) (s : RefSet item) : List item :=
  (s.refs.insertionSort fun r r' => address r.id ≤ address r'.id).map
    Ref.object

theorem lt_freshId {refs : List (Ref item)} {r : Ref item} (h : r ∈ refs) :
    r.id < freshId refs := by
  induction refs with
  | nil => cases h
  | cons q rest ih =>
      show r.id < max (q.id + 1) (freshId rest)
      rcases List.mem_cons.mp h with rfl | hrest
      · exact Nat.lt_of_lt_of_le (Nat.lt_succ_self _) (Nat.le_max_left _ _)
      · exact Nat.lt_of_lt_of_le (ih hrest) (Nat.le_max_right _ _)

theorem refs_insertNew (s : RefSet item) (x : item) :
    (s.insertNew x).refs =
      s.refs ++ [{ id := freshId s.refs, object := x }] := by
  have hfresh : freshId s.refs ∉ s.refs.map Ref.id := by
    intro hmem
    rcases List.mem_map.mp hmem with ⟨r, hr, hid⟩
    exact absurd hid (Nat.ne_of_lt (lt_freshId hr))
  unfold insertNew insert
  rw [dif_neg hfresh]

theorem objects_insertNew (s : RefSet item) (x : item) :
    (s.insertNew x).objects = s.objects ++ [x] := by
  unfold objects
  rw [refs_insertNew, List.map_append]
  rfl

def insertAll (s : RefSet item) (rs : List (Ref item)) : RefSet item :=
  rs.foldl insert s

/-- References of one name are references to one object. -/
def Coherent (rs : List (Ref item)) : Prop :=
  forall r, r ∈ rs -> forall q, q ∈ rs -> r.id = q.id -> r = q

theorem refs_insert_of_mem {s : RefSet item} {r : Ref item}
    (h : r.id ∈ s.refs.map Ref.id) : s.insert r = s := by
  unfold insert
  exact dif_pos h

theorem refs_insert_of_not_mem {s : RefSet item} {r : Ref item}
    (h : r.id ∉ s.refs.map Ref.id) : (s.insert r).refs = s.refs ++ [r] := by
  unfold insert
  rw [dif_neg h]

theorem mem_refs_insertAll {s : RefSet item} {rs : List (Ref item)}
    (h : Coherent (s.refs ++ rs)) {r : Ref item} :
    r ∈ (s.insertAll rs).refs <-> r ∈ s.refs ∨ r ∈ rs := by
  induction rs generalizing s with
  | nil => simp [insertAll]
  | cons q rs ih =>
      show r ∈ ((s.insert q).insertAll rs).refs <-> _
      by_cases hq : q.id ∈ s.refs.map Ref.id
      · have hmem : q ∈ s.refs := by
          rcases List.mem_map.mp hq with ⟨q', hq', hid⟩
          rw [← h q' (List.mem_append_left _ hq') q
            (List.mem_append_right _ List.mem_cons_self) hid]
          exact hq'
        rw [refs_insert_of_mem hq]
        have hsub : forall a, a ∈ s.refs ++ rs -> a ∈ s.refs ++ q :: rs := by
          intro a ha
          rcases List.mem_append.mp ha with ha | ha
          · exact List.mem_append_left _ ha
          · exact List.mem_append_right _ (List.mem_cons_of_mem q ha)
        rw [ih fun a ha b hb => h a (hsub a ha) b (hsub b hb)]
        constructor
        · intro hr
          exact hr.imp id (List.mem_cons_of_mem q)
        · intro hr
          rcases hr with hr | hr
          · exact Or.inl hr
          · rcases List.mem_cons.mp hr with rfl | hr
            · exact Or.inl hmem
            · exact Or.inr hr
      · have hrefs := refs_insert_of_not_mem hq
        rw [ih (by
          rw [hrefs, List.append_assoc]
          exact h), hrefs, List.mem_append, List.mem_singleton, List.mem_cons,
          or_assoc]

theorem refs_nodup (s : RefSet item) : s.refs.Nodup :=
  List.Nodup.of_map Ref.id s.nodup

theorem refs_insertAll_perm {rs rs' : List (Ref item)} (hperm : rs.Perm rs')
    (h : Coherent rs) :
    (empty.insertAll rs).refs.Perm (empty.insertAll rs').refs := by
  have h' : Coherent rs' := fun r hr q hq =>
    h r (hperm.mem_iff.mpr hr) q (hperm.mem_iff.mpr hq)
  rw [List.perm_ext_iff_of_nodup (refs_nodup _) (refs_nodup _)]
  intro r
  rw [mem_refs_insertAll (s := empty) h, mem_refs_insertAll (s := empty) h',
    hperm.mem_iff]

theorem iterate_perm (address : Nat -> Nat) (s : RefSet item) :
    (s.iterate address).Perm s.objects :=
  (List.perm_insertionSort _ s.refs).map Ref.object

theorem iterate_perm_iterate (address address' : Nat -> Nat)
    (s : RefSet item) : (s.iterate address).Perm (s.iterate address') :=
  (iterate_perm address s).trans (iterate_perm address' s).symm

theorem mem_iterate {address : Nat -> Nat} {s : RefSet item} {x : item} :
    x ∈ s.iterate address <-> x ∈ s.objects :=
  (iterate_perm address s).mem_iff

theorem iterate_eq_nil_iff {address : Nat -> Nat} {s : RefSet item} :
    s.iterate address = [] <-> s.objects = [] := by
  constructor
  · intro h
    exact List.perm_nil.mp (h ▸ (iterate_perm address s).symm)
  · intro h
    exact List.perm_nil.mp (h ▸ iterate_perm address s)

def map (f : item -> item') (s : RefSet item) : RefSet item' where
  refs := s.refs.map fun r => { id := r.id, object := f r.object }
  nodup := by
    rw [List.map_map]
    exact s.nodup

theorem objects_map (f : item -> item') (s : RefSet item) :
    (s.map f).objects = s.objects.map f := by
  show (s.refs.map fun r => Ref.mk r.id (f r.object)).map Ref.object =
    (s.refs.map Ref.object).map f
  rw [List.map_map, List.map_map]
  rfl

theorem iterate_map (f : item -> item') (address : Nat -> Nat)
    (s : RefSet item) :
    (s.map f).iterate address = (s.iterate address).map f := by
  unfold iterate map
  rw [← List.map_insertionSort (fun r r' => address r.id ≤ address r'.id) _ _ _
    fun _ _ _ _ => Iff.rfl, List.map_map, List.map_map]
  rfl

theorem map_map (g : item' -> item'') (f : item -> item') (s : RefSet item) :
    (s.map f).map g = s.map fun x => g (f x) := by
  unfold map
  simp only [List.map_map]
  rfl

theorem ext_refs {s t : RefSet item} (h : s.refs = t.refs) : s = t := by
  cases s
  cases t
  cases h
  rfl

theorem freshId_map (f : item -> item') (refs : List (Ref item)) :
    freshId (refs.map fun r => Ref.mk r.id (f r.object)) = freshId refs := by
  induction refs with
  | nil => rfl
  | cons r rest ih => exact congrArg (max (r.id + 1)) ih

theorem map_insertNew (f : item -> item') (s : RefSet item) (x : item) :
    (s.insertNew x).map f = (s.map f).insertNew (f x) := by
  apply ext_refs
  rw [refs_insertNew]
  show (s.insertNew x).refs.map _ = s.refs.map _ ++ _
  rw [refs_insertNew, List.map_append, List.map_singleton]
  show _ = _ ++ [Ref.mk (freshId (s.refs.map _)) (f x)]
  rw [freshId_map]

theorem head?_iterate {address : Nat -> Nat} {s : RefSet item}
    {r : Ref item} (hr : r ∈ s.refs)
    (hlow : forall q, q ∈ s.refs -> q ≠ r -> address r.id < address q.id) :
    (s.iterate address).head? = some r.object := by
  have hmem : r ∈ s.refs.insertionSort
      fun q q' => address q.id ≤ address q'.id :=
    (List.perm_insertionSort _ s.refs).mem_iff.mpr hr
  have hsub : forall q, q ∈ s.refs.insertionSort
      (fun q q' => address q.id ≤ address q'.id) -> q ∈ s.refs := fun q hq =>
    (List.perm_insertionSort _ s.refs).mem_iff.mp hq
  have hsorted : (s.refs.insertionSort
      fun q q' => address q.id ≤ address q'.id).Pairwise
        fun q q' => address q.id ≤ address q'.id :=
    List.pairwise_insertionSort _ s.refs
  unfold iterate
  cases hcase : s.refs.insertionSort
      fun q q' => address q.id ≤ address q'.id with
  | nil =>
      rw [hcase] at hmem
      cases hmem
  | cons first rest =>
      rw [hcase] at hmem hsorted hsub
      by_cases hfirst : first = r
      · rw [hfirst]
        rfl
      · have hrest : r ∈ rest :=
          (List.mem_cons.mp hmem).resolve_left fun h => hfirst h.symm
        have hle := (List.pairwise_cons.mp hsorted).left r hrest
        have hlt := hlow first (hsub first List.mem_cons_self) hfirst
        exact absurd hle (Nat.not_le_of_lt hlt)

def lowest (i : Nat) : Nat -> Nat :=
  Equiv.swap i 0

theorem lowest_injective (i : Nat) : Function.Injective (lowest i) :=
  (Equiv.swap i 0).injective

theorem iterate_lowest {s : RefSet item} {r : Ref item} (hr : r ∈ s.refs) :
    (s.iterate (lowest r.id)).head? = some r.object := by
  apply head?_iterate hr
  intro q hq hne
  have hid : q.id ≠ r.id := by
    intro hsame
    exact hne (List.inj_on_of_nodup_map s.nodup hq hr hsame)
  have hzero : lowest r.id r.id = 0 := Equiv.swap_apply_left r.id 0
  rw [hzero]
  apply Nat.pos_of_ne_zero
  intro hq0
  exact hid (lowest_injective r.id (hq0.trans hzero.symm))

/-- What observations see of an iteration is the same for all addresses exactly
when they do not tell the objects apart.  The observation may change with the
addresses of other objects. -/
theorem map_iterate_eq_iff {param : Type} {address : param -> Nat -> Nat}
    {f : param -> item -> result}
    (hfree : forall p i, exists p', address p' = lowest i ∧ f p' = f p)
    (s : RefSet item) :
    (forall p p', (s.iterate (address p)).map (f p) =
        (s.iterate (address p')).map (f p')) <->
      forall x, x ∈ s.objects -> forall y, y ∈ s.objects ->
        forall p p', f p x = f p' y := by
  constructor
  · intro h x hx y hy p p'
    rcases List.mem_map.mp hx with ⟨r, hr, rfl⟩
    rcases List.mem_map.mp hy with ⟨q, hq, rfl⟩
    rcases hfree p r.id with ⟨pr, hpr, hfr⟩
    rcases hfree p' q.id with ⟨pq, hpq, hfq⟩
    have hsame := congrArg List.head? (h pr pq)
    rw [List.head?_map, List.head?_map, hpr, hpq, hfr, hfq, iterate_lowest hr,
      iterate_lowest hq] at hsame
    exact Option.some.inj hsame
  · intro h p p'
    have hreplicate : forall q, forall y, y ∈ s.objects ->
        (s.iterate (address q)).map (f q) =
          List.replicate s.objects.length (f p y) := by
      intro q y hy
      apply List.eq_replicate_iff.mpr
      constructor
      · rw [List.length_map, (iterate_perm (address q) s).length_eq]
      · intro z hz
        rcases List.mem_map.mp hz with ⟨x, hx, rfl⟩
        exact h x (mem_iterate.mp hx) y hy q p
    rcases List.eq_nil_or_concat s.objects with hnil | ⟨init, y, hsnoc⟩
    · rw [iterate_eq_nil_iff.mpr hnil, iterate_eq_nil_iff.mpr hnil]
      rfl
    · have hy : y ∈ s.objects := by
        rw [hsnoc, List.concat_eq_append]
        exact List.mem_append_right init List.mem_cons_self
      rw [hreplicate p y hy, hreplicate p' y hy]

theorem map_iterate_of_alike {f : item -> result} {s : RefSet item}
    (h : forall x, x ∈ s.objects -> forall y, y ∈ s.objects -> f x = f y)
    (address : Nat -> Nat) :
    (s.iterate address).map f = s.objects.map f := by
  have hperm := (iterate_perm address s).map f
  rcases List.eq_nil_or_concat s.objects with hnil | ⟨init, y, hsnoc⟩
  · rw [iterate_eq_nil_iff.mpr hnil, hnil]
  · have hy : y ∈ s.objects := by
      rw [hsnoc, List.concat_eq_append]
      exact List.mem_append_right init List.mem_cons_self
    have hreplicate : s.objects.map f =
        List.replicate s.objects.length (f y) := by
      apply List.eq_replicate_iff.mpr
      refine ⟨List.length_map .., ?_⟩
      intro z hz
      rcases List.mem_map.mp hz with ⟨x, hx, rfl⟩
      exact h x hx y hy
    rw [hreplicate] at hperm ⊢
    exact List.perm_replicate.mp hperm

end RefSet

end Library
end OranE2
