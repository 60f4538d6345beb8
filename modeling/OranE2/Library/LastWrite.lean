import Mathlib.Data.List.Basic
import Mathlib.Data.List.Perm.Basic
import OranE2.Library.PartialRun

/-!
# Registers that keep the last write

A register is a component of a state that some inputs overwrite and all others
leave alone.  Its final content is the last write, or the initial content when
there was none.  The second half treats writes that depend on a context which
evolves by itself along the input list.
-/

namespace OranE2
namespace Library

/-- The content of a register after the inputs `xs`. -/
def lastWrite (write : input -> Option value) (init : value)
    (xs : List input) : value :=
  ((xs.filterMap write).getLast?).getD init

@[simp] theorem lastWrite_nil (write : input -> Option value) (init : value) :
    lastWrite write init [] = init := rfl

theorem lastWrite_cons (write : input -> Option value) (init : value)
    (x : input) (xs : List input) :
    lastWrite write init (x :: xs) =
      lastWrite write ((write x).getD init) xs := by
  unfold lastWrite
  cases hx : write x with
  | none => simp [hx]
  | some v =>
      rw [List.filterMap_cons_some hx]
      cases hrest : xs.filterMap write with
      | nil => simp
      | cons w ws => simp [List.getLast?_eq_getLast_of_ne_nil]

theorem lastWrite_append (write : input -> Option value) (init : value)
    (xs ys : List input) :
    lastWrite write init (xs ++ ys) =
      lastWrite write (lastWrite write init xs) ys := by
  induction xs generalizing init with
  | nil => rfl
  | cons x xs ih =>
      rw [List.cons_append, lastWrite_cons, lastWrite_cons, ih]

theorem lastWrite_of_silent {write : input -> Option value} {xs : List input}
    (h : forall x, x ∈ xs -> write x = none) (init : value) :
    lastWrite write init xs = init := by
  induction xs with
  | nil => rfl
  | cons x xs ih =>
      rw [lastWrite_cons, h x List.mem_cons_self]
      exact ih fun y hy => h y (List.mem_cons_of_mem x hy)

theorem lastWrite_split (write : input -> Option value)
    (pre : List input) {post : List input} {x : input} {v : value}
    (hx : write x = some v) (hpost : forall y, y ∈ post -> write y = none)
    (init : value) :
    lastWrite write init (pre ++ x :: post) = v := by
  rw [lastWrite_append, lastWrite_cons, hx]
  exact lastWrite_of_silent hpost v

theorem exists_last_write (write : input -> Option value) (xs : List input) :
    (forall x, x ∈ xs -> write x = none) ∨
      exists pre x post v, xs = pre ++ x :: post ∧ write x = some v ∧
        forall y, y ∈ post -> write y = none := by
  induction xs with
  | nil => exact Or.inl (by simp)
  | cons x xs ih =>
      rcases ih with hsilent | ⟨pre, y, post, v, hsplit, hy, hpost⟩
      · cases hx : write x with
        | none =>
            apply Or.inl
            intro y hy
            rcases List.mem_cons.mp hy with rfl | hy
            · exact hx
            · exact hsilent y hy
        | some v => exact Or.inr ⟨[], x, xs, v, rfl, hx, hsilent⟩
      · exact Or.inr ⟨x :: pre, y, post, v, by rw [hsplit]; rfl, hy, hpost⟩

theorem exists_first_write (write : input -> Option value)
    (xs : List input) :
    (forall x, x ∈ xs -> write x = none) ∨
      exists pre x post v, xs = pre ++ x :: post ∧ write x = some v ∧
        forall y, y ∈ pre -> write y = none := by
  induction xs with
  | nil => exact Or.inl (by simp)
  | cons x xs ih =>
      cases hx : write x with
      | some v => exact Or.inr ⟨[], x, xs, v, rfl, hx, by simp⟩
      | none =>
          have hcons : forall ys : List input,
              (forall y, y ∈ ys -> write y = none) ->
              forall y, y ∈ x :: ys -> write y = none := by
            intro ys hys y hy
            rcases List.mem_cons.mp hy with rfl | hy
            · exact hx
            · exact hys y hy
          rcases ih with hsilent | ⟨pre, y, post, v, hsplit, hy, hpre⟩
          · exact Or.inl (hcons xs hsilent)
          · exact Or.inr ⟨x :: pre, y, post, v, by rw [hsplit]; rfl, hy,
              hcons pre hpre⟩

theorem lastWrite_init_irrelevant {write : input -> Option value}
    {xs : List input} (h : exists x, x ∈ xs ∧ write x ≠ none)
    (init init' : value) :
    lastWrite write init xs = lastWrite write init' xs := by
  rcases exists_last_write write xs with
    hsilent | ⟨pre, x, post, v, hsplit, hx, hpost⟩
  · rcases h with ⟨x, hmem, hx⟩
    exact absurd (hsilent x hmem) hx
  · rw [hsplit, lastWrite_split write pre hx hpost,
      lastWrite_split write pre hx hpost]

/-- A machine that runs without faults keeps a register of its own. -/
theorem foldl_register {step : state -> input -> state}
    (content : state -> value) (write : input -> Option value)
    (hwrite : forall s x, content (step s x) = (write x).getD (content s))
    (s : state) (xs : List input) :
    content (xs.foldl step s) = lastWrite write (content s) xs := by
  induction xs generalizing s with
  | nil => rfl
  | cons x xs ih => rw [List.foldl_cons, ih, hwrite, lastWrite_cons]

theorem eq_of_perm_of_length_le_one {xs ys : List value} (hperm : xs.Perm ys)
    (hlength : xs.length ≤ 1) : xs = ys := by
  rcases hlist : xs with _ | ⟨v, _ | ⟨w, rest⟩⟩
  · rw [hlist] at hperm
    exact hperm.nil_eq
  · rw [hlist] at hperm
    exact List.singleton_perm.mp hperm
  · rw [hlist] at hlength
    simp at hlength

/-- At most one input of `xs` writes, so the order of `xs` does not matter. -/
theorem lastWrite_perm {write : input -> Option value} {xs ys : List input}
    (hperm : xs.Perm ys) (honce : (xs.filterMap write).length ≤ 1)
    (init : value) :
    lastWrite write init xs = lastWrite write init ys := by
  unfold lastWrite
  rw [eq_of_perm_of_length_le_one (hperm.filterMap write) honce]

theorem lastWrite_congr {write : input -> Option value} {xs ys : List input}
    (h : xs.filterMap write = ys.filterMap write) (init : value) :
    lastWrite write init xs = lastWrite write init ys := by
  unfold lastWrite
  rw [h]

theorem filterMap_of_filter {keep : input -> Bool}
    {write : input -> Option value}
    (hsilent : forall x, keep x = false -> write x = none)
    {xs ys : List input} (h : xs.filter keep = ys.filter keep) :
    xs.filterMap write = ys.filterMap write := by
  have hkept : write = fun x => if keep x then write x else none := by
    funext x
    cases hx : keep x with
    | true => rfl
    | false => exact hsilent x hx
  rw [hkept, ← List.filterMap_filter, ← List.filterMap_filter, h]

theorem not_mem_of_kind_nodup (kind : input -> Option kinds)
    (pre : List input) {post : List input} {x y : input} {k : kinds}
    (hnodup : ((pre ++ x :: post).filterMap kind).Nodup)
    (hx : kind x = some k) (hy : kind y = some k) : y ∉ pre ∧ y ∉ post := by
  rw [List.filterMap_append, List.filterMap_cons_some hx] at hnodup
  rcases List.nodup_append.mp hnodup with ⟨_, hcons, hdisjoint⟩
  constructor
  · intro hmem
    exact hdisjoint k (List.mem_filterMap.mpr ⟨y, hmem, hy⟩) k
      List.mem_cons_self rfl
  · intro hmem
    exact (List.nodup_cons.mp hcons).left
      (List.mem_filterMap.mpr ⟨y, hmem, hy⟩)

theorem length_writes_le_one {kind : input -> Option kinds}
    {write : input -> Option value} {k : kinds} {xs : List input}
    (hwrite : forall x v, write x = some v -> kind x = some k)
    (hnodup : (xs.filterMap kind).Nodup) :
    (xs.filterMap write).length ≤ 1 := by
  rcases exists_last_write write xs with
    hsilent | ⟨pre, x, post, v, hsplit, hx, hpost⟩
  · rw [List.filterMap_eq_nil_iff.mpr hsilent]
    exact Nat.zero_le 1
  · have hpre : forall y, y ∈ pre -> write y = none := by
      intro y hmem
      cases hy : write y with
      | none => rfl
      | some w =>
          rw [hsplit] at hnodup
          exact absurd hmem
            (not_mem_of_kind_nodup kind pre hnodup (hwrite x v hx)
              (hwrite y w hy)).left
    rw [hsplit, List.filterMap_append, List.filterMap_cons_some hx,
      List.filterMap_eq_nil_iff.mpr hpre, List.filterMap_eq_nil_iff.mpr hpost]
    exact Nat.le_refl 1

theorem lastWrite_of_mem {kind : input -> Option kinds}
    {write : input -> Option value} {k : kinds} {xs : List input}
    (hwrite : forall x v, write x = some v -> kind x = some k)
    (hnodup : (xs.filterMap kind).Nodup) {x : input} {v : value}
    (hmem : x ∈ xs) (hx : write x = some v) (init : value) :
    lastWrite write init xs = v := by
  rcases List.append_of_mem hmem with ⟨pre, post, hsplit⟩
  rw [hsplit] at hnodup ⊢
  apply lastWrite_split write pre hx
  intro y hpost
  cases hy : write y with
  | none => rfl
  | some w =>
      exact absurd hpost
        (not_mem_of_kind_nodup kind pre hnodup (hwrite x v hx)
          (hwrite y w hy)).right

/-!
## Writes in a context

`annotate` pairs each input with the context it meets.  A machine whose context
evolves by itself fails exactly on some annotated input, and its registers hold
the last write over the annotated list.
-/

/-- Pair every input with the context in force when it arrives. -/
def annotate (next : context -> input -> context) :
    context -> List input -> List (context × input)
  | _, [] => []
  | c, x :: xs => (c, x) :: annotate next (next c x) xs

@[simp] theorem annotate_nil (next : context -> input -> context)
    (c : context) : annotate next c [] = [] := rfl

theorem annotate_append (next : context -> input -> context) (c : context)
    (xs ys : List input) :
    annotate next c (xs ++ ys) =
      annotate next c xs ++ annotate next (xs.foldl next c) ys := by
  induction xs generalizing c with
  | nil => rfl
  | cons x xs ih =>
      show (c, x) :: annotate next (next c x) (xs ++ ys) = _
      rw [ih]
      rfl

theorem mem_annotate_iff {next : context -> input -> context} {c d : context}
    {x : input} {xs : List input} :
    (d, x) ∈ annotate next c xs <->
      exists pre post, xs = pre ++ x :: post ∧ d = pre.foldl next c := by
  constructor
  · intro h
    induction xs generalizing c with
    | nil => cases h
    | cons y ys ih =>
        rcases List.mem_cons.mp h with heq | htail
        · cases heq
          exact ⟨[], ys, rfl, rfl⟩
        · rcases ih htail with ⟨pre, post, hsplit, hd⟩
          exact ⟨y :: pre, post, by rw [hsplit]; rfl, hd⟩
  · intro h
    rcases h with ⟨pre, post, hsplit, hd⟩
    rw [hsplit, annotate_append, hd]
    exact List.mem_append.mpr (Or.inr List.mem_cons_self)

theorem mem_annotate_middle {next : context -> input -> context}
    {c d : context} {pre post : List input} {x y : input}
    (hmem : (d, y) ∈ annotate next c (pre ++ x :: post))
    (hpre : y ∉ pre) (hpost : y ∉ post) : y = x ∧ d = pre.foldl next c := by
  rw [annotate_append] at hmem
  rcases List.mem_append.mp hmem with hleft | hright
  · rcases mem_annotate_iff.mp hleft with ⟨front, back, hsplit, _⟩
    exact absurd (by rw [hsplit]; simp) hpre
  · rcases List.mem_cons.mp hright with heq | htail
    · cases heq
      exact ⟨rfl, rfl⟩
    · rcases mem_annotate_iff.mp htail with ⟨front, back, hsplit, _⟩
      exact absurd (by rw [hsplit]; simp) hpost

theorem lastWrite_annotate {next : context -> input -> context} {c : context}
    {write : context -> input -> Option value}
    {write' : input -> Option value} {xs : List input}
    (h : forall p, p ∈ annotate next c xs -> write p.1 p.2 = write' p.2)
    (init : value) :
    lastWrite (fun p => write p.1 p.2) init (annotate next c xs) =
      lastWrite write' init xs := by
  induction xs generalizing c init with
  | nil => rfl
  | cons x xs ih =>
      have hx : write c x = write' x := h (c, x) List.mem_cons_self
      show lastWrite (fun p : context × input => write p.1 p.2) init
        ((c, x) :: annotate next (next c x) xs) = _
      rw [lastWrite_cons, lastWrite_cons, hx]
      exact ih (fun p hp => h p (List.mem_cons_of_mem _ hp)) _

namespace PartialRun

variable {step : state -> input -> Option state}

theorem run_context (contextOf : state -> context)
    (next : context -> input -> context)
    (hctx : forall s x s', step s x = some s' ->
      contextOf s' = next (contextOf s) x)
    {s s' : state} {xs : List input} (hrun : run step s xs = some s') :
    contextOf s' = xs.foldl next (contextOf s) := by
  induction xs generalizing s with
  | nil =>
      cases hrun
      rfl
  | cons x xs ih =>
      rw [run_cons] at hrun
      rcases Option.bind_eq_some_iff.mp hrun with ⟨mid, hmid, hrest⟩
      rw [ih hrest, hctx s x mid hmid]
      rfl

theorem run_eq_none_iff_fault (contextOf : state -> context)
    (next : context -> input -> context) (Fault : context -> input -> Prop)
    (hctx : forall s x s', step s x = some s' ->
      contextOf s' = next (contextOf s) x)
    (hfault : forall s x, step s x = none <-> Fault (contextOf s) x)
    {s : state} {xs : List input} :
    run step s xs = none <->
      exists p, p ∈ annotate next (contextOf s) xs ∧ Fault p.1 p.2 := by
  induction xs generalizing s with
  | nil => simp
  | cons x xs ih =>
      rw [run_cons]
      cases hstep : step s x with
      | none =>
          have hx : Fault (contextOf s) x := (hfault s x).mp hstep
          simp only [Option.bind_none, true_iff]
          exact ⟨(contextOf s, x), List.mem_cons_self, hx⟩
      | some s' =>
          have hx : ¬ Fault (contextOf s) x := by
            intro hf
            rw [(hfault s x).mpr hf] at hstep
            cases hstep
          show run step s' xs = none <-> _
          rw [ih, hctx s x s' hstep]
          simp [annotate, hx]

theorem run_register (contextOf : state -> context)
    (next : context -> input -> context) (content : state -> value)
    (write : context -> input -> Option value)
    (hctx : forall s x s', step s x = some s' ->
      contextOf s' = next (contextOf s) x)
    (hwrite : forall s x s', step s x = some s' ->
      content s' = (write (contextOf s) x).getD (content s))
    {s s' : state} {xs : List input} (hrun : run step s xs = some s') :
    content s' =
      lastWrite (fun p => write p.1 p.2) (content s)
        (annotate next (contextOf s) xs) := by
  induction xs generalizing s with
  | nil =>
      cases hrun
      rfl
  | cons x xs ih =>
      rw [run_cons] at hrun
      rcases Option.bind_eq_some_iff.mp hrun with ⟨mid, hmid, hrest⟩
      rw [ih hrest, hctx s x mid hmid, hwrite s x mid hmid]
      exact (lastWrite_cons (fun p : context × input => write p.1 p.2)
        (content s) (contextOf s, x) _).symm

theorem run_plain_register (content : state -> value)
    (write : input -> Option value)
    (hwrite : forall s x s', step s x = some s' ->
      content s' = (write x).getD (content s))
    {s s' : state} {xs : List input} (hrun : run step s xs = some s') :
    content s' = lastWrite write (content s) xs := by
  induction xs generalizing s with
  | nil =>
      cases hrun
      rfl
  | cons x xs ih =>
      rw [run_cons] at hrun
      rcases Option.bind_eq_some_iff.mp hrun with ⟨mid, hmid, hrest⟩
      rw [ih hrest, hwrite s x mid hmid, lastWrite_cons]

end PartialRun

end Library
end OranE2
