import Mathlib.Logic.Function.Basic
import OranE2.Library.PartialRun

/-!
# Interleaved threads

Threads that share a log.  An idle thread takes up a block of calls and issues
them one at a time; the calls of different threads interleave freely.
-/

namespace OranE2
namespace Library

open PartialRun

namespace Interleaving

/-- What each thread still has to issue, and what has been issued. -/
structure State (thread call : Type) where
  pending : thread -> List call
  log : List (thread × call)

def State.start : State thread call where
  pending := fun _ => []
  log := []

inductive Event (thread call : Type) where
  | accept (t : thread) (block : List call)
  | issue (t : thread)

section

variable [DecidableEq thread]

def State.accept (s : State thread call) (t : thread) (block : List call) :
    Option (State thread call) :=
  match s.pending t with
  | [] => some { s with pending := Function.update s.pending t block }
  | _ :: _ => none

def State.issue (s : State thread call) (t : thread) :
    Option (State thread call) :=
  match s.pending t with
  | [] => none
  | c :: rest =>
      some
        { pending := Function.update s.pending t rest
          log := s.log ++ [(t, c)] }

def step (s : State thread call) :
    Event thread call -> Option (State thread call)
  | .accept t block => s.accept t block
  | .issue t => s.issue t

def callsOf (t : thread) (log : List (thread × call)) : List call :=
  log.filterMap fun entry => if entry.1 = t then some entry.2 else none

def Event.block? (t : thread) : Event thread call -> Option (List call)
  | .accept t' block => if t' = t then some block else none
  | .issue _ => none

def blocksOf (t : thread) (events : List (Event thread call)) :
    List (List call) :=
  events.filterMap (Event.block? t)

/-!
## What a step can do
-/

theorem accept_eq_some_iff {s s' : State thread call} {t : thread}
    {block : List call} :
    s.accept t block = some s' <->
      s.pending t = [] ∧
        s' = { s with pending := Function.update s.pending t block } := by
  unfold State.accept
  cases hpending : s.pending t with
  | nil => simp [eq_comm]
  | cons c rest => simp

theorem issue_eq_some_iff {s s' : State thread call} {t : thread} :
    s.issue t = some s' <->
      exists c rest, s.pending t = c :: rest ∧
        s' = { pending := Function.update s.pending t rest
               log := s.log ++ [(t, c)] } := by
  unfold State.issue
  cases hpending : s.pending t with
  | nil => simp
  | cons c rest => simp [eq_comm]

theorem callsOf_append (t : thread) (log log' : List (thread × call)) :
    callsOf t (log ++ log') = callsOf t log ++ callsOf t log' :=
  List.filterMap_append

@[simp] theorem callsOf_self (t : thread) (c : call) :
    callsOf t [(t, c)] = [c] := by
  simp [callsOf]

theorem callsOf_other {t t' : thread} (h : t' ≠ t) (c : call) :
    callsOf t [(t', c)] = [] := by
  simp [callsOf, h]

theorem mem_callsOf {t : thread} {c : call} {log : List (thread × call)} :
    c ∈ callsOf t log <-> (t, c) ∈ log := by
  unfold callsOf
  rw [List.mem_filterMap]
  constructor
  · intro h
    rcases h with ⟨⟨t', c'⟩, hmem, hcall⟩
    by_cases ht : t' = t
    · rw [if_pos ht] at hcall
      cases hcall
      cases ht
      exact hmem
    · rw [if_neg ht] at hcall
      cases hcall
  · intro h
    exact ⟨(t, c), h, if_pos rfl⟩

theorem callsOf_cons (t : thread) (entry : thread × call)
    (log : List (thread × call)) :
    callsOf t (entry :: log) = callsOf t [entry] ++ callsOf t log :=
  callsOf_append t [entry] log

theorem callsOf_split (t : thread) (c : call) (pre post : List (thread × call)) :
    callsOf t (pre ++ (t, c) :: post) =
      callsOf t pre ++ c :: callsOf t post := by
  rw [callsOf_append, callsOf_cons, callsOf_self, List.singleton_append]

theorem blocksOf_snoc (t : thread) (events : List (Event thread call))
    (e : Event thread call) :
    blocksOf t (events ++ [e]) = blocksOf t events ++ (e.block? t).toList := by
  unfold blocksOf
  rw [List.filterMap_append]
  rfl

/-!
## Blocks are worked off in order

At any time a thread has issued all its blocks but the last, and a front part
of the last one.
-/

inductive Progress :
    List (List call) -> List call -> List call -> Prop where
  | idle : Progress [] [] []
  | block (done : List (List call)) (front rest : List call) :
      Progress (done ++ [front ++ rest]) (done.flatten ++ front) rest

theorem Progress.issued_append_pending {blocks : List (List call)}
    {issued pending : List call} (h : Progress blocks issued pending) :
    issued ++ pending = blocks.flatten := by
  cases h with
  | idle => rfl
  | block done front rest =>
      rw [List.flatten_append, List.flatten_singleton, List.append_assoc]

theorem Progress.accept {blocks : List (List call)} {issued : List call}
    (h : Progress blocks issued []) (block : List call) :
    Progress (blocks ++ [block]) issued block := by
  have hissued := h.issued_append_pending
  rw [List.append_nil] at hissued
  rw [hissued]
  have hnew := Progress.block blocks [] block
  rw [List.append_nil, List.nil_append] at hnew
  exact hnew

theorem Progress.issue {blocks : List (List call)} {issued rest : List call}
    {c : call} (h : Progress blocks issued (c :: rest)) :
    Progress blocks (issued ++ [c]) rest := by
  cases h with
  | block done front rest =>
      have hnew := Progress.block done (front ++ [c]) rest
      rw [List.append_assoc, List.singleton_append, ← List.append_assoc] at hnew
      exact hnew

theorem progress_step {events : List (Event thread call)}
    {s s' : State thread call} {e : Event thread call}
    (h : forall t, Progress (blocksOf t events) (callsOf t s.log) (s.pending t))
    (hstep : step s e = some s') :
    forall t, Progress (blocksOf t (events ++ [e])) (callsOf t s'.log)
      (s'.pending t) := by
  intro t
  have ht := h t
  rw [blocksOf_snoc]
  cases e with
  | accept t' block =>
      rcases accept_eq_some_iff.mp hstep with ⟨hidle, rfl⟩
      by_cases heq : t' = t
      · subst heq
        rw [hidle] at ht
        simpa [Event.block?] using ht.accept block
      · simpa [Event.block?, heq, Ne.symm heq] using ht
  | issue t' =>
      rcases issue_eq_some_iff.mp hstep with ⟨c, rest, hpending, rfl⟩
      rw [callsOf_append]
      by_cases heq : t' = t
      · subst heq
        rw [hpending] at ht
        simpa [Event.block?] using ht.issue
      · rw [callsOf_other heq]
        simpa [Event.block?, Ne.symm heq] using ht

theorem progress_of_run {events : List (Event thread call)}
    {s : State thread call} (h : run step State.start events = some s) :
    forall t, Progress (blocksOf t events) (callsOf t s.log) (s.pending t) := by
  refine run_traces
    (R := fun s history => forall t,
      Progress (blocksOf t history) (callsOf t s.log) (s.pending t)) ?_ ?_ h
  · intro s history e s' hhistory hstep
    exact progress_step hhistory hstep
  · intro t
    exact Progress.idle

/-- A call in the log lies in one of the blocks of its thread; before it, the
thread has issued the earlier blocks and what precedes it in its own. -/
theorem exists_block_of_log {events : List (Event thread call)}
    {s : State thread call} (h : run step State.start events = some s)
    {pre post : List (thread × call)} {t : thread} {c : call}
    (hlog : s.log = pre ++ (t, c) :: post) :
    exists done front back later,
      blocksOf t events = done ++ (front ++ c :: back) :: later ∧
        callsOf t pre = done.flatten ++ front := by
  have hall := (progress_of_run h t).issued_append_pending
  rw [hlog, callsOf_split, List.append_assoc, List.cons_append] at hall
  rcases List.flatten_eq_append_iff.mp hall.symm with hwhole | hinner
  · rcases hwhole with ⟨done, rest, hblocks, hpre, hrest⟩
    rcases List.flatten_eq_cons_iff.mp hrest.symm with
      ⟨empties, back, later, hsplit, hempties, _⟩
    refine ⟨done ++ empties, [], back, later, ?_, ?_⟩
    · rw [hblocks, hsplit, List.append_assoc]
      rfl
    · have hnone : empties.flatten = [] :=
        List.flatten_eq_nil_iff.mpr hempties
      rw [List.flatten_append, hnone, List.append_nil, List.append_nil]
      exact hpre
  · rcases hinner with ⟨done, front, c', back, later, hblocks, hpre, hrest⟩
    injection hrest with hhead _
    subst hhead
    exact ⟨done, front, back, later, hblocks, hpre⟩

/-!
## Guarded machines

A machine whose events are translated to events of the threads, under a guard.
-/

def guardedStep (guard : State thread call -> event -> Prop)
    [forall s e, Decidable (guard s e)] (lower : event -> Event thread call)
    (s : State thread call) (e : event) : Option (State thread call) :=
  if guard s e then step s (lower e) else none

variable {guard : State thread call -> event -> Prop}
variable [forall s e, Decidable (guard s e)]
variable {lower : event -> Event thread call}

theorem guardedStep_eq_some_iff {s s' : State thread call} {e : event} :
    guardedStep guard lower s e = some s' <->
      guard s e ∧ step s (lower e) = some s' := by
  unfold guardedStep
  by_cases hguard : guard s e
  · simp [hguard]
  · simp [hguard]

theorem run_of_guarded {events : List event} {s s' : State thread call}
    (h : run (guardedStep guard lower) s events = some s') :
    run step s (events.map lower) = some s' := by
  induction events generalizing s with
  | nil => exact h
  | cons e events ih =>
      rw [run_cons] at h
      rcases Option.bind_eq_some_iff.mp h with ⟨mid, hmid, hrest⟩
      rw [List.map_cons,
        run_cons_some (guardedStep_eq_some_iff.mp hmid).right]
      exact ih hrest

theorem guard_of_mem {events : List event} {s s' : State thread call}
    (h : run (guardedStep guard lower) s events = some s') {e : event}
    (he : e ∈ events) : exists mid, guard mid e := by
  induction events generalizing s with
  | nil => cases he
  | cons first events ih =>
      rw [run_cons] at h
      rcases Option.bind_eq_some_iff.mp h with ⟨mid, hmid, hrest⟩
      rcases List.mem_cons.mp he with rfl | hlater
      · exact ⟨s, (guardedStep_eq_some_iff.mp hmid).left⟩
      · exact ih hrest hlater

/-- Every call that is pending satisfies `P` with the log, and every call that
was issued did so with the log before it. -/
structure Justified (P : thread -> call -> List (thread × call) -> Prop)
    (s : State thread call) : Prop where
  pending : forall t c, c ∈ s.pending t -> P t c s.log
  issued : forall pre t c post, s.log = pre ++ (t, c) :: post -> P t c pre

omit [DecidableEq thread] in
theorem Justified.imp {P Q : thread -> call -> List (thread × call) -> Prop}
    {s : State thread call} (himp : forall t c log, P t c log -> Q t c log)
    (h : Justified P s) : Justified Q s where
  pending t c hc := himp t c s.log (h.pending t c hc)
  issued pre t c post hlog := himp t c pre (h.issued pre t c post hlog)

theorem Justified.accept {P : thread -> call -> List (thread × call) -> Prop}
    {s s' : State thread call} {t : thread} {block : List call}
    (h : Justified P s) (hblock : forall c, c ∈ block -> P t c s.log)
    (hstep : s.accept t block = some s') : Justified P s' := by
  rcases accept_eq_some_iff.mp hstep with ⟨_, rfl⟩
  refine ⟨?_, h.issued⟩
  intro t' c hc
  dsimp only at hc
  by_cases heq : t' = t
  · subst heq
    rw [Function.update_self] at hc
    exact hblock c hc
  · rw [Function.update_of_ne heq] at hc
    exact h.pending t' c hc

theorem Justified.issue {P : thread -> call -> List (thread × call) -> Prop}
    {s s' : State thread call} {t : thread} (h : Justified P s)
    (hmono : forall t c log entry, P t c log -> P t c (log ++ [entry]))
    (hstep : s.issue t = some s') : Justified P s' := by
  rcases issue_eq_some_iff.mp hstep with ⟨c, rest, hpending, rfl⟩
  constructor
  · intro t' c' hc'
    dsimp only at hc'
    apply hmono
    by_cases heq : t' = t
    · subst heq
      rw [Function.update_self] at hc'
      apply h.pending t' c'
      rw [hpending]
      exact List.mem_cons_of_mem c hc'
    · rw [Function.update_of_ne heq] at hc'
      exact h.pending t' c' hc'
  · intro pre t' c' post hlog
    rcases List.eq_nil_or_concat post with rfl | ⟨post, last, rfl⟩
    · rcases List.append_inj' hlog rfl with ⟨rfl, hlast⟩
      cases hlast
      apply h.pending t c
      rw [hpending]
      exact List.mem_cons_self
    · rw [List.concat_eq_append, ← List.cons_append, ← List.append_assoc]
        at hlog
      exact h.issued pre t' c' post (List.append_inj' hlog rfl).left

/-- A condition on the events and the log that survives their growth, checked
when a block is taken up, holds when the calls of the block are issued. -/
theorem justified_of_run
    {P : List event -> thread -> call -> List (thread × call) -> Prop}
    (hevents : forall events e t c log, P events t c log ->
      P (events ++ [e]) t c log)
    (hlog : forall events t c log entry, P events t c log ->
      P events t c (log ++ [entry]))
    (haccept : forall events s e t block, guard s e ->
      lower e = .accept t block ->
        forall c, c ∈ block -> P (events ++ [e]) t c s.log)
    {events : List event} {s : State thread call}
    (h : run (guardedStep guard lower) State.start events = some s) :
    Justified (P events) s := by
  refine run_traces (R := fun s events => Justified (P events) s) ?_ ?_ h
  · intro s events e s' hjustified hstep
    rcases guardedStep_eq_some_iff.mp hstep with ⟨hguard, hstep⟩
    have hmore := hjustified.imp (hevents events e)
    cases hlower : lower e with
    | accept t block =>
        rw [hlower] at hstep
        exact hmore.accept (haccept events s e t block hguard hlower) hstep
    | issue t =>
        rw [hlower] at hstep
        exact hmore.issue (hlog (events ++ [e])) hstep
  · constructor
    · intro t c hc
      cases hc
    · intro pre t c post hsplit
      exact absurd hsplit.symm (List.append_ne_nil_of_right_ne_nil pre
        (List.cons_ne_nil _ _))

end

end Interleaving

end Library
end OranE2
