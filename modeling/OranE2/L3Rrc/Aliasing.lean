import OranE2.L3Rrc.Lifetime

/-!
# What is read through pointers and copies

A pointer leads to the structure as it is when it is read.  A copy keeps the
members that the structure had when it was copied, but both point to the same
quantities, so a quantity that is added later shows in the copy as well.
-/

namespace OranE2
namespace L3Rrc

open Library
open PartialRun

def quantityValue (calls : List ObjectCall) (q : Nat) :
    MeasQuantityResultsT where
  rsrp := lastWrite (ObjectCall.quantityWrite .rsrp q) none calls
  rsrq := lastWrite (ObjectCall.quantityWrite .rsrq q) none calls
  sinr := lastWrite (ObjectCall.quantityWrite .sinr q) none calls

def blockValue (calls : List ObjectCall) (w : Nat) : MeasResultNRBlock where
  physCellId := lastWrite (ObjectCall.physCellIdWrite w) none calls
  resultsSSBCell := lastWrite (ObjectCall.cellWrite .SSB w) none calls
  resultsCSIRSCell := lastWrite (ObjectCall.cellWrite .CSIRS w) none calls

/-- A result whose own members are those after some calls and whose quantities
are those after others. -/
def resultValue (own shared : List ObjectCall) (w : Nat) : MeasResultNRT where
  physCellId := (blockValue own w).physCellId
  resultsSSBCell :=
    (blockValue own w).resultsSSBCell.map (quantityValue shared)
  resultsCSIRSCell :=
    (blockValue own w).resultsCSIRSCell.map (quantityValue shared)

def withHistory (calls : List ObjectCall) :
    List (List ObjectCall × ObjectCall) :=
  annotate (fun early call => early ++ [call]) [] calls

def copiedResults (calls : List ObjectCall) : List MeasResultNRT :=
  (withHistory calls).filterMap fun p =>
    p.2.copy?.map (resultValue p.1 calls)

theorem withHistory_snoc (calls : List ObjectCall) (call : ObjectCall) :
    withHistory (calls ++ [call]) = withHistory calls ++ [(calls, call)] := by
  have hfold : calls.foldl (fun early call => early ++ [call]) [] = calls := by
    rw [List.foldl_append_eq_append, List.nil_append, ← List.flatMap_def,
      List.flatMap_singleton']
  unfold withHistory
  rw [annotate_append, hfold]
  rfl

theorem history_mem {calls own : List ObjectCall} {call : ObjectCall}
    (h : (own, call) ∈ withHistory calls) :
    forall c, c ∈ own -> c ∈ calls := by
  rcases mem_annotate_iff.mp h with ⟨pre, post, hsplit, hown⟩
  rw [List.foldl_append_eq_append, List.nil_append, ← List.flatMap_def,
    List.flatMap_singleton'] at hown
  intro c hc
  rw [hsplit]
  rw [hown] at hc
  exact List.mem_append_left _ hc

namespace Objects

/-!
## The quantities stay
-/

theorem quantities_step (q : Nat) {s s' : Objects} {call : ObjectCall}
    (h : s.step call = some s') :
    s'.quantities.freed = s.quantities.freed ∧
      ((s.quantities.contents q).isSome ->
        (s'.quantities.contents q).isSome) := by
  cases steps_of_step h with
  | newQuantities halloc =>
      rename_i q' quantities
      refine ⟨Heap.freed_alloc halloc, ?_⟩
      intro hsome
      show (quantities.contents q).isSome
      rw [Heap.contents_alloc halloc]
      by_cases hq : q' = q
      · rw [if_pos hq]
        rfl
      · rw [if_neg hq]
        exact hsome
  | addQuantity hmodify =>
      rename_i q' quantities quantity v
      refine ⟨Heap.freed_modify hmodify, ?_⟩
      intro hsome
      show (quantities.contents q).isSome
      rw [Heap.isSome_modify hmodify]
      exact hsome
  | _ => exact ⟨rfl, id⟩

section

variable {calls : List ObjectCall} {s : Objects}

theorem quantities_kept (h : afterCalls calls = some s) :
    s.quantities.freed = [] ∧
      forall w cell q, .addCellResults w cell q ∈ calls ->
        (s.quantities.contents q).isSome := by
  refine run_traces (R := fun (s : Objects) calls =>
    s.quantities.freed = [] ∧
      forall w cell q, .addCellResults w cell q ∈ calls ->
        (s.quantities.contents q).isSome) ?_ ?_ h
  · intro s calls call s' hkept hstep
    refine ⟨(quantities_step 0 hstep).left.trans hkept.left, ?_⟩
    intro w cell q hmem
    apply (quantities_step q hstep).right
    rcases List.mem_append.mp hmem with hold | hnew
    · exact hkept.right w cell q hold
    · rw [← List.mem_singleton.mp hnew] at hstep
      cases steps_of_step hstep with
      | addCellResults hread hmodify =>
          rw [(Heap.read_eq_some_iff.mp hread).right]
          rfl
  · refine ⟨rfl, ?_⟩
    intro w cell q hmem
    cases hmem

theorem member_run (h : afterCalls calls = some s) (quantity : Quantity)
    (q : Nat) :
    ((s.quantities.contents q).bind fun results =>
        quantity.member results) =
      lastWrite (ObjectCall.quantityWrite quantity q) none calls :=
  run_plain_register
    (fun s : Objects => (s.quantities.contents q).bind fun results =>
      quantity.member results)
    (ObjectCall.quantityWrite quantity q) (quantity_step quantity q) h

theorem read_quantities (h : afterCalls calls = some s) {w q : Nat}
    {cell : ResultCell} (hmem : .addCellResults w cell q ∈ calls) :
    s.quantities.read q = some (quantityValue calls q) := by
  rcases quantities_kept h with ⟨hfreed, hall⟩
  rcases Option.isSome_iff_exists.mp (hall w cell q hmem) with ⟨x, hx⟩
  have hmember : forall quantity : Quantity, quantity.member x =
      lastWrite (ObjectCall.quantityWrite quantity q) none calls := by
    intro quantity
    have hrun := member_run h quantity q
    rw [hx] at hrun
    exact hrun
  have hvalue : x = quantityValue calls q := by
    unfold quantityValue
    rw [← hmember .rsrp, ← hmember .rsrq, ← hmember .sinr]
    rfl
  rw [← hvalue]
  exact Heap.read_eq_some_iff.mpr ⟨by rw [hfreed]; exact List.not_mem_nil, hx⟩

/-!
## Reading a block
-/

theorem exists_call_of_cell {own : List ObjectCall} {cell : ResultCell}
    {w q : Nat}
    (h : lastWrite (ObjectCall.cellWrite cell w) none own = some q) :
    .addCellResults w cell q ∈ own := by
  rcases exists_last_write (ObjectCall.cellWrite cell w) own with
    hsilent | ⟨pre, call, post, v, hsplit, hcall, hpost⟩
  · rw [lastWrite_of_silent hsilent] at h
    cases h
  · rw [hsplit, lastWrite_split _ pre hcall hpost] at h
    subst h
    have hmem : call ∈ own := by
      rw [hsplit]
      exact List.mem_append_right _ List.mem_cons_self
    cases call with
    | addCellResults w' cell' q' =>
        by_cases hw : w' = w ∧ cell' = cell
        · rw [ObjectCall.cellWrite, if_pos hw] at hcall
          cases hcall
          rcases hw with ⟨rfl, rfl⟩
          exact hmem
        · rw [ObjectCall.cellWrite, if_neg hw] at hcall
          cases hcall
    | newNr w' physCellId =>
        by_cases hw : w' = w
        · rw [ObjectCall.cellWrite, if_pos hw] at hcall
          cases hcall
        · rw [ObjectCall.cellWrite, if_neg hw] at hcall
          cases hcall
    | _ => cases hcall

theorem block_run (h : afterCalls calls = some s) {w : Nat}
    {block : MeasResultNRBlock} (hblock : s.results.contents w = some block) :
    block = blockValue calls w := by
  have hphysCellId := run_plain_register
    (fun s : Objects => (s.results.contents w).bind fun block =>
      block.physCellId)
    (ObjectCall.physCellIdWrite w) (physCellId_step w) h
  have hcell : forall cell, _ := fun cell => run_plain_register
    (fun s : Objects => (s.results.contents w).bind fun block =>
      block.cell cell)
    (ObjectCall.cellWrite cell w) (cell_step cell w) h
  have hssb := hcell .SSB
  have hcsi := hcell .CSIRS
  rw [hblock] at hphysCellId hssb hcsi
  unfold blockValue
  exact MeasResultNRBlock.ext hphysCellId hssb hcsi

theorem readBlock_blockValue (h : afterCalls calls = some s)
    {own : List ObjectCall} (hown : forall call, call ∈ own -> call ∈ calls)
    (w : Nat) : s.readBlock (blockValue own w) = resultValue own calls w := by
  have hcell : forall cell,
      (lastWrite (ObjectCall.cellWrite cell w) none own).bind
          s.quantities.read =
        (lastWrite (ObjectCall.cellWrite cell w) none own).map
          (quantityValue calls) := by
    intro cell
    cases hlast : lastWrite (ObjectCall.cellWrite cell w) none own with
    | none => rfl
    | some q => exact read_quantities h (hown _ (exists_call_of_cell hlast))
  have hssb := hcell .SSB
  have hcsi := hcell .CSIRS
  unfold readBlock resultValue blockValue
  rw [hssb, hcsi]

theorem values_step {s s' : Objects} {call : ObjectCall}
    (hrun : afterCalls calls = some s) (h : s.step call = some s') :
    s'.values =
      s.values ++ (call.copy?.map (blockValue calls)).toList := by
  cases steps_of_step h with
  | getValue hmodify hread =>
      rename_i w shouldFree block
      show s.values ++ [block] = s.values ++ [blockValue calls w]
      rw [block_run hrun (Heap.read_eq_some_iff.mp hread).right]
  | _ => exact (List.append_nil _).symm

theorem values_run (h : afterCalls calls = some s) :
    s.values = (withHistory calls).filterMap fun p =>
      p.2.copy?.map (blockValue p.1) := by
  have hall : afterCalls calls = some s ∧
      s.values = (withHistory calls).filterMap fun p =>
        p.2.copy?.map (blockValue p.1) := by
    refine run_traces (R := fun (s : Objects) calls =>
      afterCalls calls = some s ∧
        s.values = (withHistory calls).filterMap fun p =>
          p.2.copy?.map (blockValue p.1)) ?_ ⟨rfl, rfl⟩ h
    intro s calls call s' hcalls hstep
    constructor
    · unfold afterCalls
      rw [run_snoc]
      exact Option.bind_eq_some_iff.mpr ⟨s, hcalls.left, hstep⟩
    · rw [values_step hcalls.left hstep, hcalls.right, withHistory_snoc,
        List.filterMap_append]
      rfl
  exact hall.right

/-- Pointers show every call; a copy shows its own members as they were, and
the quantities with every call. -/
theorem handed_out_reads (h : afterCalls calls = some s)
    (hkept : PointersKept calls) :
    s.pointers.map s.readPointer =
        (calls.filterMap ObjectCall.pointer?).map (fun w =>
          some (resultValue calls calls w)) ∧
      s.values.map s.readBlock = copiedResults calls := by
  constructor
  · rw [← pointers_run h]
    apply List.map_congr_left
    intro w hmem
    have hlive := (readPointer_ne_none_iff h hmem).mpr
      (hkept w ((mem_pointers_iff h w).mp hmem))
    unfold readPointer at hlive ⊢
    cases hread : s.results.read w with
    | none =>
        rw [hread] at hlive
        exact absurd rfl hlive
    | some block =>
        rw [block_run h (Heap.read_eq_some_iff.mp hread).right,
          Option.map_some, readBlock_blockValue h (fun _ hcall => hcall)]
  · rw [values_run h, copiedResults, List.map_filterMap]
    apply List.filterMap_congr
    intro p hp
    rw [Option.map_map]
    congr 1
    funext w
    exact readBlock_blockValue h (history_mem hp) w

end

end Objects

def changedAfterCopy : List ObjectCall :=
  [.newNr 0 (some 1), .newQuantities 0, .addQuantity .sinr 0 10,
    .addCellResults 0 .SSB 0, .getValue 0, .addPhyCellId 0 2,
    .addQuantity .sinr 0 20, .getPointer 0, .destroy 0]

theorem changedAfterCopy_reads :
    exists s, Objects.afterCalls changedAfterCopy = some s ∧
      s.pointers.map s.readPointer =
        (changedAfterCopy.filterMap ObjectCall.pointer?).map (fun w =>
          some (resultValue changedAfterCopy changedAfterCopy w)) ∧
      s.values.map s.readBlock = copiedResults changedAfterCopy := by
  have hruns : (Objects.afterCalls changedAfterCopy).map
      (fun s => s.results.freed) = some [] := by
    decide
  rcases Option.map_eq_some_iff.mp hruns with ⟨s, hs, hfreed⟩
  have hkept : Objects.PointersKept changedAfterCopy := by
    intro w _ hmem
    rw [← Objects.freed_run hs w, hfreed] at hmem
    cases hmem
  exact ⟨s, hs, Objects.handed_out_reads hs hkept⟩

/-- The copy still names the first cell, but has the second SINR. -/
example : copiedResults changedAfterCopy =
    [(MeasResultNRT.new 1).addCellResults .SSB
      (MeasQuantityResultsT.new.addSinr 20)] := rfl

end L3Rrc
end OranE2
