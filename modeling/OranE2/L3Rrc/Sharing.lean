import OranE2.L3Rrc.Types
import OranE2.Library.Heap
import OranE2.Library.LastWrite

/-!
# Shared measurement structures

This module embeds `MeasQuantityResultsWrap` and `MeasResultNr` with the memory
behind them.  A measurement result points to its quantities; `GetPointer` hands
out the structure itself and `GetValue` a copy of it, and which of the two came
last decides whether the destructor frees the structure.
-/

namespace OranE2
namespace L3Rrc

open Library
open PartialRun

inductive Quantity where
  | rsrp
  | rsrq
  | sinr
  deriving DecidableEq, Repr

namespace Quantity

def add (results : MeasQuantityResultsT) (v : Int) :
    Quantity -> MeasQuantityResultsT
  | rsrp => results.addRsrp v
  | rsrq => results.addRsrq v
  | sinr => results.addSinr v

def member (results : MeasQuantityResultsT) : Quantity -> Option Int
  | rsrp => results.rsrp
  | rsrq => results.rsrq
  | sinr => results.sinr

theorem member_new (quantity : Quantity) :
    quantity.member MeasQuantityResultsT.new = none := by
  cases quantity <;> rfl

theorem member_add (results : MeasQuantityResultsT) (v : Int)
    (quantity quantity' : Quantity) :
    quantity.member (quantity'.add results v) =
      if quantity' = quantity then some v else quantity.member results := by
  cases quantity <;> cases quantity' <;> rfl

end Quantity

@[ext] structure MeasResultNRBlock where
  physCellId : Option Int
  resultsSSBCell : Option Nat
  resultsCSIRSCell : Option Nat
  deriving DecidableEq, Repr

namespace MeasResultNRBlock

def cell (block : MeasResultNRBlock) : ResultCell -> Option Nat
  | .SSB => block.resultsSSBCell
  | .CSIRS => block.resultsCSIRSCell

def addCellResults (block : MeasResultNRBlock) (cell : ResultCell)
    (results : Nat) : MeasResultNRBlock :=
  match cell with
  | .SSB => { block with resultsSSBCell := some results }
  | .CSIRS => { block with resultsCSIRSCell := some results }

theorem cell_addCellResults (block : MeasResultNRBlock)
    (cell cell' : ResultCell) (results : Nat) :
    (block.addCellResults cell' results).cell cell =
      if cell' = cell then some results else block.cell cell := by
  cases cell <;> cases cell' <;> rfl

end MeasResultNRBlock

/-- The structures, the member `m_shouldFree` of the `MeasResultNr` objects,
and what the objects have handed out.  The structure of an object has the
object's name. -/
structure Objects where
  quantities : Heap MeasQuantityResultsT
  results : Heap MeasResultNRBlock
  shouldFree : Heap Bool
  pointers : List Nat
  values : List MeasResultNRBlock

def Objects.empty : Objects where
  quantities := .empty
  results := .empty
  shouldFree := .empty
  pointers := []
  values := []

/-- A call on an object.  The wrapper of quantities never frees them, so its
destruction is not a call here. -/
inductive ObjectCall where
  | newQuantities (q : Nat)
  | addQuantity (quantity : Quantity) (q : Nat) (v : Int)
  | newNr (w : Nat) (physCellId : Option Int)
  | addPhyCellId (w : Nat) (physCellId : Int)
  | addCellResults (w : Nat) (cell : ResultCell) (q : Nat)
  | getPointer (w : Nat)
  | getValue (w : Nat)
  | destroy (w : Nat)
  deriving DecidableEq, Repr

namespace Objects

def setQuantities (s : Objects) (quantities : Heap MeasQuantityResultsT) :
    Objects :=
  { s with quantities := quantities }

def setResults (s : Objects) (results : Heap MeasResultNRBlock) : Objects :=
  { s with results := results }

def newQuantities (s : Objects) (q : Nat) : Option Objects :=
  (s.quantities.alloc q .new).map s.setQuantities

def addQuantity (s : Objects) (quantity : Quantity) (q : Nat) (v : Int) :
    Option Objects :=
  (s.quantities.modify q fun results => quantity.add results v).map
    s.setQuantities

def newNr (s : Objects) (w : Nat) (physCellId : Option Int) :
    Option Objects :=
  (s.results.alloc w
      { physCellId := physCellId
        resultsSSBCell := none
        resultsCSIRSCell := none }).bind fun results =>
    (s.shouldFree.alloc w false).map fun shouldFree =>
      { s with results := results, shouldFree := shouldFree }

def addPhyCellId (s : Objects) (w : Nat) (physCellId : Int) :
    Option Objects :=
  (s.shouldFree.read w).bind fun _ =>
    (s.results.modify w fun block =>
      { block with physCellId := some physCellId }).map s.setResults

def addCellResults (s : Objects) (w : Nat) (cell : ResultCell) (q : Nat) :
    Option Objects :=
  (s.shouldFree.read w).bind fun _ =>
    (s.quantities.read q).bind fun _ =>
      (s.results.modify w fun block => block.addCellResults cell q).map
        s.setResults

def getPointer (s : Objects) (w : Nat) : Option Objects :=
  (s.shouldFree.modify w fun _ => false).map fun shouldFree =>
    { s with shouldFree := shouldFree, pointers := s.pointers ++ [w] }

def getValue (s : Objects) (w : Nat) : Option Objects :=
  (s.shouldFree.modify w fun _ => true).bind fun shouldFree =>
    (s.results.read w).map fun block =>
      { s with shouldFree := shouldFree, values := s.values ++ [block] }

def destroy (s : Objects) (w : Nat) : Option Objects :=
  (s.shouldFree.read w).bind fun shouldFree =>
    (s.shouldFree.free w).bind fun objects =>
      if shouldFree then
        (s.results.free w).map fun results =>
          { s with results := results, shouldFree := objects }
      else
        some { s with shouldFree := objects }

def step (s : Objects) : ObjectCall -> Option Objects
  | .newQuantities q => s.newQuantities q
  | .addQuantity quantity q v => s.addQuantity quantity q v
  | .newNr w physCellId => s.newNr w physCellId
  | .addPhyCellId w physCellId => s.addPhyCellId w physCellId
  | .addCellResults w cell q => s.addCellResults w cell q
  | .getPointer w => s.getPointer w
  | .getValue w => s.getValue w
  | .destroy w => s.destroy w

/-- The objects after a sequence of calls; `none` stands for a call on an
object that does not exist, or no longer. -/
def afterCalls (calls : List ObjectCall) : Option Objects :=
  run step empty calls

def readBlock (s : Objects) (block : MeasResultNRBlock) : MeasResultNRT where
  physCellId := block.physCellId
  resultsSSBCell := block.resultsSSBCell.bind s.quantities.read
  resultsCSIRSCell := block.resultsCSIRSCell.bind s.quantities.read

def readPointer (s : Objects) (w : Nat) : Option MeasResultNRT :=
  (s.results.read w).map s.readBlock

/-!
## What a call can do
-/

inductive Steps (s : Objects) : ObjectCall -> Objects -> Prop where
  | newQuantities (halloc : s.quantities.alloc q .new = some quantities') :
      Steps s (.newQuantities q) (s.setQuantities quantities')
  | addQuantity
      (hmodify : s.quantities.modify q (fun results =>
        quantity.add results v) = some quantities') :
      Steps s (.addQuantity quantity q v) (s.setQuantities quantities')
  | newNr
      (halloc : s.results.alloc w
        { physCellId := physCellId
          resultsSSBCell := none
          resultsCSIRSCell := none } = some results')
      (hobject : s.shouldFree.alloc w false = some shouldFree') :
      Steps s (.newNr w physCellId)
        { s with results := results', shouldFree := shouldFree' }
  | addPhyCellId
      (hmodify : s.results.modify w (fun block =>
        { block with physCellId := some physCellId }) = some results') :
      Steps s (.addPhyCellId w physCellId) (s.setResults results')
  | addCellResults (hread : s.quantities.read q = some value)
      (hmodify : s.results.modify w (fun block =>
        block.addCellResults cell q) = some results') :
      Steps s (.addCellResults w cell q) (s.setResults results')
  | getPointer
      (hmodify : s.shouldFree.modify w (fun _ => false) = some shouldFree') :
      Steps s (.getPointer w)
        { s with shouldFree := shouldFree', pointers := s.pointers ++ [w] }
  | getValue
      (hmodify : s.shouldFree.modify w (fun _ => true) = some shouldFree')
      (hread : s.results.read w = some block) :
      Steps s (.getValue w)
        { s with shouldFree := shouldFree', values := s.values ++ [block] }
  | destroyKept (hread : s.shouldFree.read w = some false)
      (hobject : s.shouldFree.free w = some shouldFree') :
      Steps s (.destroy w) { s with shouldFree := shouldFree' }
  | destroyFreed (hread : s.shouldFree.read w = some true)
      (hobject : s.shouldFree.free w = some shouldFree')
      (hfree : s.results.free w = some results') :
      Steps s (.destroy w)
        { s with results := results', shouldFree := shouldFree' }

theorem steps_of_step {s s' : Objects} {call : ObjectCall}
    (h : s.step call = some s') : Steps s call s' := by
  cases call with
  | newQuantities q =>
      rcases Option.map_eq_some_iff.mp h with ⟨_, halloc, rfl⟩
      exact .newQuantities halloc
  | addQuantity quantity q v =>
      rcases Option.map_eq_some_iff.mp h with ⟨_, hmodify, rfl⟩
      exact .addQuantity hmodify
  | newNr w physCellId =>
      rcases Option.bind_eq_some_iff.mp h with ⟨_, halloc, h⟩
      rcases Option.map_eq_some_iff.mp h with ⟨_, hobject, rfl⟩
      exact .newNr halloc hobject
  | addPhyCellId w physCellId =>
      rcases Option.bind_eq_some_iff.mp h with ⟨_, _, h⟩
      rcases Option.map_eq_some_iff.mp h with ⟨_, hmodify, rfl⟩
      exact .addPhyCellId hmodify
  | addCellResults w cell q =>
      rcases Option.bind_eq_some_iff.mp h with ⟨_, _, h⟩
      rcases Option.bind_eq_some_iff.mp h with ⟨_, hread, h⟩
      rcases Option.map_eq_some_iff.mp h with ⟨_, hmodify, rfl⟩
      exact .addCellResults hread hmodify
  | getPointer w =>
      rcases Option.map_eq_some_iff.mp h with ⟨_, hmodify, rfl⟩
      exact .getPointer hmodify
  | getValue w =>
      rcases Option.bind_eq_some_iff.mp h with ⟨_, hmodify, h⟩
      rcases Option.map_eq_some_iff.mp h with ⟨_, hread, rfl⟩
      exact .getValue hmodify hread
  | destroy w =>
      rcases Option.bind_eq_some_iff.mp h with ⟨shouldFree, hread, h⟩
      rcases Option.bind_eq_some_iff.mp h with ⟨objects, hobject, h⟩
      cases shouldFree with
      | false =>
          cases h
          exact .destroyKept hread hobject
      | true =>
          rcases Option.map_eq_some_iff.mp h with ⟨_, hfree, rfl⟩
          exact .destroyFreed hread hobject hfree

end Objects

/-!
## Registers

The members of the structures and the flag are overwritten by some calls and
left alone by all others.
-/

namespace ObjectCall

def quantityWrite (quantity : Quantity) (q : Nat) :
    ObjectCall -> Option (Option Int)
  | .newQuantities q' => if q' = q then some none else none
  | .addQuantity quantity' q' v =>
      if q' = q ∧ quantity' = quantity then some (some v) else none
  | _ => none

def physCellIdWrite (w : Nat) : ObjectCall -> Option (Option Int)
  | .newNr w' physCellId => if w' = w then some physCellId else none
  | .addPhyCellId w' physCellId =>
      if w' = w then some (some physCellId) else none
  | _ => none

def cellWrite (cell : ResultCell) (w : Nat) : ObjectCall -> Option (Option Nat)
  | .newNr w' _ => if w' = w then some none else none
  | .addCellResults w' cell' q =>
      if w' = w ∧ cell' = cell then some (some q) else none
  | _ => none

/-- Whether the structure was handed out as a copy; a new object counts as one
that handed out its pointer. -/
def handOut (w : Nat) : ObjectCall -> Option Bool
  | .newNr w' _ => if w' = w then some false else none
  | .getPointer w' => if w' = w then some false else none
  | .getValue w' => if w' = w then some true else none
  | _ => none

end ObjectCall

namespace Objects

theorem quantity_step (quantity : Quantity) (q : Nat) (s : Objects)
    (call : ObjectCall) (s' : Objects) (h : s.step call = some s') :
    ((s'.quantities.contents q).bind fun results =>
        quantity.member results) =
      (call.quantityWrite quantity q).getD
        ((s.quantities.contents q).bind fun results =>
          quantity.member results) := by
  cases steps_of_step h with
  | newQuantities halloc =>
      rename_i q' quantities
      show ((quantities.contents q).bind _) = _
      rw [Heap.contents_alloc halloc]
      by_cases hq : q' = q
      · rw [ObjectCall.quantityWrite, if_pos hq, if_pos hq]
        exact quantity.member_new
      · rw [ObjectCall.quantityWrite, if_neg hq, if_neg hq]
        rfl
  | addQuantity hmodify =>
      rename_i q' quantities quantity' v
      rcases Heap.part_modify hmodify
        (fun results => quantity.member results) q with ⟨x, hread, hpart⟩
      show ((quantities.contents q).bind _) = _
      rw [hpart, ObjectCall.quantityWrite]
      by_cases hq : q' = q
      · subst hq
        rw [if_pos rfl]
        have hx := (Heap.read_eq_some_iff.mp hread).right
        rw [Quantity.member_add, hx]
        by_cases hquantity : quantity' = quantity
        · simp [hquantity]
        · simp [hquantity]
      · simp [hq]
  | _ => rfl

theorem physCellId_step (w : Nat) (s : Objects) (call : ObjectCall)
    (s' : Objects) (h : s.step call = some s') :
    ((s'.results.contents w).bind fun block => block.physCellId) =
      (call.physCellIdWrite w).getD
        ((s.results.contents w).bind fun block => block.physCellId) := by
  cases steps_of_step h with
  | newNr halloc hobject =>
      rename_i w' physCellId results shouldFree
      show ((results.contents w).bind _) = _
      rw [Heap.contents_alloc halloc, ObjectCall.physCellIdWrite]
      by_cases hw : w' = w
      · simp [hw]
      · simp [hw]
  | addPhyCellId hmodify =>
      rename_i w' physCellId results
      rcases Heap.part_modify hmodify (fun block => block.physCellId) w with
        ⟨x, _, hpart⟩
      show ((results.contents w).bind _) = _
      rw [hpart, ObjectCall.physCellIdWrite]
      by_cases hw : w' = w
      · simp [hw]
      · simp [hw]
  | addCellResults hread hmodify =>
      rename_i q value w' cell results
      rcases Heap.part_modify hmodify (fun block => block.physCellId) w with
        ⟨x, hx, hpart⟩
      show ((results.contents w).bind _) = _
      rw [hpart]
      by_cases hw : w' = w
      · subst hw
        rw [if_pos rfl, (Heap.read_eq_some_iff.mp hx).right]
        cases cell <;> rfl
      · rw [if_neg hw]
        rfl
  | destroyFreed hread hobject hfree =>
      rename_i w' shouldFree results
      show ((results.contents w).bind _) = _
      rw [Heap.contents_free hfree]
      rfl
  | _ => rfl

theorem cell_step (cell : ResultCell) (w : Nat) (s : Objects)
    (call : ObjectCall) (s' : Objects) (h : s.step call = some s') :
    ((s'.results.contents w).bind fun block => block.cell cell) =
      (call.cellWrite cell w).getD
        ((s.results.contents w).bind fun block => block.cell cell) := by
  cases steps_of_step h with
  | newNr halloc hobject =>
      rename_i w' physCellId results shouldFree
      show ((results.contents w).bind _) = _
      rw [Heap.contents_alloc halloc, ObjectCall.cellWrite]
      by_cases hw : w' = w
      · rw [if_pos hw, if_pos hw]
        cases cell <;> rfl
      · rw [if_neg hw, if_neg hw]
        rfl
  | addPhyCellId hmodify =>
      rename_i w' physCellId results
      rcases Heap.part_modify hmodify (fun block => block.cell cell) w with
        ⟨x, hx, hpart⟩
      show ((results.contents w).bind _) = _
      rw [hpart]
      by_cases hw : w' = w
      · subst hw
        rw [if_pos rfl, (Heap.read_eq_some_iff.mp hx).right]
        cases cell <;> rfl
      · rw [if_neg hw]
        rfl
  | addCellResults hread hmodify =>
      rename_i q value w' cell' results
      rcases Heap.part_modify hmodify (fun block => block.cell cell) w with
        ⟨x, hx, hpart⟩
      show ((results.contents w).bind _) = _
      rw [hpart, ObjectCall.cellWrite]
      by_cases hw : w' = w
      · subst hw
        rw [if_pos rfl, (Heap.read_eq_some_iff.mp hx).right,
          MeasResultNRBlock.cell_addCellResults]
        by_cases hcell : cell' = cell
        · simp [hcell]
        · simp [hcell]
      · simp [hw]
  | destroyFreed hread hobject hfree =>
      rename_i w' shouldFree results
      show ((results.contents w).bind _) = _
      rw [Heap.contents_free hfree]
      rfl
  | _ => rfl

theorem shouldFree_step (w : Nat) (s : Objects) (call : ObjectCall)
    (s' : Objects) (h : s.step call = some s') :
    (s'.shouldFree.contents w).getD false =
      (call.handOut w).getD ((s.shouldFree.contents w).getD false) := by
  cases steps_of_step h with
  | newNr halloc hobject =>
      rename_i w' physCellId results shouldFree
      show (shouldFree.contents w).getD false = _
      rw [Heap.contents_alloc hobject, ObjectCall.handOut]
      by_cases hw : w' = w
      · simp [hw]
      · simp [hw]
  | getPointer hmodify =>
      rename_i w' shouldFree
      rcases Heap.contents_modify hmodify w with ⟨x, _, hcontents⟩
      show (shouldFree.contents w).getD false = _
      rw [hcontents, ObjectCall.handOut]
      by_cases hw : w' = w
      · simp [hw]
      · simp [hw]
  | getValue hmodify hread =>
      rename_i w' shouldFree block
      rcases Heap.contents_modify hmodify w with ⟨x, _, hcontents⟩
      show (shouldFree.contents w).getD false = _
      rw [hcontents, ObjectCall.handOut]
      by_cases hw : w' = w
      · simp [hw]
      · simp [hw]
  | destroyKept hread hobject =>
      rename_i w' shouldFree
      show (shouldFree.contents w).getD false = _
      rw [Heap.contents_free hobject]
      rfl
  | destroyFreed hread hobject hfree =>
      rename_i w' shouldFree results
      show (shouldFree.contents w).getD false = _
      rw [Heap.contents_free hobject]
      rfl
  | _ => rfl

end Objects

end L3Rrc
end OranE2
