import OranE2.L3Rrc.Measurements
import OranE2.L3Rrc.Sharing

/-!
# Measurements with a SINR

This module embeds how `AddNeighbourCellMeasurement` and
`CreateL3RrcUeSpecificSinrServing` build a measurement result from local
objects that are destroyed at the end.  However many of them are built, what
they hand out keeps reading as the value that the reports are built from.
-/

namespace OranE2
namespace L3Rrc

open Library
open PartialRun

/-- A call of `AddNeighbourCellMeasurement`, or of
`CreateL3RrcUeSpecificSinrServing` up to the copy of its result. -/
inductive SinrMeasurement where
  | neighbour (neighCellId sinr : Int)
  | serving (physCellId sinr : Int)
  deriving DecidableEq, Repr

namespace SinrMeasurement

def neighbour? : SinrMeasurement -> Option MeasResultNRT
  | neighbour neighCellId sinr =>
      some (L3RrcMeasurements.sinrMeasResult neighCellId sinr)
  | serving _ _ => none

def serving? : SinrMeasurement -> Option MeasResultNRT
  | neighbour _ _ => none
  | serving physCellId sinr =>
      some (L3RrcMeasurements.sinrMeasResult physCellId sinr)

def resultCalls (n : Nat) (physCellId sinr : Int) : List ObjectCall :=
  [.newNr n (some physCellId), .newQuantities n, .addQuantity .sinr n sinr,
    .addCellResults n .SSB n]

def calls (n : Nat) : SinrMeasurement -> List ObjectCall
  | neighbour neighCellId sinr =>
      resultCalls n neighCellId sinr ++ [.getPointer n, .destroy n]
  | serving physCellId sinr =>
      resultCalls n physCellId sinr ++ [.getValue n, .destroy n]

end SinrMeasurement

def takeMeasurement (state : Nat × Objects) (m : SinrMeasurement) :
    Option (Nat × Objects) :=
  (run Objects.step state.2 (m.calls state.1)).map fun s => (state.1 + 1, s)

/-!
## One measurement
-/

def sinrBlock (n : Nat) (physCellId : Int) : MeasResultNRBlock where
  physCellId := some physCellId
  resultsSSBCell := some n
  resultsCSIRSCell := none

namespace Objects

/-- No object has the name, or a later one. -/
structure Unused (s : Objects) (n : Nat) : Prop where
  quantities : s.quantities.UnusedFrom n
  results : s.results.UnusedFrom n
  shouldFree : s.shouldFree.UnusedFrom n

/-- Only objects of one name have been used, and the quantities of that name
hold a SINR. -/
structure UsesName (n : Nat) (sinr : Int) (s s' : Objects) : Prop where
  quantities : Heap.AgreeOff n s.quantities s'.quantities
  results : Heap.AgreeOff n s.results s'.results
  shouldFree : Heap.AgreeOff n s.shouldFree s'.shouldFree
  sinr : s'.quantities.read n = some (MeasQuantityResultsT.new.addSinr sinr)

theorem run_resultCalls {s : Objects} {n : Nat} (h : s.Unused n)
    (physCellId sinr : Int) :
    exists s', run step s (SinrMeasurement.resultCalls n physCellId sinr) =
        some s' ∧
      UsesName n sinr s s' ∧
      s'.results.read n = some (sinrBlock n physCellId) ∧
      s'.shouldFree.read n = some false ∧
      s'.pointers = s.pointers ∧ s'.values = s.values := by
  rcases h.quantities n (Nat.le_refl n) with ⟨hq, hqf⟩
  rcases h.results n (Nat.le_refl n) with ⟨hr, hrf⟩
  rcases h.shouldFree n (Nat.le_refl n) with ⟨hs, hsf⟩
  refine ⟨
    { s with
      quantities :=
        { s.quantities with
          contents := Function.update s.quantities.contents n
            (some (MeasQuantityResultsT.new.addSinr sinr)) }
      results :=
        { s.results with
          contents := Function.update s.results.contents n
            (some (sinrBlock n physCellId)) }
      shouldFree :=
        { s.shouldFree with
          contents := Function.update s.shouldFree.contents n
            (some false) } }, ?_, ?_, ?_, ?_, rfl, rfl⟩
  · simp [SinrMeasurement.resultCalls, run, step, newNr, newQuantities,
      addQuantity, addCellResults, Heap.alloc, Heap.modify, Heap.read,
      setQuantities, setResults, Quantity.add,
      MeasResultNRBlock.addCellResults, sinrBlock, hq, hqf, hr, hrf, hs, hsf]
  · refine ⟨Heap.agreeOff_update _ n _, Heap.agreeOff_update _ n _,
      Heap.agreeOff_update _ n _, ?_⟩
    exact Heap.read_eq_some_iff.mpr ⟨hqf, Function.update_self ..⟩
  · exact Heap.read_eq_some_iff.mpr ⟨hrf, Function.update_self ..⟩
  · exact Heap.read_eq_some_iff.mpr ⟨hsf, Function.update_self ..⟩

theorem run_pointer_destroy {s : Objects} {n : Nat} {shouldFree : Bool}
    (hobject : s.shouldFree.read n = some shouldFree) :
    exists objects, run step s [.getPointer n, .destroy n] =
        some { s with shouldFree := objects, pointers := s.pointers ++ [n] } ∧
      Heap.AgreeOff n s.shouldFree objects := by
  rcases Heap.read_eq_some_iff.mp hobject with ⟨hlive, hcontents⟩
  refine ⟨
    { contents := Function.update s.shouldFree.contents n (some false)
      freed := n :: s.shouldFree.freed }, ?_, ?_⟩
  · simp [run, step, getPointer, destroy, Heap.modify, Heap.free, Heap.read,
      hlive, hcontents]
  · exact (Heap.agreeOff_update _ n _).trans (Heap.agreeOff_free _ n)

theorem run_value_destroy {s : Objects} {n : Nat} {shouldFree : Bool}
    {block : MeasResultNRBlock}
    (hobject : s.shouldFree.read n = some shouldFree)
    (hblock : s.results.read n = some block) :
    exists objects results, run step s [.getValue n, .destroy n] =
        some { s with
          results := results
          shouldFree := objects
          values := s.values ++ [block] } ∧
      Heap.AgreeOff n s.shouldFree objects ∧
      Heap.AgreeOff n s.results results := by
  rcases Heap.read_eq_some_iff.mp hobject with ⟨hlive, hcontents⟩
  rcases Heap.read_eq_some_iff.mp hblock with ⟨hblockLive, hblockContents⟩
  refine ⟨
    { contents := Function.update s.shouldFree.contents n (some true)
      freed := n :: s.shouldFree.freed },
    { s.results with freed := n :: s.results.freed }, ?_, ?_, ?_⟩
  · simp [run, step, getValue, destroy, Heap.modify, Heap.free, Heap.read,
      hlive, hcontents, hblockLive, hblockContents]
  · exact (Heap.agreeOff_update _ n _).trans (Heap.agreeOff_free _ n)
  · exact Heap.agreeOff_free _ n

/-!
## Any number of measurements
-/

def ReadsSinr (s : Objects) (block : MeasResultNRBlock) (value : MeasResultNRT) :
    Prop :=
  exists q physCellId sinr,
    block = sinrBlock q physCellId ∧
      s.quantities.read q = some (MeasQuantityResultsT.new.addSinr sinr) ∧
      value = L3RrcMeasurements.sinrMeasResult physCellId sinr

theorem readBlock_of_readsSinr {s : Objects} {block : MeasResultNRBlock}
    {value : MeasResultNRT} (h : s.ReadsSinr block value) :
    s.readBlock block = value := by
  rcases h with ⟨q, physCellId, sinr, rfl, hread, rfl⟩
  unfold readBlock sinrBlock
  simp only [Option.bind_some, Option.bind_none]
  rw [hread]
  rfl

structure Shows (ms : List SinrMeasurement) (n : Nat) (s : Objects) : Prop where
  unused : s.Unused n
  pointers : List.Forall₂
    (fun w value => exists block, s.results.read w = some block ∧
      s.ReadsSinr block value)
    s.pointers (ms.filterMap SinrMeasurement.neighbour?)
  values : List.Forall₂ s.ReadsSinr s.values
    (ms.filterMap SinrMeasurement.serving?)

theorem shows_empty : empty.Shows [] 0 where
  unused :=
    { quantities := Heap.unusedFrom_empty 0
      results := Heap.unusedFrom_empty 0
      shouldFree := Heap.unusedFrom_empty 0 }
  pointers := List.Forall₂.nil
  values := List.Forall₂.nil

theorem Unused.of_usesName {s s' : Objects} {n : Nat} {sinr : Int}
    (h : s.Unused n) (huses : UsesName n sinr s s') : s'.Unused (n + 1) where
  quantities := h.quantities.of_agreeOff huses.quantities
  results := h.results.of_agreeOff huses.results
  shouldFree := h.shouldFree.of_agreeOff huses.shouldFree

theorem Shows.of_usesName {ms : List SinrMeasurement} {s s' : Objects}
    {n : Nat} {sinr : Int} (h : s.Shows ms n) (huses : UsesName n sinr s s') :
    List.Forall₂
        (fun w value => exists block, s'.results.read w = some block ∧
          s'.ReadsSinr block value)
        s.pointers (ms.filterMap SinrMeasurement.neighbour?) ∧
      List.Forall₂ s'.ReadsSinr s.values
        (ms.filterMap SinrMeasurement.serving?) := by
  have hreads : forall block value, s.ReadsSinr block value ->
      s'.ReadsSinr block value := by
    intro block value hblock
    rcases hblock with ⟨q, physCellId, v, hshape, hread, hvalue⟩
    exact ⟨q, physCellId, v, hshape,
      Heap.read_of_agreeOff h.unused.quantities huses.quantities hread, hvalue⟩
  constructor
  · apply h.pointers.imp
    intro w value hpointer
    rcases hpointer with ⟨block, hread, hblock⟩
    exact ⟨block,
      Heap.read_of_agreeOff h.unused.results huses.results hread,
      hreads block value hblock⟩
  · exact h.values.imp hreads

theorem take_shows {ms : List SinrMeasurement} {s : Objects} {n : Nat}
    (h : s.Shows ms n) (m : SinrMeasurement) :
    exists s', takeMeasurement (n, s) m = some (n + 1, s') ∧
      s'.Shows (ms ++ [m]) (n + 1) := by
  cases m with
  | neighbour neighCellId sinr =>
      rcases run_resultCalls h.unused neighCellId sinr with
        ⟨mid, hmid, huses, hblock, hobject, hpointers, hvalues⟩
      rcases run_pointer_destroy hobject with ⟨objects, hrun, hagree⟩
      have hafter : UsesName n sinr s
          { mid with
            shouldFree := objects
            pointers := mid.pointers ++ [n] } :=
        { huses with shouldFree := huses.shouldFree.trans hagree }
      have htake : takeMeasurement (n, s) (.neighbour neighCellId sinr) =
          some (n + 1,
            { mid with
              shouldFree := objects
              pointers := mid.pointers ++ [n] }) := by
        show Option.map _ (run step s (_ ++ _)) = _
        rw [run_append, hmid, Option.bind_some, hrun]
        rfl
      rcases h.of_usesName hafter with ⟨hold, hcopies⟩
      refine ⟨_, htake, h.unused.of_usesName hafter, ?_, ?_⟩
      · rw [List.filterMap_append]
        show List.Forall₂ _ (mid.pointers ++ [n]) _
        rw [hpointers]
        refine List.rel_append hold (.cons ?_ .nil)
        exact ⟨sinrBlock n neighCellId, hblock, n, neighCellId, sinr, rfl,
          huses.sinr, rfl⟩
      · rw [List.filterMap_append]
        show List.Forall₂ _ mid.values _
        rw [hvalues, show [SinrMeasurement.neighbour neighCellId sinr].filterMap
          SinrMeasurement.serving? = [] from rfl, List.append_nil]
        exact hcopies
  | serving physCellId sinr =>
      rcases run_resultCalls h.unused physCellId sinr with
        ⟨mid, hmid, huses, hblock, hobject, hpointers, hvalues⟩
      rcases run_value_destroy hobject hblock with
        ⟨objects, results, hrun, hagree, hresults⟩
      have hafter : UsesName n sinr s
          { mid with
            results := results
            shouldFree := objects
            values := mid.values ++ [sinrBlock n physCellId] } :=
        { huses with
          results := huses.results.trans hresults
          shouldFree := huses.shouldFree.trans hagree }
      have htake : takeMeasurement (n, s) (.serving physCellId sinr) =
          some (n + 1,
            { mid with
              results := results
              shouldFree := objects
              values := mid.values ++ [sinrBlock n physCellId] }) := by
        show Option.map _ (run step s (_ ++ _)) = _
        rw [run_append, hmid, Option.bind_some, hrun]
        rfl
      rcases h.of_usesName hafter with ⟨hold, hcopies⟩
      refine ⟨_, htake, h.unused.of_usesName hafter, ?_, ?_⟩
      · rw [List.filterMap_append]
        show List.Forall₂ _ mid.pointers _
        rw [hpointers, show [SinrMeasurement.serving physCellId sinr].filterMap
          SinrMeasurement.neighbour? = [] from rfl, List.append_nil]
        exact hold
      · rw [List.filterMap_append]
        show List.Forall₂ _ (mid.values ++ [sinrBlock n physCellId]) _
        rw [hvalues]
        refine List.rel_append hcopies (.cons ?_ .nil)
        exact ⟨n, physCellId, sinr, rfl, huses.sinr, rfl⟩

end Objects

/-- The objects of all measurements are destroyed, and every pointer and every
copy that they handed out reads as the value of its measurement. -/
theorem sinr_measurements_read (ms : List SinrMeasurement) :
    exists n s, run takeMeasurement (0, Objects.empty) ms = some (n, s) ∧
      s.pointers.map s.readPointer =
        (ms.filterMap SinrMeasurement.neighbour?).map some ∧
      s.values.map s.readBlock = ms.filterMap SinrMeasurement.serving? := by
  have hstep : forall (state : Nat × Objects) (history : List SinrMeasurement)
      (m : SinrMeasurement), m ∈ ms -> state.2.Shows history state.1 ->
        exists state', takeMeasurement state m = some state' ∧
          state'.2.Shows (history ++ [m]) state'.1 := by
    intro state history m _ hshows
    rcases Objects.take_shows hshows m with ⟨s', htake, hshows'⟩
    exact ⟨(state.1 + 1, s'), htake, hshows'⟩
  rcases run_history
      (R := fun (state : Nat × Objects) history =>
        state.2.Shows history state.1) (s := (0, Objects.empty)) hstep
      Objects.shows_empty with ⟨⟨n, s⟩, hrun, hshows⟩
  refine ⟨n, s, hrun, ?_, ?_⟩
  · rw [← List.forall₂_eq_eq_eq, List.forall₂_map_left_iff,
      List.forall₂_map_right_iff]
    apply hshows.pointers.imp
    intro w value hpointer
    rcases hpointer with ⟨block, hread, hblock⟩
    unfold Objects.readPointer
    rw [hread, Option.map_some, Objects.readBlock_of_readsSinr hblock]
  · rw [← List.forall₂_eq_eq_eq, List.forall₂_map_left_iff]
    apply hshows.values.imp
    intro block value hblock
    exact Objects.readBlock_of_readsSinr hblock

end L3Rrc
end OranE2
