import OranE2.L3Rrc.Types
import OranE2.Library.LastWrite

/-!
# Building an NR measurement result

This module embeds `MeasResultNr` with its two constructors and its four
builders.  The results per index go to lists inside an optional structure of
the measurement result, which the builders reach through pointers; `none`
stands for a call that follows a null pointer.
-/

namespace OranE2
namespace L3Rrc

open Library

structure ResultsPerSSBIndexT where
  ssbIndex : Int
  ssbResults : Option MeasQuantityResultsT
  deriving DecidableEq, Repr

structure ResultsPerCSIRSIndexT where
  csiRSIndex : Int
  csiRSResults : Option MeasQuantityResultsT
  deriving DecidableEq, Repr

/-- The member `rsIndexResults`, with its optional lists. -/
structure RsIndexResultsT where
  resultsSSBIndexes : Option (List ResultsPerSSBIndexT)
  resultsCSIRSIndexes : Option (List ResultsPerCSIRSIndexT)
  deriving DecidableEq, Repr

structure MeasResultNr where
  measResultNr : MeasResultNRT
  rsIndexResults : Option RsIndexResultsT
  deriving DecidableEq, Repr

namespace MeasResultNr

def new : MeasResultNr where
  measResultNr :=
    { physCellId := none, resultsSSBCell := none, resultsCSIRSCell := none }
  rsIndexResults := none

def addPhyCellId (m : MeasResultNr) (physCellId : Int) : MeasResultNr :=
  { m with
    measResultNr := { m.measResultNr with physCellId := some physCellId } }

def ofPhysCellId (physCellId : Int) : MeasResultNr :=
  new.addPhyCellId physCellId

def addCellResults (m : MeasResultNr) (cell : ResultCell)
    (results : MeasQuantityResultsT) : MeasResultNr :=
  { m with measResultNr := m.measResultNr.addCellResults cell results }

def addPerSsbIndexResults (m : MeasResultNr)
    (resultsSSBIndex : ResultsPerSSBIndexT) : Option MeasResultNr :=
  match m.rsIndexResults with
  | none => none
  | some rs =>
      match rs.resultsSSBIndexes with
      | none => none
      | some indexes =>
          some
            { m with
              rsIndexResults := some
                { rs with
                  resultsSSBIndexes := some (indexes ++ [resultsSSBIndex]) } }

def addPerCsiRsIndexResults (m : MeasResultNr)
    (resultsCSIRSIndex : ResultsPerCSIRSIndexT) : Option MeasResultNr :=
  match m.rsIndexResults with
  | none => none
  | some rs =>
      match rs.resultsCSIRSIndexes with
      | none => none
      | some indexes =>
          some
            { m with
              rsIndexResults := some
                { rs with
                  resultsCSIRSIndexes :=
                    some (indexes ++ [resultsCSIRSIndex]) } }

def construct : Option Int -> MeasResultNr
  | none => new
  | some physCellId => ofPhysCellId physCellId

end MeasResultNr

/-!
## Sequences of calls
-/

inductive NrCall where
  | addCellResults (cell : ResultCell) (results : MeasQuantityResultsT)
  | addPerSsbIndexResults (resultsSSBIndex : ResultsPerSSBIndexT)
  | addPerCsiRsIndexResults (resultsCSIRSIndex : ResultsPerCSIRSIndexT)
  | addPhyCellId (physCellId : Int)
  deriving DecidableEq, Repr

def NrCall.apply (m : MeasResultNr) : NrCall -> Option MeasResultNr
  | .addCellResults cell results => some (m.addCellResults cell results)
  | .addPerSsbIndexResults r => m.addPerSsbIndexResults r
  | .addPerCsiRsIndexResults r => m.addPerCsiRsIndexResults r
  | .addPhyCellId physCellId => some (m.addPhyCellId physCellId)

def runCalls (physCellId : Option Int) (calls : List NrCall) :
    Option MeasResultNr :=
  PartialRun.run NrCall.apply (MeasResultNr.construct physCellId) calls

@[simp] def NrCall.physCellIdWrite : NrCall -> Option (Option Int)
  | .addPhyCellId physCellId => some (some physCellId)
  | _ => none

@[simp] def NrCall.cellWrite (cell : ResultCell) :
    NrCall -> Option (Option MeasQuantityResultsT)
  | .addCellResults cell' results =>
      if cell' = cell then some (some results) else none
  | _ => none

@[simp] def NrCall.ssbIndexResult : NrCall -> Option ResultsPerSSBIndexT
  | .addPerSsbIndexResults r => some r
  | _ => none

@[simp] def NrCall.csiRsIndexResult : NrCall -> Option ResultsPerCSIRSIndexT
  | .addPerCsiRsIndexResults r => some r
  | _ => none

/-- What the structure should hold after the calls: the last physical cell id
and the last cell results of each kind, and all index results in order. -/
structure HoldsResults (physCellId : Option Int) (calls : List NrCall)
    (m : MeasResultNr) : Prop where
  physCellId : m.measResultNr.physCellId =
    lastWrite NrCall.physCellIdWrite physCellId calls
  ssbCell : m.measResultNr.resultsSSBCell =
    lastWrite (NrCall.cellWrite .SSB) none calls
  csiRsCell : m.measResultNr.resultsCSIRSCell =
    lastWrite (NrCall.cellWrite .CSIRS) none calls
  ssbIndexes :
    ((m.rsIndexResults.bind fun rs => rs.resultsSSBIndexes).getD []) =
      calls.filterMap NrCall.ssbIndexResult
  csiRsIndexes :
    ((m.rsIndexResults.bind fun rs => rs.resultsCSIRSIndexes).getD []) =
      calls.filterMap NrCall.csiRsIndexResult

def BuildsResults (physCellId : Option Int) (calls : List NrCall) : Prop :=
  exists m, runCalls physCellId calls = some m ∧
    HoldsResults physCellId calls m

def NrCall.PerIndex : NrCall -> Prop
  | .addPerSsbIndexResults _ => True
  | .addPerCsiRsIndexResults _ => True
  | _ => False

theorem apply_of_absent {m : MeasResultNr} (habsent : m.rsIndexResults = none)
    {call : NrCall} {m' : MeasResultNr}
    (h : NrCall.apply m call = some m') :
    m'.rsIndexResults = none ∧ ¬ call.PerIndex := by
  cases call with
  | addCellResults cell results =>
      cases h
      exact ⟨habsent, not_false⟩
  | addPhyCellId physCellId =>
      cases h
      exact ⟨habsent, not_false⟩
  | addPerSsbIndexResults r =>
      simp [NrCall.apply, MeasResultNr.addPerSsbIndexResults, habsent] at h
  | addPerCsiRsIndexResults r =>
      simp [NrCall.apply, MeasResultNr.addPerCsiRsIndexResults, habsent] at h

theorem apply_of_not_perIndex (m : MeasResultNr) {call : NrCall}
    (h : ¬ call.PerIndex) : exists m', NrCall.apply m call = some m' := by
  cases call with
  | addCellResults cell results => exact ⟨_, rfl⟩
  | addPhyCellId physCellId => exact ⟨_, rfl⟩
  | addPerSsbIndexResults r => exact absurd trivial h
  | addPerCsiRsIndexResults r => exact absurd trivial h

theorem absent_construct (physCellId : Option Int) :
    (MeasResultNr.construct physCellId).rsIndexResults = none := by
  cases physCellId <;> rfl

/-- A run never creates the index results, and never needs them. -/
theorem run_absent {physCellId : Option Int} {calls : List NrCall}
    {m : MeasResultNr} (h : runCalls physCellId calls = some m) :
    m.rsIndexResults = none ∧
      forall call, call ∈ calls -> ¬ call.PerIndex :=
  PartialRun.run_inputs
    (fun _ _ _ habsent hstep => apply_of_absent habsent hstep)
    (absent_construct physCellId) h

/-!
## Registers of a run
-/

theorem measResultNr_addPerSsbIndexResults {m m' : MeasResultNr}
    {r : ResultsPerSSBIndexT} (h : m.addPerSsbIndexResults r = some m') :
    m'.measResultNr = m.measResultNr := by
  unfold MeasResultNr.addPerSsbIndexResults at h
  split at h
  · cases h
  · split at h
    · cases h
    · cases h
      rfl

theorem measResultNr_addPerCsiRsIndexResults {m m' : MeasResultNr}
    {r : ResultsPerCSIRSIndexT} (h : m.addPerCsiRsIndexResults r = some m') :
    m'.measResultNr = m.measResultNr := by
  unfold MeasResultNr.addPerCsiRsIndexResults at h
  split at h
  · cases h
  · split at h
    · cases h
    · cases h
      rfl

theorem physCellId_apply (m : MeasResultNr) (call : NrCall)
    (m' : MeasResultNr) (h : NrCall.apply m call = some m') :
    m'.measResultNr.physCellId =
      call.physCellIdWrite.getD m.measResultNr.physCellId := by
  cases call with
  | addCellResults cell results =>
      cases h
      cases cell <;> rfl
  | addPhyCellId physCellId =>
      cases h
      rfl
  | addPerSsbIndexResults r =>
      rw [measResultNr_addPerSsbIndexResults h]
      rfl
  | addPerCsiRsIndexResults r =>
      rw [measResultNr_addPerCsiRsIndexResults h]
      rfl

theorem cellResults_apply (m : MeasResultNr) (call : NrCall)
    (m' : MeasResultNr) (h : NrCall.apply m call = some m') :
    m'.measResultNr.resultsSSBCell =
        (call.cellWrite .SSB).getD m.measResultNr.resultsSSBCell ∧
      m'.measResultNr.resultsCSIRSCell =
        (call.cellWrite .CSIRS).getD m.measResultNr.resultsCSIRSCell := by
  cases call with
  | addCellResults cell results =>
      cases h
      cases cell <;> exact ⟨rfl, rfl⟩
  | addPhyCellId physCellId =>
      cases h
      exact ⟨rfl, rfl⟩
  | addPerSsbIndexResults r =>
      rw [measResultNr_addPerSsbIndexResults h]
      exact ⟨rfl, rfl⟩
  | addPerCsiRsIndexResults r =>
      rw [measResultNr_addPerCsiRsIndexResults h]
      exact ⟨rfl, rfl⟩

theorem registers_construct (physCellId : Option Int) :
    (MeasResultNr.construct physCellId).measResultNr =
      { physCellId := physCellId
        resultsSSBCell := none
        resultsCSIRSCell := none } := by
  cases physCellId <;> rfl

theorem holdsResults_of_run {physCellId : Option Int} {calls : List NrCall}
    {m : MeasResultNr} (h : runCalls physCellId calls = some m) :
    HoldsResults physCellId calls m := by
  have hstart := registers_construct physCellId
  rcases run_absent h with ⟨habsent, hcalls⟩
  have hphysCellId := PartialRun.run_plain_register
    (fun m : MeasResultNr => m.measResultNr.physCellId)
    NrCall.physCellIdWrite physCellId_apply h
  have hssb := PartialRun.run_plain_register
    (fun m : MeasResultNr => m.measResultNr.resultsSSBCell)
    (NrCall.cellWrite .SSB)
    (fun m call m' hstep => (cellResults_apply m call m' hstep).left) h
  have hcsi := PartialRun.run_plain_register
    (fun m : MeasResultNr => m.measResultNr.resultsCSIRSCell)
    (NrCall.cellWrite .CSIRS)
    (fun m call m' hstep => (cellResults_apply m call m' hstep).right) h
  rw [hstart] at hphysCellId hssb hcsi
  refine ⟨hphysCellId, hssb, hcsi, ?_, ?_⟩
  · rw [habsent]
    apply Eq.symm
    apply List.filterMap_eq_nil_iff.mpr
    intro call hmem
    cases call with
    | addPerSsbIndexResults r => exact absurd trivial (hcalls _ hmem)
    | _ => rfl
  · rw [habsent]
    apply Eq.symm
    apply List.filterMap_eq_nil_iff.mpr
    intro call hmem
    cases call with
    | addPerCsiRsIndexResults r => exact absurd trivial (hcalls _ hmem)
    | _ => rfl

theorem nr_results_built_iff (physCellId : Option Int)
    (calls : List NrCall) :
    BuildsResults physCellId calls <->
      forall call, call ∈ calls -> ¬ call.PerIndex := by
  constructor
  · intro h
    rcases h with ⟨m, hrun, _⟩
    exact (run_absent hrun).right
  · intro hcalls
    rcases PartialRun.run_completes
        (fun m call hmem => apply_of_not_perIndex m (hcalls call hmem))
        (MeasResultNr.construct physCellId) with ⟨m, hrun⟩
    exact ⟨m, hrun, holdsResults_of_run hrun⟩

theorem first_ssb_index_faults :
    runCalls (some 1)
          [.addCellResults .SSB MeasQuantityResultsT.new,
            .addPerSsbIndexResults { ssbIndex := 0, ssbResults := none }] =
        none ∧
      ¬ BuildsResults (some 1)
        [.addCellResults .SSB MeasQuantityResultsT.new,
          .addPerSsbIndexResults { ssbIndex := 0, ssbResults := none }] := by
  refine ⟨rfl, ?_⟩
  intro h
  rcases h with ⟨m, hrun, _⟩
  cases hrun

end L3Rrc
end OranE2
