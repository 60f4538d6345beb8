import OranE2.Helper.LastFill
import OranE2.Kpm.Rearranged

/-!
# Operations in another order

Operations that add UEs and reports may be called at any time: only the fills
among themselves, and the operations that set the cell list among themselves,
depend on their order.  This module proves it for whole runs and the
descriptors handed to the encoder after them.
-/

namespace OranE2
namespace Helper

open Library
open Library.PartialRun
open Asn1c
open Kpm

def LteOperation.setsCell : LteOperation -> Bool
  | .addCuUpCellPmItem _ => true
  | _ => false

def MmWaveOperation.setsCell : MmWaveOperation -> Bool
  | .addDuCellPmItem _ => true
  | _ => false

def setsCell : {c : HelperClass} -> Operation c -> Bool
  | .lte, op => LteOperation.setsCell op
  | .mmWave, op => MmWaveOperation.setsCell op

/-- The same operations, the fills and the settings of the cell list each in
their order. -/
structure Rearranges (ops ops' : List (Operation c)) : Prop where
  perm : ops.Perm ops'
  fills : ops.filter isFill = ops'.filter isFill
  cells : ops.filter setsCell = ops'.filter setsCell

/-!
## Silent operations
-/

theorem cellVal_of_not_setsCell {ceil : Ceiling} {reduced : Bool}
    {op : Operation c} (h : setsCell op = false) :
    (effect ceil reduced op).cellVal = none := by
  cases c with
  | lte =>
      cases op with
      | addCuUpCellPmItem => cases h
      | _ => rfl
  | mmWave =>
      cases op with
      | addDuCellPmItem => cases h
      | _ => rfl

section

variable {ceil : Ceiling} {reduced : Bool} {ops ops' : List (Operation c)}

theorem lastWrite_of_rearranges (hops : Rearranges ops ops')
    {write : Effect -> Option value}
    (hwrite : forall e : Effect, e.LeavesFill -> write e = none)
    (init : value) :
    lastWrite write init (effects ceil reduced ops) =
      lastWrite write init (effects ceil reduced ops') := by
  apply lastWrite_congr
  unfold effects
  rw [List.filterMap_map, List.filterMap_map]
  exact filterMap_of_filter
    (fun op hop => hwrite _ (leavesFill_of_not_isFill hop)) hops.fills

theorem cell_of_rearranges (hops : Rearranges ops ops')
    (init : Option MeasurementItemList) :
    lastWrite (cellWrite ceil reduced) init ops =
      lastWrite (cellWrite ceil reduced) init ops' := by
  apply lastWrite_congr
  apply filterMap_of_filter _ hops.cells
  intro op hop
  unfold cellWrite
  rw [cellVal_of_not_setsCell hop]
  rfl

theorem ueLists_of_rearranges (hops : Rearranges ops ops') :
    (ueLists ceil reduced ops).Perm (ueLists ceil reduced ops') :=
  hops.perm.filterMap _

theorem reports_of_rearranges (hops : Rearranges ops ops') :
    (reports ceil reduced ops).Perm (reports ceil reduced ops') :=
  (hops.perm.map _).filterMap _

/-!
## Runs
-/

theorem baseNew_du (type : IndicationMessageType) (offline reduced : Bool) :
    (IndicationMessageHelper.new type offline reduced).duValues = none ∨
      (IndicationMessageHelper.new type offline reduced).duValues =
        some { cellResourceReportItems := RefSet.empty } := by
  cases offline <;> cases type <;> first | exact Or.inl rfl | exact Or.inr rfl

variable {type : IndicationMessageType} {offline : Bool}
variable {h h' : IndicationMessageHelper}

theorem container_of_rearranges (hops : Rearranges ops ops')
    (hcoherent : RefSet.Coherent (reports ceil reduced ops))
    (hrun : runOperations ceil
      (IndicationMessageHelper.new type offline reduced) ops = some h)
    (hrun' : runOperations ceil
      (IndicationMessageHelper.new type offline reduced) ops' = some h')
    (t : IndicationMessageType) :
    Option.Rel SameContainerValues (h.container t) (h'.container t) := by
  have hleft := containers_of_run hrun
  have hright := containers_of_run hrun'
  rw [baseNew_reduced] at hleft hright
  cases t with
  | cuUp =>
      show Option.Rel _ (h.cuUpValues.map _) (h'.cuUpValues.map _)
      rw [hleft.cuUp, hright.cuUp]
      simp only [lastWrite_of_rearranges hops fun _ he => he.plmId,
        lastWrite_of_rearranges hops fun _ he => he.pDCPBytesUL,
        lastWrite_of_rearranges hops fun _ he => he.pDCPBytesDL]
      cases (IndicationMessageHelper.new type offline reduced).cuUpValues with
      | none => exact Option.Rel.none
      | some v => exact Option.Rel.some (.equal _)
  | cuCp =>
      show Option.Rel _ (h.cuCpValues.map _) (h'.cuCpValues.map _)
      rw [hleft.cuCp, hright.cuCp]
      simp only [lastWrite_of_rearranges hops fun _ he => he.numActiveUes]
      cases (IndicationMessageHelper.new type offline reduced).cuCpValues with
      | none => exact Option.Rel.none
      | some v => exact Option.Rel.some (.equal _)
  | du =>
      show Option.Rel _ (h.duValues.map _) (h'.duValues.map _)
      rw [hleft.du, hright.du]
      rcases baseNew_du type offline reduced with hnone | hempty
      · rw [hnone]
        exact Option.Rel.none
      · rw [hempty]
        exact Option.Rel.some (.du ((RefSet.refs_insertAll_perm
          (reports_of_rearranges hops) hcoherent).map Ref.object))

theorem rearranged_of_runs (hops : Rearranges ops ops')
    (hcoherent : RefSet.Coherent (reports ceil reduced ops))
    (hrun : runOperations ceil
      (IndicationMessageHelper.new type offline reduced) ops = some h)
    (hrun' : runOperations ceil
      (IndicationMessageHelper.new type offline reduced) ops' = some h') :
    Rearranged h.values h'.values := by
  have hleft := containers_of_run hrun
  have hright := containers_of_run hrun'
  rw [baseNew_reduced] at hleft hright
  constructor
  · show h.msgValues.cellObjectId = h'.msgValues.cellObjectId
    rw [hleft.cellObjectId, hright.cellObjectId]
    exact lastWrite_of_rearranges hops (fun _ he => he.cellObjectId) _
  · have hpointer : h.msgValues.pmContainerValues =
        h'.msgValues.pmContainerValues := by
      rw [hleft.pointer, hright.pointer]
      exact lastWrite_of_rearranges hops (fun _ he => he.pointer _) _
    show Option.Rel _ (h.msgValues.pmContainerValues.bind h.container)
      (h'.msgValues.pmContainerValues.bind h'.container)
    rw [hpointer]
    cases h'.msgValues.pmContainerValues with
    | none => exact Option.Rel.none
    | some t => exact container_of_rearranges hops hcoherent hrun hrun' t
  · show h.msgValues.cellMeasurementItems = h'.msgValues.cellMeasurementItems
    rw [(contents_of_new hrun).right, (contents_of_new hrun').right]
    exact cell_of_rearranges hops none
  · show h.msgValues.ueIndications.objects.Perm
      h'.msgValues.ueIndications.objects
    rw [(contents_of_new hrun).left, (contents_of_new hrun').left]
    exact ueLists_of_rearranges hops

end

/-- Rearranged operations return together, and what is handed to the encoder
after the one is handed to it after the other, up to the order of set
members. -/
theorem created_message_of_rearranges (ceil : Ceiling) (c : HelperClass)
    (type : IndicationMessageType) (offline reduced : Bool)
    {ops ops' : List (Operation c)} {start : IndicationMessageHelper}
    (hnew : c.new type offline reduced = .completed start)
    (hops : Rearranges ops ops')
    (hcoherent : RefSet.Coherent (reports ceil reduced ops)) :
    ((exists h, runOperations ceil start ops = some h) <->
        exists h', runOperations ceil start ops' = some h') ∧
      forall h h', runOperations ceil start ops = some h ->
        runOperations ceil start ops' = some h' ->
        forall (p p' : Placement) format,
          h.createIndicationMessage p = .ok format ->
            exists format', h'.createIndicationMessage p' = .ok format' ∧
              SameUpToOrder format format' := by
  rw [new_cases hnew]
  constructor
  · rw [run_completes_iff, run_completes_iff]
    constructor
    · intro hall op hop
      exact hall op (hops.perm.mem_iff.mpr hop)
    · intro hall op hop
      exact hall op (hops.perm.mem_iff.mp hop)
  · intro h h' hrun hrun' p p' format hformat
    exact message_of_rearranged
      (rearranged_of_runs hops hcoherent hrun hrun') hformat p'

def fillCuUpBeforeUe : List (Operation .lte) :=
  [LteOperation.fillCuUpValues (StdString.ofBytes [49, 49, 49]) 0 0,
    LteOperation.addCuUpUePmItem [49] 1 1 ⟨0⟩ ⟨0⟩]

theorem fillCuUpBeforeUe_rearranged :
    exists start h h',
      HelperClass.lte.new .cuUp false false = .completed start ∧
      runOperations exampleCeiling start fillCuUpBeforeUe = some h ∧
      runOperations exampleCeiling start fillCuUpBeforeUe.reverse = some h' ∧
      forall (p p' : Placement) format,
        h.createIndicationMessage p = .ok format ->
          exists format', h'.createIndicationMessage p' = .ok format' ∧
            SameUpToOrder format format' :=
  ⟨_, _, _, rfl, rfl, rfl, (created_message_of_rearranges exampleCeiling .lte
    .cuUp false false rfl
    ⟨(List.reverse_perm fillCuUpBeforeUe).symm, rfl, rfl⟩
    (fun _ hr => absurd hr List.not_mem_nil)).right _ _ rfl rfl⟩

end Helper
end OranE2
