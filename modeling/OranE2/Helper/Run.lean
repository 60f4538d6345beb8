import OranE2.Helper.Lte
import OranE2.Helper.MmWave
import OranE2.Library.PartialRun

/-!
# Runs of an indication message helper

The public operations of the two helper classes as one step function.  Thirteen
operations have eight kinds of effect on a helper; whatever is proved about
every effect is proved about every operation.
-/

namespace OranE2
namespace Helper

open Library
open Library.PartialRun
open Asn1c
open Kpm

inductive LteOperation where
  | addCuUpUePmItem (ueImsiComplete : List UInt8) (txBytes txDlPackets : Int)
      (pdcpThroughput pdcpLatency : Double)
  | addCuUpCellPmItem (cellAverageLatency : Double)
  | fillCuUpValues (plmId : StdString) (pdcpBytesUl pdcpBytesDl : Int)
  | fillCuCpValues (numActiveUes : UInt16)
  | addCuCpUePmItem (ueImsiComplete : List UInt8) (numDrb drbRelAct : Int)

inductive MmWaveOperation where
  | addCuUpUePmItem (ueImsiComplete : List UInt8)
      (txPdcpPduBytesNrRlc txPdcpPduNrRlc : Int)
  | fillCuUpValues (plmId : StdString)
  | fillCuCpValues (numActiveUes : UInt16)
  | fillDuValues (cellObjectId : List UInt8)
  | addDuUePmItem (ueImsiComplete : List UInt8) (m : DuUeMeasurements)
  | addDuCellPmItem (m : DuCellMeasurements)
  | addDuCellResRepPmItem (cellResRep : Ref CellResourceReport)
  | addCuCpUePmItem (ueImsiComplete : List UInt8) (numDrb drbRelAct : Int)
      (l3RrcMeasurementServing l3RrcMeasurementNeigh : Ref L3RrcTree)

inductive HelperClass where
  | lte
  | mmWave
  deriving DecidableEq, Repr

def Operation : HelperClass -> Type
  | .lte => LteOperation
  | .mmWave => MmWaveOperation

def HelperClass.new (c : HelperClass) (type : IndicationMessageType)
    (isOffline reducedPmValues : Bool) : Outcome :=
  match c with
  | .lte => LteIndicationMessageHelper.new type isOffline reducedPmValues
  | .mmWave => MmWaveIndicationMessageHelper.new type isOffline reducedPmValues

def LteOperation.step (h : IndicationMessageHelper) : LteOperation -> Outcome
  | .addCuUpUePmItem ueImsiComplete txBytes txDlPackets pdcpThroughput
      pdcpLatency =>
      LteIndicationMessageHelper.addCuUpUePmItem h ueImsiComplete txBytes
        txDlPackets pdcpThroughput pdcpLatency
  | .addCuUpCellPmItem cellAverageLatency =>
      LteIndicationMessageHelper.addCuUpCellPmItem h cellAverageLatency
  | .fillCuUpValues plmId pdcpBytesUl pdcpBytesDl =>
      LteIndicationMessageHelper.fillCuUpValues h plmId pdcpBytesUl pdcpBytesDl
  | .fillCuCpValues numActiveUes =>
      LteIndicationMessageHelper.fillCuCpValues h numActiveUes
  | .addCuCpUePmItem ueImsiComplete numDrb drbRelAct =>
      LteIndicationMessageHelper.addCuCpUePmItem h ueImsiComplete numDrb
        drbRelAct

def MmWaveOperation.step (ceil : Ceiling) (h : IndicationMessageHelper) :
    MmWaveOperation -> Outcome
  | .addCuUpUePmItem ueImsiComplete txPdcpPduBytesNrRlc txPdcpPduNrRlc =>
      MmWaveIndicationMessageHelper.addCuUpUePmItem h ueImsiComplete
        txPdcpPduBytesNrRlc txPdcpPduNrRlc
  | .fillCuUpValues plmId =>
      MmWaveIndicationMessageHelper.fillCuUpValues h plmId
  | .fillCuCpValues numActiveUes =>
      MmWaveIndicationMessageHelper.fillCuCpValues h numActiveUes
  | .fillDuValues cellObjectId =>
      MmWaveIndicationMessageHelper.fillDuValues h cellObjectId
  | .addDuUePmItem ueImsiComplete m =>
      MmWaveIndicationMessageHelper.addDuUePmItem ceil h ueImsiComplete m
  | .addDuCellPmItem m =>
      MmWaveIndicationMessageHelper.addDuCellPmItem ceil h m
  | .addDuCellResRepPmItem cellResRep =>
      MmWaveIndicationMessageHelper.addDuCellResRepPmItem h cellResRep
  | .addCuCpUePmItem ueImsiComplete numDrb drbRelAct l3RrcMeasurementServing
      l3RrcMeasurementNeigh =>
      MmWaveIndicationMessageHelper.addCuCpUePmItem h ueImsiComplete numDrb
        drbRelAct l3RrcMeasurementServing l3RrcMeasurementNeigh

def step (ceil : Ceiling) (h : IndicationMessageHelper) :
    {c : HelperClass} -> Operation c -> Outcome
  | .lte, op => LteOperation.step h op
  | .mmWave, op => MmWaveOperation.step ceil h op

def runOperations (ceil : Ceiling) (h : IndicationMessageHelper)
    (ops : List (Operation c)) : Option IndicationMessageHelper :=
  run (fun h op => (step ceil h op).helper?) h ops

/-!
## Effects
-/

/-- What an operation does to a helper. -/
inductive Effect where
  | fillCuUp (plmId : StdString)
  | fillCuUpBytes (plmId : StdString) (pdcpBytesUl pdcpBytesDl : Int)
  | fillCuCp (numActiveUes : UInt16)
  | fillDu (cellObjectId : List UInt8)
  | insertUe (ueVal : MeasurementItemList)
  | setCell (cellVal : MeasurementItemList)
  | insertReport (cellResRep : Ref CellResourceReport)
  | nothing

def Effect.apply (h : IndicationMessageHelper) : Effect -> Outcome
  | .fillCuUp plmId => h.fillBaseCuUpValues plmId
  | .fillCuUpBytes plmId pdcpBytesUl pdcpBytesDl =>
      LteIndicationMessageHelper.fillCuUpValues h plmId pdcpBytesUl pdcpBytesDl
  | .fillCuCp numActiveUes => h.fillBaseCuCpValues numActiveUes
  | .fillDu cellObjectId =>
      MmWaveIndicationMessageHelper.fillDuValues h cellObjectId
  | .insertUe ueVal => .completed (h.insertUe ueVal)
  | .setCell cellVal => .completed (h.setCell cellVal)
  | .insertReport cellResRep =>
      MmWaveIndicationMessageHelper.addDuCellResRepPmItem h cellResRep
  | .nothing => .completed h

/-- A list for a UE: items that the full mode adds, then items of both
modes. -/
def ueList (reduced : Bool) (ueImsiComplete : List UInt8)
    (full both : List (List UInt8 × MeasurementValue)) : MeasurementItemList :=
  ((MeasurementItemList.ofId ueImsiComplete).addItems
    (if reduced then [] else full)).addItems both

/-- A list for the cell, in which the full mode adds items in two places. -/
def cellList (reduced : Bool)
    (front middle further last : List (List UInt8 × MeasurementValue)) :
    MeasurementItemList :=
  (((MeasurementItemList.new.addItems
    (if reduced then [] else front)).addItems middle).addItems
    (if reduced then [] else further)).addItems last

def cuCpFullItems (numDrb drbRelAct : Int) :
    List (List UInt8 × MeasurementValue) :=
  [(literal "DRB.EstabSucc.5QI.UEID", .valueInt numDrb),
    (literal "DRB.RelActNbr.5QI.UEID", .valueInt drbRelAct)]

def LteOperation.effect (reduced : Bool) : LteOperation -> Effect
  | .addCuUpUePmItem ueImsiComplete txBytes txDlPackets pdcpThroughput
      pdcpLatency =>
      .insertUe (ueList reduced ueImsiComplete
        [(literal "DRB.PdcpSduVolumeDl_Filter.UEID", .valueInt txBytes),
          (literal "Tot.PdcpSduNbrDl.UEID", .valueInt txDlPackets),
          (literal "DRB.PdcpSduBitRateDl.UEID", .valueReal pdcpThroughput),
          (literal "DRB.PdcpSduDelayDl.UEID", .valueReal pdcpLatency)] [])
  | .addCuUpCellPmItem cellAverageLatency =>
      if reduced then
        .nothing
      else
        .setCell (cellList false
          [(literal "DRB.PdcpSduDelayDl", .valueReal cellAverageLatency)]
          [] [] [])
  | .fillCuUpValues plmId pdcpBytesUl pdcpBytesDl =>
      .fillCuUpBytes plmId pdcpBytesUl pdcpBytesDl
  | .fillCuCpValues numActiveUes => .fillCuCp numActiveUes
  | .addCuCpUePmItem ueImsiComplete numDrb drbRelAct =>
      .insertUe (ueList reduced ueImsiComplete
        (cuCpFullItems numDrb drbRelAct) [])

def duCellItems (ceil : Ceiling) (m : DuCellMeasurements) :
    List (List UInt8 × MeasurementValue) :=
  [(literal "TB.TotNbrDlInitial.Qpsk", .valueInt m.macQpskCellSpecific),
    (literal "TB.TotNbrDlInitial.16Qam", .valueInt m.mac16QamCellSpecific),
    (literal "TB.TotNbrDlInitial.64Qam", .valueInt m.mac64QamCellSpecific),
    (literal "RRU.PrbUsedDl", .valueInt (ceil.ofDouble m.prbUtilizationDl))]

def MmWaveOperation.effect (ceil : Ceiling) (reduced : Bool) :
    MmWaveOperation -> Effect
  | .addCuUpUePmItem ueImsiComplete txPdcpPduBytesNrRlc txPdcpPduNrRlc =>
      .insertUe (ueList reduced ueImsiComplete
        [(literal "QosFlow.PdcpPduVolumeDL_Filter.UEID",
            .valueInt txPdcpPduBytesNrRlc),
          (literal "DRB.PdcpPduNbrDl.Qos.UEID", .valueInt txPdcpPduNrRlc)] [])
  | .fillCuUpValues plmId => .fillCuUp plmId
  | .fillCuCpValues numActiveUes => .fillCuCp numActiveUes
  | .fillDuValues cellObjectId => .fillDu cellObjectId
  | .addDuUePmItem ueImsiComplete m =>
      .insertUe (ueList reduced ueImsiComplete
        (MmWaveIndicationMessageHelper.duUeFullItems ceil m)
        [(literal "DRB.UEThpDl.UEID", .valueReal m.drbThrDlUeid)])
  | .addDuCellPmItem m =>
      .setCell (cellList reduced
        (MmWaveIndicationMessageHelper.duCellFullTotals m)
        (duCellItems ceil m)
        (MmWaveIndicationMessageHelper.duCellFullItems m)
        [(literal "DRB.MeanActiveUeDl", .valueInt m.activeUeDl)])
  | .addDuCellResRepPmItem cellResRep => .insertReport cellResRep
  | .addCuCpUePmItem ueImsiComplete numDrb drbRelAct l3RrcMeasurementServing
      l3RrcMeasurementNeigh =>
      .insertUe (ueList reduced ueImsiComplete (cuCpFullItems numDrb drbRelAct)
        [(literal "HO.SrcCellQual.RS-SINR.UEID",
            .valueRRC l3RrcMeasurementServing),
          (literal "HO.TrgtCellQual.RS-SINR.UEID",
            .valueRRC l3RrcMeasurementNeigh)])

def effect (ceil : Ceiling) (reduced : Bool) :
    {c : HelperClass} -> Operation c -> Effect
  | .lte, op => LteOperation.effect reduced op
  | .mmWave, op => MmWaveOperation.effect ceil reduced op

theorem lteStep_eq_apply (h : IndicationMessageHelper) (op : LteOperation) :
    op.step h = (op.effect h.reducedPmValues).apply h := by
  cases hreduced : h.reducedPmValues <;> cases op with
  | addCuUpUePmItem =>
      simp only [LteOperation.step, LteIndicationMessageHelper.addCuUpUePmItem,
        hreduced]
      rfl
  | addCuUpCellPmItem =>
      simp only [LteOperation.step,
        LteIndicationMessageHelper.addCuUpCellPmItem, hreduced]
      rfl
  | fillCuUpValues => rfl
  | fillCuCpValues => rfl
  | addCuCpUePmItem =>
      simp only [LteOperation.step, LteIndicationMessageHelper.addCuCpUePmItem,
        hreduced]
      rfl

theorem mmWaveStep_eq_apply (ceil : Ceiling) (h : IndicationMessageHelper)
    (op : MmWaveOperation) :
    op.step ceil h = (op.effect ceil h.reducedPmValues).apply h := by
  cases hreduced : h.reducedPmValues <;> cases op with
  | addCuUpUePmItem =>
      simp only [MmWaveOperation.step,
        MmWaveIndicationMessageHelper.addCuUpUePmItem, hreduced]
      rfl
  | fillCuUpValues => rfl
  | fillCuCpValues => rfl
  | fillDuValues => rfl
  | addDuUePmItem =>
      simp only [MmWaveOperation.step,
        MmWaveIndicationMessageHelper.addDuUePmItem, hreduced]
      rfl
  | addDuCellPmItem =>
      simp only [MmWaveOperation.step,
        MmWaveIndicationMessageHelper.addDuCellPmItem, hreduced]
      rfl
  | addDuCellResRepPmItem => rfl
  | addCuCpUePmItem =>
      simp only [MmWaveOperation.step,
        MmWaveIndicationMessageHelper.addCuCpUePmItem, hreduced]
      rfl

theorem step_eq_apply (ceil : Ceiling) (h : IndicationMessageHelper)
    (op : Operation c) :
    step ceil h op = (effect ceil h.reducedPmValues op).apply h := by
  cases c with
  | lte => exact lteStep_eq_apply h op
  | mmWave => exact mmWaveStep_eq_apply ceil h op

/-!
## What an effect leads to
-/

inductive Effect.Yields (h : IndicationMessageHelper) :
    Effect -> IndicationMessageHelper -> Prop where
  | fillCuUp (htype : h.type = .cuUp) (hvalues : h.cuUpValues = some v) :
      Yields h (.fillCuUp plmId)
        { h with
          cuUpValues := some { v with plmId := plmId }
          msgValues := { h.msgValues with pmContainerValues := some .cuUp } }
  | fillCuUpBytes (htype : h.type = .cuUp) (hvalues : h.cuUpValues = some v) :
      Yields h (.fillCuUpBytes plmId pdcpBytesUl pdcpBytesDl)
        { h with
          cuUpValues := some
            { plmId := plmId
              pDCPBytesUL := pdcpBytesUl
              pDCPBytesDL := pdcpBytesDl }
          msgValues := { h.msgValues with pmContainerValues := some .cuUp } }
  | fillCuCp (htype : h.type = .cuCp) (hvalues : h.cuCpValues = some v) :
      Yields h (.fillCuCp numActiveUes)
        { h with
          cuCpValues := some { numActiveUes := numActiveUes }
          msgValues := { h.msgValues with pmContainerValues := some .cuCp } }
  | fillDu :
      Yields h (.fillDu cellObjectId)
        { h with
          msgValues :=
            { h.msgValues with
              cellObjectId := cellObjectId
              pmContainerValues :=
                h.duValues.map fun _ => IndicationMessageType.du } }
  | insertUe : Yields h (.insertUe ueVal) (h.insertUe ueVal)
  | setCell : Yields h (.setCell cellVal) (h.setCell cellVal)
  | insertReport (hvalues : h.duValues = some v) :
      Yields h (.insertReport cellResRep)
        { h with
          duValues := some
            { cellResourceReportItems :=
                v.cellResourceReportItems.insert cellResRep } }
  | nothing : Yields h .nothing h

theorem fillBaseCuUpValues_own {h : IndicationMessageHelper}
    {v : OCuUpContainerValues} (htype : h.type = .cuUp)
    (hvalues : h.cuUpValues = some v) (plmId : StdString) :
    h.fillBaseCuUpValues plmId =
      .completed
        { h with
          cuUpValues := some { v with plmId := plmId }
          msgValues :=
            { h.msgValues with pmContainerValues := some .cuUp } } := by
  unfold IndicationMessageHelper.fillBaseCuUpValues
  rw [if_neg (not_not.mpr htype), hvalues]

theorem fillBaseCuUpValues_foreign {h : IndicationMessageHelper}
    (htype : h.type ≠ .cuUp) (plmId : StdString) :
    h.fillBaseCuUpValues plmId =
      .aborted "Wrong function for this object" h := by
  unfold IndicationMessageHelper.fillBaseCuUpValues
  rw [if_pos htype]

theorem fillBaseCuUpValues_null {h : IndicationMessageHelper}
    (htype : h.type = .cuUp) (hvalues : h.cuUpValues = none)
    (plmId : StdString) : h.fillBaseCuUpValues plmId = .fault := by
  unfold IndicationMessageHelper.fillBaseCuUpValues
  rw [if_neg (not_not.mpr htype), hvalues]

theorem fillBaseCuCpValues_own {h : IndicationMessageHelper}
    {v : OCuCpContainerValues} (htype : h.type = .cuCp)
    (hvalues : h.cuCpValues = some v) (numActiveUes : UInt16) :
    h.fillBaseCuCpValues numActiveUes =
      .completed
        { h with
          cuCpValues := some { numActiveUes := numActiveUes }
          msgValues :=
            { h.msgValues with pmContainerValues := some .cuCp } } := by
  unfold IndicationMessageHelper.fillBaseCuCpValues
  rw [if_neg (not_not.mpr htype), hvalues]

theorem fillBaseCuCpValues_foreign {h : IndicationMessageHelper}
    (htype : h.type ≠ .cuCp) (numActiveUes : UInt16) :
    h.fillBaseCuCpValues numActiveUes =
      .aborted "Wrong function for this object" h := by
  unfold IndicationMessageHelper.fillBaseCuCpValues
  rw [if_pos htype]

theorem fillBaseCuCpValues_null {h : IndicationMessageHelper}
    (htype : h.type = .cuCp) (hvalues : h.cuCpValues = none)
    (numActiveUes : UInt16) : h.fillBaseCuCpValues numActiveUes = .fault := by
  unfold IndicationMessageHelper.fillBaseCuCpValues
  rw [if_neg (not_not.mpr htype), hvalues]

theorem lteFillCuUpValues_own {h : IndicationMessageHelper}
    {v : OCuUpContainerValues} (htype : h.type = .cuUp)
    (hvalues : h.cuUpValues = some v) (plmId : StdString)
    (pdcpBytesUl pdcpBytesDl : Int) :
    LteIndicationMessageHelper.fillCuUpValues h plmId pdcpBytesUl pdcpBytesDl =
      .completed
        { h with
          cuUpValues := some
            { plmId := plmId
              pDCPBytesUL := pdcpBytesUl
              pDCPBytesDL := pdcpBytesDl }
          msgValues :=
            { h.msgValues with pmContainerValues := some .cuUp } } := by
  unfold LteIndicationMessageHelper.fillCuUpValues
  rw [hvalues]
  exact fillBaseCuUpValues_own
    (h :=
      { h with
        cuUpValues := some
          { v with
            pDCPBytesUL := pdcpBytesUl
            pDCPBytesDL := pdcpBytesDl } })
    htype rfl plmId

theorem lteFillCuUpValues_foreign {h : IndicationMessageHelper}
    (htype : h.type ≠ .cuUp) (plmId : StdString)
    (pdcpBytesUl pdcpBytesDl : Int) :
    (LteIndicationMessageHelper.fillCuUpValues h plmId pdcpBytesUl
      pdcpBytesDl).helper? = none := by
  unfold LteIndicationMessageHelper.fillCuUpValues
  cases h.cuUpValues with
  | none => rfl
  | some v =>
      exact congrArg Outcome.helper? (fillBaseCuUpValues_foreign
        (h :=
          { h with
            cuUpValues := some
              { v with
                pDCPBytesUL := pdcpBytesUl
                pDCPBytesDL := pdcpBytesDl } })
        htype plmId)

theorem lteFillCuUpValues_null {h : IndicationMessageHelper}
    (hvalues : h.cuUpValues = none) (plmId : StdString)
    (pdcpBytesUl pdcpBytesDl : Int) :
    LteIndicationMessageHelper.fillCuUpValues h plmId pdcpBytesUl pdcpBytesDl =
      .fault := by
  unfold LteIndicationMessageHelper.fillCuUpValues
  rw [hvalues]

theorem addDuCellResRepPmItem_own {h : IndicationMessageHelper}
    {v : ODuContainerValues} (hvalues : h.duValues = some v)
    (cellResRep : Ref CellResourceReport) :
    MmWaveIndicationMessageHelper.addDuCellResRepPmItem h cellResRep =
      .completed
        { h with
          duValues := some
            { cellResourceReportItems :=
                v.cellResourceReportItems.insert cellResRep } } := by
  unfold MmWaveIndicationMessageHelper.addDuCellResRepPmItem
  rw [hvalues]

theorem addDuCellResRepPmItem_null {h : IndicationMessageHelper}
    (hvalues : h.duValues = none) (cellResRep : Ref CellResourceReport) :
    MmWaveIndicationMessageHelper.addDuCellResRepPmItem h cellResRep =
      .fault := by
  unfold MmWaveIndicationMessageHelper.addDuCellResRepPmItem
  rw [hvalues]

theorem yields_of_apply {h h' : IndicationMessageHelper} {e : Effect}
    (happly : (e.apply h).helper? = some h') : e.Yields h h' := by
  cases e with
  | fillCuUp plmId =>
      by_cases htype : h.type = .cuUp
      · cases hvalues : h.cuUpValues with
        | none =>
            rw [Effect.apply, fillBaseCuUpValues_null htype hvalues] at happly
            cases happly
        | some v =>
            rw [Effect.apply, fillBaseCuUpValues_own htype hvalues] at happly
            cases happly
            exact .fillCuUp htype hvalues
      · rw [Effect.apply, fillBaseCuUpValues_foreign htype] at happly
        cases happly
  | fillCuUpBytes plmId pdcpBytesUl pdcpBytesDl =>
      by_cases htype : h.type = .cuUp
      · cases hvalues : h.cuUpValues with
        | none =>
            rw [Effect.apply, lteFillCuUpValues_null hvalues] at happly
            cases happly
        | some v =>
            rw [Effect.apply, lteFillCuUpValues_own htype hvalues] at happly
            cases happly
            exact .fillCuUpBytes htype hvalues
      · rw [Effect.apply, lteFillCuUpValues_foreign htype] at happly
        cases happly
  | fillCuCp numActiveUes =>
      by_cases htype : h.type = .cuCp
      · cases hvalues : h.cuCpValues with
        | none =>
            rw [Effect.apply, fillBaseCuCpValues_null htype hvalues] at happly
            cases happly
        | some v =>
            rw [Effect.apply, fillBaseCuCpValues_own htype hvalues] at happly
            cases happly
            exact .fillCuCp htype hvalues
      · rw [Effect.apply, fillBaseCuCpValues_foreign htype] at happly
        cases happly
  | fillDu cellObjectId =>
      cases happly
      exact .fillDu
  | insertUe ueVal =>
      cases happly
      exact .insertUe
  | setCell cellVal =>
      cases happly
      exact .setCell
  | insertReport cellResRep =>
      cases hvalues : h.duValues with
      | none =>
          rw [Effect.apply, addDuCellResRepPmItem_null hvalues] at happly
          cases happly
      | some v =>
          rw [Effect.apply, addDuCellResRepPmItem_own hvalues] at happly
          cases happly
          exact .insertReport hvalues
  | nothing =>
      cases happly
      exact .nothing

theorem step_yields {ceil : Ceiling} {h h' : IndicationMessageHelper}
    {op : Operation c} (hstep : (step ceil h op).helper? = some h') :
    (effect ceil h.reducedPmValues op).Yields h h' := by
  rw [step_eq_apply] at hstep
  exact yields_of_apply hstep

structure SameKind (h h' : IndicationMessageHelper) : Prop where
  type : h'.type = h.type
  offline : h'.offline = h.offline
  reducedPmValues : h'.reducedPmValues = h.reducedPmValues
  cuUpValues : h'.cuUpValues.isSome = h.cuUpValues.isSome
  cuCpValues : h'.cuCpValues.isSome = h.cuCpValues.isSome
  duValues : h'.duValues.isSome = h.duValues.isSome

theorem sameKind_refl (h : IndicationMessageHelper) : SameKind h h :=
  ⟨rfl, rfl, rfl, rfl, rfl, rfl⟩

theorem sameKind_trans {h h' h'' : IndicationMessageHelper}
    (hfirst : SameKind h h') (hsecond : SameKind h' h'') : SameKind h h'' where
  type := hsecond.type.trans hfirst.type
  offline := hsecond.offline.trans hfirst.offline
  reducedPmValues := hsecond.reducedPmValues.trans hfirst.reducedPmValues
  cuUpValues := hsecond.cuUpValues.trans hfirst.cuUpValues
  cuCpValues := hsecond.cuCpValues.trans hfirst.cuCpValues
  duValues := hsecond.duValues.trans hfirst.duValues

theorem sameKind_of_yields {h h' : IndicationMessageHelper} {e : Effect}
    (hyields : e.Yields h h') : SameKind h h' := by
  cases hyields with
  | fillCuUp htype hvalues =>
      exact ⟨rfl, rfl, rfl, by rw [hvalues]; rfl, rfl, rfl⟩
  | fillCuUpBytes htype hvalues =>
      exact ⟨rfl, rfl, rfl, by rw [hvalues]; rfl, rfl, rfl⟩
  | fillCuCp htype hvalues =>
      exact ⟨rfl, rfl, rfl, rfl, by rw [hvalues]; rfl, rfl⟩
  | fillDu => exact ⟨rfl, rfl, rfl, rfl, rfl, rfl⟩
  | insertUe => exact ⟨rfl, rfl, rfl, rfl, rfl, rfl⟩
  | setCell => exact ⟨rfl, rfl, rfl, rfl, rfl, rfl⟩
  | insertReport hvalues =>
      exact ⟨rfl, rfl, rfl, rfl, rfl, by rw [hvalues]; rfl⟩
  | nothing => exact sameKind_refl h

end Helper
end OranE2
