import OranE2.Kpm.Values
import OranE2.Library.AppendLoop

/-!
# Indication messages

This module embeds `FillAndEncodeKpmIndicationMessage` and the fillers of the
three containers, up to the descriptor handed to the encoder.  The list that a
structure has just been appended to holds a pointer to it, so that filling the
structure first and appending it then builds the same descriptor.
-/

namespace OranE2
namespace Kpm

open Library
open Asn1c
open L3Rrc

/-!
## The descriptor
-/

inductive MeasurementValueT where
  | valueInt (valueInt : Int)
  | valueReal (valueReal : Double)
  | valueRRC (valueRRC : L3RrcTree)
  deriving DecidableEq, Repr

structure PMInfoItemT where
  measName : OctetStringT
  pmVal : MeasurementValueT
  deriving DecidableEq

structure PerUEPMItemT where
  ueId : OctetStringT
  listOfPMInformation : Option (List PMInfoItemT)
  deriving DecidableEq

inductive NIType where
  | x2U
  | other (value : Int)
  deriving DecidableEq, Repr

structure PerQCIReportListItemFormatT where
  drbqci : Int
  pDCPBytesDL : Option Int
  pDCPBytesUL : Option Int
  deriving DecidableEq, Repr

structure EPCCUUPPMFormatT where
  perQCIReportListCuup : List PerQCIReportListItemFormatT
  deriving DecidableEq, Repr

structure PlmnIDItemT where
  pLMNIdentity : OctetStringT
  cuUPPMEPC : Option EPCCUUPPMFormatT
  deriving DecidableEq

structure CUUPMeasurementContainerT where
  plmnList : List PlmnIDItemT
  deriving DecidableEq

structure PFContainerListItemT where
  interfaceType : NIType
  oCUUPPMContainer : CUUPMeasurementContainerT
  deriving DecidableEq

structure OCUUPPFContainerT where
  pfContainerList : List PFContainerListItemT
  deriving DecidableEq

structure OCUCPPFContainerT where
  numberOfActiveUEs : Option Int
  deriving DecidableEq, Repr

structure PerQCIReportListItemT where
  qci : Int
  dlPRBUsage : Option Int
  ulPRBUsage : Option Int
  deriving DecidableEq, Repr

structure EPCDUPMContainerT where
  perQCIReportListDu : List PerQCIReportListItemT
  deriving DecidableEq, Repr

structure ServedPlmnPerCellListItemT where
  pLMNIdentity : OctetStringT
  duPMEPC : Option EPCDUPMContainerT
  deriving DecidableEq

structure NRCGIT where
  pLMNIdentity : OctetStringT
  nRCellIdentity : BitStringT
  deriving DecidableEq

structure CellResourceReportListItemT where
  nRCGI : NRCGIT
  dlTotalofAvailablePRBs : Option Int
  ulTotalofAvailablePRBs : Option Int
  servedPlmnPerCellList : List ServedPlmnPerCellListItemT
  deriving DecidableEq

structure ODUPFContainerT where
  cellResourceReportList : List CellResourceReportListItemT
  deriving DecidableEq

inductive PFContainerT where
  | oCUUP (oCUUP : OCUUPPFContainerT)
  | oCUCP (oCUCP : OCUCPPFContainerT)
  | oDU (oDU : ODUPFContainerT)
  deriving DecidableEq

structure E2smKpmIndicationMessageFormat1T where
  pmContainers : List PFContainerT
  cellObjectID : OctetStringT
  listOfPMInformation : Option (List PMInfoItemT)
  listOfMatchedUEs : Option (List PerUEPMItemT)
  deriving DecidableEq

/-!
## The builders
-/

/-- The fatal checks on the way to the encoder. -/
inductive Abort where
  | unknownPmContainer
  | dlPrbUsage
  | ulPrbUsage
  | missingId
  deriving DecidableEq, Repr

def MeasurementValue.content : MeasurementValue -> MeasurementValueT
  | .valueInt value => .valueInt value
  | .valueReal value => .valueReal value
  | .valueRRC value => .valueRRC value.object

def MeasurementItem.getPointer (item : MeasurementItem) : PMInfoItemT where
  measName := item.measName
  pmVal := item.pmVal.content

def MeasurementItemList.getId (l : MeasurementItemList) :
    Except Abort OctetStringT :=
  match l.id with
  | none => .error .missingId
  | some id => .ok id.getValue

def fillOCuUpContainer (values : OCuUpContainerValues) : OCUUPPFContainerT :=
  let plmnidstr := OctetString.ofString values.plmId 3
  let pqrli : PerQCIReportListItemFormatT :=
    { drbqci := 0
      pDCPBytesDL := some values.pDCPBytesDL
      pDCPBytesUL := some values.pDCPBytesUL }
  let plmnItem : PlmnIDItemT :=
    { pLMNIdentity := plmnidstr.getValue
      cuUPPMEPC := some { perQCIReportListCuup := [pqrli] } }
  { pfContainerList :=
      [{ interfaceType := .x2U
         oCUUPPMContainer := { plmnList := [plmnItem] } }] }

def fillOCuCpContainer (values : OCuCpContainerValues) : OCUCPPFContainerT where
  numberOfActiveUEs := some values.numActiveUes.toNat

/-- One iteration of the innermost loop of `FillODuContainer`. -/
def fillPerQciReportItem (perQciReportItem : EpcDuPmContainer) :
    Except Abort PerQCIReportListItemT :=
  if perQciReportItem.dlPrbUsage < 0 ∨ perQciReportItem.dlPrbUsage > 100 then
    .error .dlPrbUsage
  else if perQciReportItem.ulPrbUsage < 0 ∨
      perQciReportItem.ulPrbUsage > 100 then
    .error .ulPrbUsage
  else
    .ok
      { qci := perQciReportItem.qci
        dlPRBUsage := some perQciReportItem.dlPrbUsage
        ulPRBUsage := some perQciReportItem.ulPrbUsage }

def fillServedPlmnCell (p : Placement) (servedPlmnCell : ServedPlmnPerCell) :
    Except Abort ServedPlmnPerCellListItemT :=
  let servedPlmnId := OctetString.ofString servedPlmnCell.plmId 3
  match collect fillPerQciReportItem
      (servedPlmnCell.perQciReportItems.iterate p.qci) with
  | .error a => .error a
  | .ok pqrls =>
      .ok
        { pLMNIdentity := servedPlmnId.getValue
          duPMEPC := some { perQCIReportListDu := pqrls } }

def nrcgi (cellReport : CellResourceReport) : NRCGIT where
  pLMNIdentity := (OctetString.ofString cellReport.plmId 3).getValue
  nRCellIdentity :=
    (NrCellId.new cellReport.nrCellId cellReport.beyondNrCellId).getValue

/-- One iteration of the outer loop. -/
def fillCellReport (p : Placement) (cellReport : CellResourceReport) :
    Except Abort CellResourceReportListItemT :=
  match collect (fillServedPlmnCell p)
      (cellReport.servedPlmnPerCellItems.iterate p.served) with
  | .error a => .error a
  | .ok sppcls =>
      .ok
        { nRCGI := nrcgi cellReport
          dlTotalofAvailablePRBs := some cellReport.dlAvailablePrbs
          ulTotalofAvailablePRBs := some cellReport.ulAvailablePrbs
          servedPlmnPerCellList := sppcls }

def fillODuContainer (p : Placement) (values : ODuContainerValues) :
    Except Abort ODUPFContainerT :=
  match collect (fillCellReport p)
      (values.cellResourceReportItems.iterate p.report) with
  | .error a => .error a
  | .ok crrlis => .ok { cellResourceReportList := crrlis }

def fillPmContainer (p : Placement) :
    Option PmContainerValues -> Except Abort PFContainerT
  | some (.cuUp cuUpVal) => .ok (.oCUUP (fillOCuUpContainer cuUpVal))
  | some (.cuCp cuCpVal) => .ok (.oCUCP (fillOCuCpContainer cuCpVal))
  | some (.du duVal) =>
      match fillODuContainer p duVal with
      | .error a => .error a
      | .ok odu => .ok (.oDU odu)
  | some .other => .error .unknownPmContainer
  | none => .error .unknownPmContainer

def fillPerUE (ueIndication : MeasurementItemList) :
    Except Abort PerUEPMItemT :=
  match ueIndication.getId with
  | .error a => .error a
  | .ok ueId =>
      .ok
        { ueId := ueId
          listOfPMInformation :=
            some (ueIndication.getItems.map MeasurementItem.getPointer) }

/-- The list of matched UEs, created when there is an indication. -/
def fillMatchedUEs (p : Placement)
    (ueIndications : RefSet MeasurementItemList) :
    Except Abort (Option (List PerUEPMItemT)) :=
  if ueIndications.refs.length > 0 then
    match collect fillPerUE (ueIndications.iterate p.ue) with
    | .error a => .error a
    | .ok perUEItems => .ok (some perUEItems)
  else
    .ok none

/-- The message that is handed to `Encode`. -/
def fillAndEncodeKpmIndicationMessage (p : Placement)
    (values : KpmIndicationMessageValues PmContainerValues) :
    Except Abort E2smKpmIndicationMessageFormat1T :=
  match fillPmContainer p values.pmContainerValues with
  | .error a => .error a
  | .ok ranContainer =>
      match fillMatchedUEs p values.ueIndications with
      | .error a => .error a
      | .ok matchedUEs =>
          .ok
            { pmContainers := [ranContainer]
              cellObjectID := OctetStringT.ofBytes values.cellObjectId
              listOfPMInformation :=
                values.cellMeasurementItems.map fun l =>
                  l.getItems.map MeasurementItem.getPointer
              listOfMatchedUEs := matchedUEs }

end Kpm
end OranE2
