import OranE2.Helper.Base

/-!
# LTE indication message helpers

The operations of `LteIndicationMessageHelper`.
-/

namespace OranE2
namespace Helper

open Asn1c
open Kpm

namespace LteIndicationMessageHelper

/-- The constructor refuses one type, after the base constructor has run. -/
def new (type : IndicationMessageType) (isOffline reducedPmValues : Bool) :
    Outcome :=
  let h := IndicationMessageHelper.new type isOffline reducedPmValues
  if type = .du then
    .aborted "Wrong type for LTE Indication Message, expected CuUp or CuCp" h
  else
    .completed h

def addCuUpUePmItem (h : IndicationMessageHelper)
    (ueImsiComplete : List UInt8) (txBytes txDlPackets : Int)
    (pdcpThroughput pdcpLatency : Double) : Outcome :=
  let ueVal := MeasurementItemList.ofId ueImsiComplete
  let ueVal :=
    if h.reducedPmValues then
      ueVal
    else
      ueVal.addItems
        [(literal "DRB.PdcpSduVolumeDl_Filter.UEID", .valueInt txBytes),
          (literal "Tot.PdcpSduNbrDl.UEID", .valueInt txDlPackets),
          (literal "DRB.PdcpSduBitRateDl.UEID", .valueReal pdcpThroughput),
          (literal "DRB.PdcpSduDelayDl.UEID", .valueReal pdcpLatency)]
  .completed (h.insertUe ueVal)

def addCuUpCellPmItem (h : IndicationMessageHelper)
    (cellAverageLatency : Double) : Outcome :=
  if h.reducedPmValues then
    .completed h
  else
    let cellVal := MeasurementItemList.new.addItem
      (literal "DRB.PdcpSduDelayDl") (.valueReal cellAverageLatency)
    .completed (h.setCell cellVal)

/-- The container is written before the guard of the base class. -/
def fillCuUpValues (h : IndicationMessageHelper) (plmId : StdString)
    (pdcpBytesUl pdcpBytesDl : Int) : Outcome :=
  match h.cuUpValues with
  | none => .fault
  | some cuUpValues =>
      IndicationMessageHelper.fillBaseCuUpValues
        { h with
          cuUpValues := some
            { cuUpValues with
              pDCPBytesUL := pdcpBytesUl
              pDCPBytesDL := pdcpBytesDl } }
        plmId

def fillCuCpValues (h : IndicationMessageHelper) (numActiveUes : UInt16) :
    Outcome :=
  h.fillBaseCuCpValues numActiveUes

def addCuCpUePmItem (h : IndicationMessageHelper)
    (ueImsiComplete : List UInt8) (numDrb drbRelAct : Int) : Outcome :=
  let ueVal := MeasurementItemList.ofId ueImsiComplete
  let ueVal :=
    if h.reducedPmValues then
      ueVal
    else
      ueVal.addItems
        [(literal "DRB.EstabSucc.5QI.UEID", .valueInt numDrb),
          (literal "DRB.RelActNbr.5QI.UEID", .valueInt drbRelAct)]
  .completed (h.insertUe ueVal)

end LteIndicationMessageHelper

end Helper
end OranE2
