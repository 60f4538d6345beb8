import OranE2.Helper.Base

/-!
# mmWave indication message helpers

The operations of `MmWaveIndicationMessageHelper`.  Two of them round a value
up with `std::ceil` and convert the result to `long`; the rounding of the
floating point arithmetic is a parameter.
-/

namespace OranE2
namespace Helper

open Library
open Asn1c
open Kpm

/-- `(long) std::ceil` of a `long`, which passes through `double`, and of a
`double`. -/
structure Ceiling where
  ofLong : Int -> Int
  ofDouble : Double -> Int

structure DuUeMeasurements where
  macPduUe : Int
  macPduInitialUe : Int
  macQpsk : Int
  mac16Qam : Int
  mac64Qam : Int
  macRetx : Int
  macVolume : Int
  macPrb : Int
  macMac04 : Int
  macMac59 : Int
  macMac1014 : Int
  macMac1519 : Int
  macMac2024 : Int
  macMac2529 : Int
  macSinrBin1 : Int
  macSinrBin2 : Int
  macSinrBin3 : Int
  macSinrBin4 : Int
  macSinrBin5 : Int
  macSinrBin6 : Int
  macSinrBin7 : Int
  rlcBufferOccup : Int
  drbThrDlUeid : Double
  deriving DecidableEq, Repr

structure DuCellMeasurements where
  macPduCellSpecific : Int
  macPduInitialCellSpecific : Int
  macQpskCellSpecific : Int
  mac16QamCellSpecific : Int
  mac64QamCellSpecific : Int
  prbUtilizationDl : Double
  macRetxCellSpecific : Int
  macVolumeCellSpecific : Int
  macMac04CellSpecific : Int
  macMac59CellSpecific : Int
  macMac1014CellSpecific : Int
  macMac1519CellSpecific : Int
  macMac2024CellSpecific : Int
  macMac2529CellSpecific : Int
  macSinrBin1CellSpecific : Int
  macSinrBin2CellSpecific : Int
  macSinrBin3CellSpecific : Int
  macSinrBin4CellSpecific : Int
  macSinrBin5CellSpecific : Int
  macSinrBin6CellSpecific : Int
  macSinrBin7CellSpecific : Int
  rlcBufferOccupCellSpecific : Int
  activeUeDl : Int
  deriving DecidableEq, Repr

namespace MmWaveIndicationMessageHelper

def new (type : IndicationMessageType) (isOffline reducedPmValues : Bool) :
    Outcome :=
  .completed (IndicationMessageHelper.new type isOffline reducedPmValues)

def addCuUpUePmItem (h : IndicationMessageHelper)
    (ueImsiComplete : List UInt8)
    (txPdcpPduBytesNrRlc txPdcpPduNrRlc : Int) : Outcome :=
  let ueVal := MeasurementItemList.ofId ueImsiComplete
  let ueVal :=
    if h.reducedPmValues then
      ueVal
    else
      ueVal.addItems
        [(literal "QosFlow.PdcpPduVolumeDL_Filter.UEID",
            .valueInt txPdcpPduBytesNrRlc),
          (literal "DRB.PdcpPduNbrDl.Qos.UEID", .valueInt txPdcpPduNrRlc)]
  .completed (h.insertUe ueVal)

def fillCuUpValues (h : IndicationMessageHelper) (plmId : StdString) :
    Outcome :=
  h.fillBaseCuUpValues plmId

def fillCuCpValues (h : IndicationMessageHelper) (numActiveUes : UInt16) :
    Outcome :=
  h.fillBaseCuCpValues numActiveUes

/-- The container pointer is copied as it is, null or not. -/
def fillDuValues (h : IndicationMessageHelper) (cellObjectId : List UInt8) :
    Outcome :=
  .completed
    { h with
      msgValues :=
        { h.msgValues with
          cellObjectId := cellObjectId
          pmContainerValues :=
            h.duValues.map fun _ => IndicationMessageType.du } }

def duUeFullItems (ceil : Ceiling) (m : DuUeMeasurements) :
    List (List UInt8 × MeasurementValue) :=
  [(literal "TB.TotNbrDl.1.UEID", .valueInt m.macPduUe),
    (literal "TB.TotNbrDlInitial.UEID", .valueInt m.macPduInitialUe),
    (literal "TB.TotNbrDlInitial.Qpsk.UEID", .valueInt m.macQpsk),
    (literal "TB.TotNbrDlInitial.16Qam.UEID", .valueInt m.mac16Qam),
    (literal "TB.TotNbrDlInitial.64Qam.UEID", .valueInt m.mac64Qam),
    (literal "TB.ErrTotalNbrDl.1.UEID", .valueInt m.macRetx),
    (literal "QosFlow.PdcpPduVolumeDL_Filter.UEID", .valueInt m.macVolume),
    (literal "RRU.PrbUsedDl.UEID", .valueInt (ceil.ofLong m.macPrb)),
    (literal "CARR.PDSCHMCSDist.Bin1.UEID", .valueInt m.macMac04),
    (literal "CARR.PDSCHMCSDist.Bin2.UEID", .valueInt m.macMac59),
    (literal "CARR.PDSCHMCSDist.Bin3.UEID", .valueInt m.macMac1014),
    (literal "CARR.PDSCHMCSDist.Bin4.UEID", .valueInt m.macMac1519),
    (literal "CARR.PDSCHMCSDist.Bin5.UEID", .valueInt m.macMac2024),
    (literal "CARR.PDSCHMCSDist.Bin6.UEID", .valueInt m.macMac2529),
    (literal "L1M.RS-SINR.Bin34.UEID", .valueInt m.macSinrBin1),
    (literal "L1M.RS-SINR.Bin46.UEID", .valueInt m.macSinrBin2),
    (literal "L1M.RS-SINR.Bin58.UEID", .valueInt m.macSinrBin3),
    (literal "L1M.RS-SINR.Bin70.UEID", .valueInt m.macSinrBin4),
    (literal "L1M.RS-SINR.Bin82.UEID", .valueInt m.macSinrBin5),
    (literal "L1M.RS-SINR.Bin94.UEID", .valueInt m.macSinrBin6),
    (literal "L1M.RS-SINR.Bin127.UEID", .valueInt m.macSinrBin7),
    (literal "DRB.BufferSize.Qos.UEID", .valueInt m.rlcBufferOccup)]

def addDuUePmItem (ceil : Ceiling) (h : IndicationMessageHelper)
    (ueImsiComplete : List UInt8) (m : DuUeMeasurements) : Outcome :=
  let ueVal := MeasurementItemList.ofId ueImsiComplete
  let ueVal :=
    if h.reducedPmValues then ueVal
    else ueVal.addItems (duUeFullItems ceil m)
  let ueVal := ueVal.addItem (literal "DRB.UEThpDl.UEID")
    (.valueReal m.drbThrDlUeid)
  .completed (h.insertUe ueVal)

def duCellFullTotals (m : DuCellMeasurements) :
    List (List UInt8 × MeasurementValue) :=
  [(literal "TB.TotNbrDl.1", .valueInt m.macPduCellSpecific),
    (literal "TB.TotNbrDlInitial", .valueInt m.macPduInitialCellSpecific)]

def duCellFullItems (m : DuCellMeasurements) :
    List (List UInt8 × MeasurementValue) :=
  [(literal "TB.ErrTotalNbrDl.1", .valueInt m.macRetxCellSpecific),
    (literal "QosFlow.PdcpPduVolumeDL_Filter",
      .valueInt m.macVolumeCellSpecific),
    (literal "CARR.PDSCHMCSDist.Bin1", .valueInt m.macMac04CellSpecific),
    (literal "CARR.PDSCHMCSDist.Bin2", .valueInt m.macMac59CellSpecific),
    (literal "CARR.PDSCHMCSDist.Bin3", .valueInt m.macMac1014CellSpecific),
    (literal "CARR.PDSCHMCSDist.Bin4", .valueInt m.macMac1519CellSpecific),
    (literal "CARR.PDSCHMCSDist.Bin5", .valueInt m.macMac2024CellSpecific),
    (literal "CARR.PDSCHMCSDist.Bin6", .valueInt m.macMac2529CellSpecific),
    (literal "L1M.RS-SINR.Bin34", .valueInt m.macSinrBin1CellSpecific),
    (literal "L1M.RS-SINR.Bin46", .valueInt m.macSinrBin2CellSpecific),
    (literal "L1M.RS-SINR.Bin58", .valueInt m.macSinrBin3CellSpecific),
    (literal "L1M.RS-SINR.Bin70", .valueInt m.macSinrBin4CellSpecific),
    (literal "L1M.RS-SINR.Bin82", .valueInt m.macSinrBin5CellSpecific),
    (literal "L1M.RS-SINR.Bin94", .valueInt m.macSinrBin6CellSpecific),
    (literal "L1M.RS-SINR.Bin127", .valueInt m.macSinrBin7CellSpecific),
    (literal "DRB.BufferSize.Qos", .valueInt m.rlcBufferOccupCellSpecific)]

def addDuCellPmItem (ceil : Ceiling) (h : IndicationMessageHelper)
    (m : DuCellMeasurements) : Outcome :=
  let cellVal := MeasurementItemList.new
  let cellVal :=
    if h.reducedPmValues then cellVal
    else cellVal.addItems (duCellFullTotals m)
  let cellVal := cellVal.addItems
    [(literal "TB.TotNbrDlInitial.Qpsk", .valueInt m.macQpskCellSpecific),
      (literal "TB.TotNbrDlInitial.16Qam", .valueInt m.mac16QamCellSpecific),
      (literal "TB.TotNbrDlInitial.64Qam", .valueInt m.mac64QamCellSpecific),
      (literal "RRU.PrbUsedDl", .valueInt (ceil.ofDouble m.prbUtilizationDl))]
  let cellVal :=
    if h.reducedPmValues then cellVal
    else cellVal.addItems (duCellFullItems m)
  let cellVal := cellVal.addItem (literal "DRB.MeanActiveUeDl")
    (.valueInt m.activeUeDl)
  .completed (h.setCell cellVal)

/-- The container is written without a guard. -/
def addDuCellResRepPmItem (h : IndicationMessageHelper)
    (cellResRep : Ref CellResourceReport) : Outcome :=
  match h.duValues with
  | none => .fault
  | some duValues =>
      .completed
        { h with
          duValues := some
            { duValues with
              cellResourceReportItems :=
                duValues.cellResourceReportItems.insert cellResRep } }

def addCuCpUePmItem (h : IndicationMessageHelper)
    (ueImsiComplete : List UInt8) (numDrb drbRelAct : Int)
    (l3RrcMeasurementServing l3RrcMeasurementNeigh : Ref L3RrcTree) :
    Outcome :=
  let ueVal := MeasurementItemList.ofId ueImsiComplete
  let ueVal :=
    if h.reducedPmValues then
      ueVal
    else
      ueVal.addItems
        [(literal "DRB.EstabSucc.5QI.UEID", .valueInt numDrb),
          (literal "DRB.RelActNbr.5QI.UEID", .valueInt drbRelAct)]
  let ueVal := ueVal.addItems
    [(literal "HO.SrcCellQual.RS-SINR.UEID",
        .valueRRC l3RrcMeasurementServing),
      (literal "HO.TrgtCellQual.RS-SINR.UEID",
        .valueRRC l3RrcMeasurementNeigh)]
  .completed (h.insertUe ueVal)

end MmWaveIndicationMessageHelper

end Helper
end OranE2
