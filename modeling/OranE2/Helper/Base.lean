import OranE2.Kpm.Message

/-!
# Indication message helpers

This module embeds the base class `IndicationMessageHelper`: the containers its
constructor allocates, the two guarded fill functions and the creation of the
message.  A null container pointer is never followed here without a fault.
-/

namespace OranE2
namespace Helper

open Library
open Asn1c
open Kpm

inductive IndicationMessageType where
  | cuCp
  | cuUp
  | du
  deriving DecidableEq, Repr

def literal (text : String) : List UInt8 :=
  text.toList.map fun c => UInt8.ofNat c.toNat

/-- The message values point to the container of the helper itself, of the type
given. -/
structure IndicationMessageHelper where
  type : IndicationMessageType
  offline : Bool
  reducedPmValues : Bool
  msgValues : KpmIndicationMessageValues IndicationMessageType
  cuUpValues : Option OCuUpContainerValues
  cuCpValues : Option OCuCpContainerValues
  duValues : Option ODuContainerValues

/-- How a call ends: it returns, it stops at an `NS_ABORT_MSG_IF`, or it
follows a null pointer. -/
inductive Outcome where
  | completed (h : IndicationMessageHelper)
  | aborted (message : String) (h : IndicationMessageHelper)
  | fault

def Outcome.helper? : Outcome -> Option IndicationMessageHelper
  | .completed h => some h
  | .aborted _ _ => none
  | .fault => none

namespace IndicationMessageHelper

/-- The constructor; `Create` initialises the members of a container to
zero. -/
def new (type : IndicationMessageType) (isOffline reducedPmValues : Bool) :
    IndicationMessageHelper :=
  let h : IndicationMessageHelper :=
    { type := type
      offline := isOffline
      reducedPmValues := reducedPmValues
      msgValues :=
        { cellObjectId := []
          pmContainerValues := none
          cellMeasurementItems := none
          ueIndications := RefSet.empty }
      cuUpValues := none
      cuCpValues := none
      duValues := none }
  if isOffline then
    h
  else
    match type with
    | .cuUp =>
        { h with
          cuUpValues := some
            { plmId := StdString.ofBytes []
              pDCPBytesUL := 0
              pDCPBytesDL := 0 } }
    | .cuCp =>
        { h with
          cuCpValues := some { numActiveUes := 0 }
          msgValues :=
            { h.msgValues with cellObjectId := literal "NRCellCU" } }
    | .du =>
        { h with
          duValues := some { cellResourceReportItems := RefSet.empty } }

def fillBaseCuUpValues (h : IndicationMessageHelper) (plmId : StdString) :
    Outcome :=
  if h.type ≠ .cuUp then
    .aborted "Wrong function for this object" h
  else
    match h.cuUpValues with
    | none => .fault
    | some cuUpValues =>
        .completed
          { h with
            cuUpValues := some { cuUpValues with plmId := plmId }
            msgValues :=
              { h.msgValues with pmContainerValues := some .cuUp } }

def fillBaseCuCpValues (h : IndicationMessageHelper)
    (numActiveUes : UInt16) : Outcome :=
  if h.type ≠ .cuCp then
    .aborted "Wrong function for this object" h
  else
    match h.cuCpValues with
    | none => .fault
    | some cuCpValues =>
        .completed
          { h with
            cuCpValues := some { cuCpValues with numActiveUes := numActiveUes }
            msgValues :=
              { h.msgValues with pmContainerValues := some .cuCp } }

def insertUe (h : IndicationMessageHelper) (ueVal : MeasurementItemList) :
    IndicationMessageHelper :=
  { h with
    msgValues :=
      { h.msgValues with
        ueIndications := h.msgValues.ueIndications.insertNew ueVal } }

def setCell (h : IndicationMessageHelper) (cellVal : MeasurementItemList) :
    IndicationMessageHelper :=
  { h with
    msgValues := { h.msgValues with cellMeasurementItems := some cellVal } }

/-- The container that a pointer of the message values leads to. -/
def container (h : IndicationMessageHelper) :
    IndicationMessageType -> Option PmContainerValues
  | .cuUp => h.cuUpValues.map PmContainerValues.cuUp
  | .cuCp => h.cuCpValues.map PmContainerValues.cuCp
  | .du => h.duValues.map PmContainerValues.du

def values (h : IndicationMessageHelper) :
    KpmIndicationMessageValues PmContainerValues where
  cellObjectId := h.msgValues.cellObjectId
  pmContainerValues := h.msgValues.pmContainerValues.bind h.container
  cellMeasurementItems := h.msgValues.cellMeasurementItems
  ueIndications := h.msgValues.ueIndications

/-- What `CreateIndicationMessage` hands to the encoder. -/
def createIndicationMessage (p : Placement) (h : IndicationMessageHelper) :
    Except Abort E2smKpmIndicationMessageFormat1T :=
  fillAndEncodeKpmIndicationMessage p h.values

end IndicationMessageHelper

end Helper
end OranE2
