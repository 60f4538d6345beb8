import OranE2.Asn1c.RanParameter
import OranE2.E2ap.Types
import OranE2.Library.PartialRun

/-!
# RIC control messages

This module embeds `RicControlMessage`: the constructor, which starts from the
memory that the object happens to occupy, and the decoding loop over the
information elements of a RIC control request.  A result `none` means that the
source follows a null pointer or takes the last character of an empty string.
-/

namespace OranE2
namespace Control

open Library
open E2ap
open Asn1c

/-!
## Decoded structures

The PER decoder is external.  It reports a return code and leaves a structure
behind that may be only partly filled, so every pointer in it may be null.
-/

inductive AsnDecRvalCode where
  | ok
  | wmore
  | fail
  deriving DecidableEq, Repr

/-- The return code of `asn_decode` and the structure it left behind. -/
structure AsnDecRval (decoded : Type) where
  code : AsnDecRvalCode
  decodedStruct : decoded

structure E2SMRCControlHeaderFormat1T where
  ricControlStyleType : Int
  ricControlActionID : Int
  deriving DecidableEq, Repr

inductive E2SMRCControlHeaderT where
  | controlHeaderFormat1 (header : Option E2SMRCControlHeaderFormat1T)
  | other (present : Nat)
  deriving DecidableEq, Repr

structure E2SMRCControlMessageFormat1T where
  ranParametersList : Option (List RANParameterItemT)

inductive E2SMRCControlMessageT where
  | controlMessageFormat1 (message : Option E2SMRCControlMessageFormat1T)
  | other (present : Nat)

/-- `asn_decode` at the two types that the module decodes. -/
structure AsnDecode where
  controlHeader : List UInt8 -> AsnDecRval E2SMRCControlHeaderT
  controlMessage : List UInt8 -> AsnDecRval E2SMRCControlMessageT

def AsnDecode.constant (message : E2SMRCControlMessageT) : AsnDecode where
  controlHeader := fun _ =>
    { code := .ok, decodedStruct := .controlHeaderFormat1 none }
  controlMessage := fun _ => { code := .ok, decodedStruct := message }

def octetStringMessage (bytes : List UInt8) : E2SMRCControlMessageT :=
  .controlMessageFormat1 (some
    { ranParametersList := some
        [.mk 1 (some (.ranParameterElement (some
          { keyFlag := false
            ranParameterValue :=
              .valueOctS (OctetStringT.ofBytes bytes) })))] })

inductive RICcontrolRequestIEs where
  | ricRequestID (id : RICrequestIDT)
  | ranFunctionID (id : Int)
  | ricCallProcessID (id : OctetStringT)
  | ricControlHeader (payload : OctetStringT)
  | ricControlMessage (payload : OctetStringT)
  | ricControlAckRequest (ack : Int)
  | nothing
  | other (present : Nat)
  deriving DecidableEq

structure RICcontrolRequestT where
  protocolIEs : List RICcontrolRequestIEs
  deriving DecidableEq

/-!
## The object
-/

/-- `ControlMessageRequestIdType`; `unnamed` is a bit pattern that is neither
enumerator, as uninitialised memory may hold. -/
inductive ControlMessageRequestIdType where
  | TS
  | QoS
  | unnamed (raw : Int)
  deriving DecidableEq, Repr

/-- A member pointer: null, valid, or whatever uninitialised memory holds. -/
inductive HeaderPointer where
  | null
  | to (header : E2SMRCControlHeaderFormat1T)
  | wild (address : Nat)
  deriving DecidableEq, Repr

@[ext] structure RicControlMessage where
  requestType : ControlMessageRequestIdType
  valuesExtracted : List RANParameterItem
  ranFunctionId : Int
  ricRequestId : RICrequestIDT
  ricCallProcessId : OctetStringT
  e2SmRcControlHeaderFormat1 : HeaderPointer
  secondaryCellId : List UInt8

/-- The members that the constructor does not initialise. -/
structure ObjectLeftover where
  requestType : ControlMessageRequestIdType
  ranFunctionId : Int
  ricRequestId : RICrequestIDT
  ricCallProcessId : OctetStringT
  e2SmRcControlHeaderFormat1 : HeaderPointer
  deriving DecidableEq

def ObjectLeftover.object (leftover : ObjectLeftover) : RicControlMessage where
  requestType := leftover.requestType
  valuesExtracted := []
  ranFunctionId := leftover.ranFunctionId
  ricRequestId := leftover.ricRequestId
  ricCallProcessId := leftover.ricCallProcessId
  e2SmRcControlHeaderFormat1 := leftover.e2SmRcControlHeaderFormat1
  secondaryCellId := []

def zeroedExcept (requestType : ControlMessageRequestIdType) :
    ObjectLeftover where
  requestType := requestType
  ranFunctionId := 0
  ricRequestId := { ricRequestorID := 0, ricInstanceID := 0 }
  ricCallProcessId := OctetStringT.ofBytes []
  e2SmRcControlHeaderFormat1 := HeaderPointer.null

/-- The object under construction, with the leftover memory in which the next
extracted items will be constructed. -/
structure DecodeState where
  message : RicControlMessage
  frames : Nat -> ItemLeftover

/-!
## The decoding loop
-/

def requestTypeOf (ricRequestorID : Int) :
    Option ControlMessageRequestIdType :=
  if ricRequestorID = 1001 then some .TS
  else if ricRequestorID = 1002 then some .QoS
  else none

def extractRANParametersFromControlMessage (frames : Nat -> ItemLeftover)
    (message : E2SMRCControlMessageFormat1T) : Option (List RANParameterItem) :=
  match message.ranParametersList with
  | none => none
  | some items => RANParameterItem.extractRANParametersFromList frames items

/-- One iteration of the loop over the extracted values: the last character of
every octet string replaces the secondary cell id. -/
def scanItem (secondaryCellId : List UInt8) (item : RANParameterItem) :
    Option (List UInt8) :=
  if item.valueType = ValueType.octectString then
    match item.valueStr with
    | none => none
    | some valueStr =>
        match valueStr.decodeContent.getLast? with
        | none => none
        | some c => some [c]
  else
    some secondaryCellId

def decodeFormat1 (s : DecodeState)
    (message : E2SMRCControlMessageFormat1T) : Option DecodeState :=
  match extractRANParametersFromControlMessage s.frames message with
  | none => none
  | some values =>
      let frames := fun k => s.frames (values.length + k)
      if s.message.requestType = ControlMessageRequestIdType.TS then
        match PartialRun.run scanItem s.message.secondaryCellId values with
        | none => none
        | some secondaryCellId =>
            some
              { message :=
                  { s.message with
                    valuesExtracted := values
                    secondaryCellId := secondaryCellId }
                frames := frames }
      else
        some
          { message := { s.message with valuesExtracted := values }
            frames := frames }

def headerPointer : Option E2SMRCControlHeaderFormat1T -> HeaderPointer
  | none => HeaderPointer.null
  | some header => HeaderPointer.to header

/-- One iteration of the loop over the information elements.  The return code
of the decoder is not looked at. -/
def decodeIE (asn : AsnDecode) (s : DecodeState) :
    RICcontrolRequestIEs -> Option DecodeState
  | .ricRequestID id =>
      some { s with
        message :=
          { s.message with
            ricRequestId := id
            requestType :=
              (requestTypeOf id.ricRequestorID).getD s.message.requestType } }
  | .ranFunctionID id =>
      some { s with message := { s.message with ranFunctionId := id } }
  | .ricCallProcessID id =>
      some { s with message := { s.message with ricCallProcessId := id } }
  | .ricControlHeader payload =>
      match (asn.controlHeader payload.octets).decodedStruct with
      | .controlHeaderFormat1 header =>
          some { s with
            message :=
              { s.message with
                e2SmRcControlHeaderFormat1 := headerPointer header } }
      | .other _ => some s
  | .ricControlMessage payload =>
      match (asn.controlMessage payload.octets).decodedStruct with
      | .controlMessageFormat1 none => none
      | .controlMessageFormat1 (some message) => decodeFormat1 s message
      | .other _ => some s
  | .ricControlAckRequest _ => some s
  | .nothing => some s
  | .other _ => some s

def decodeRicControlMessage (asn : AsnDecode) (s : DecodeState)
    (request : RICcontrolRequestT) : Option DecodeState :=
  if request.protocolIEs.length = 0 then
    some s
  else
    PartialRun.run (decodeIE asn) s request.protocolIEs

def RicControlMessage.new (asn : AsnDecode) (leftover : ObjectLeftover)
    (frames : Nat -> ItemLeftover) (request : RICcontrolRequestT) :
    Option RicControlMessage :=
  (decodeRicControlMessage asn
    { message := leftover.object, frames := frames } request).map
      fun s => s.message

def RicControlMessage.getSecondaryCellIdHO (message : RicControlMessage) :
    List UInt8 :=
  message.secondaryCellId

theorem decodeRicControlMessage_eq_run (asn : AsnDecode) (s : DecodeState)
    (request : RICcontrolRequestT) :
    decodeRicControlMessage asn s request =
      PartialRun.run (decodeIE asn) s request.protocolIEs := by
  unfold decodeRicControlMessage
  split
  · rename_i hempty
    rw [List.length_eq_zero_iff.mp hempty]
    rfl
  · rfl

end Control
end OranE2
