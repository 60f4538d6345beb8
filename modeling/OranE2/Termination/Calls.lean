import OranE2.Asn1c.OctetString
import OranE2.Subscription.Request

/-!
# The E2 termination

This module embeds `E2Termination` and the callbacks of the interface example
as the calls that they make on the E2 simulator.  The simulator is not part of
the repository: a call is recorded with its arguments.
-/

namespace OranE2
namespace Termination

open Asn1c
open Subscription

structure FunctionDescription where
  buffer : List UInt8
  deriving DecidableEq, Repr

structure RICindication where
  requestorId : UInt16
  instanceId : UInt16
  ranFuncionId : UInt16
  actionId : UInt8
  sequenceNumber : Nat
  header : List UInt8
  message : List UInt8
  deriving DecidableEq, Repr

inductive E2apPdu where
  | subscriptionResponse (response : SubscriptionResponseSuccess)
  | indication (indication : RICindication)
  deriving DecidableEq, Repr

/-- The calls on `m_e2sim`.  Each kind of callback is registered with one
function only. -/
inductive E2SimCall where
  | registerE2sm (ranFunctionId : Int) (rfdBuf : OctetStringT)
  | registerSubscriptionCallback (ranFunctionId : Int)
  | registerSmCallback (ranFunctionId : Int)
  | runLoop (ricAddress : String) (ricPort clientPort : UInt16)
      (gnbId plmnId : String)
  | encodeAndSendSctpData (pdu : E2apPdu)
  deriving DecidableEq

structure E2Termination where
  ricAddress : String
  ricPort : UInt16
  clientPort : UInt16
  gnbId : String
  plmnId : String
  deriving DecidableEq, Repr

def registerFunctionDescToE2Sm (ranFunctionId : Int)
    (ranFunctionDescription : FunctionDescription) : List E2SimCall :=
  let rfdBuf := OctetStringT.ofBytes ranFunctionDescription.buffer
  [.registerE2sm ranFunctionId rfdBuf]

def registerKpmCallbackToE2Sm (ranFunctionId : Int)
    (ranFunctionDescription : FunctionDescription) : List E2SimCall :=
  registerFunctionDescToE2Sm ranFunctionId ranFunctionDescription ++
    [.registerSubscriptionCallback ranFunctionId]

def registerSmCallbackToE2Sm (ranFunctionId : Int)
    (ranFunctionDescription : FunctionDescription) : List E2SimCall :=
  registerFunctionDescToE2Sm ranFunctionId ranFunctionDescription ++
    [.registerSmCallback ranFunctionId]

def E2Termination.loopCall (e2Term : E2Termination) : E2SimCall :=
  .runLoop e2Term.ricAddress e2Term.ricPort e2Term.clientPort e2Term.gnbId
    e2Term.plmnId

def E2Termination.doStart (e2Term : E2Termination) : List E2SimCall :=
  [e2Term.loopCall]

def sendE2Message (pdu : E2apPdu) : List E2SimCall :=
  [.encodeAndSendSctpData pdu]

/-!
## The callbacks of the example
-/

/-- What the constructors of the header and of the message left in their
buffers. -/
structure Report where
  header : List UInt8
  message : List UInt8
  deriving DecidableEq, Repr

def reportIndication (params : RicSubscriptionRequestRval) (report : Report) :
    RICindication where
  requestorId := params.requestorId
  instanceId := params.instanceId
  ranFuncionId := params.ranFuncionId
  actionId := params.actionId
  sequenceNumber := 1
  header := report.header
  message := report.message

def buildAndSendReportMessage (params : RicSubscriptionRequestRval)
    (report : Report) : List E2SimCall :=
  sendE2Message (.indication (reportIndication params report))

/-- `ProcessRicSubscriptionRequest` sends the response before it returns. -/
def kpmSubscriptionCallback (request : RICsubscriptionRequestT)
    (report : Report) : List E2SimCall :=
  let outcome := processRicSubscriptionRequest request
  .encodeAndSendSctpData (.subscriptionResponse outcome.response) ::
    buildAndSendReportMessage outcome.reqParams report

def ricControlMessageCallback : List E2SimCall :=
  []

/-!
## What is sent
-/

def E2SimCall.pdu? : E2SimCall -> Option E2apPdu
  | .encodeAndSendSctpData pdu => some pdu
  | _ => none

def sentPdus (calls : List E2SimCall) : List E2apPdu :=
  calls.filterMap E2SimCall.pdu?

theorem sentPdus_append (calls calls' : List E2SimCall) :
    sentPdus (calls ++ calls') = sentPdus calls ++ sentPdus calls' :=
  List.filterMap_append

end Termination
end OranE2
