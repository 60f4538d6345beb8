import OranE2.Subscription.Request

/-!
# Order of the information elements of a subscription request

A subscription request holds its request id, its function id and its details
at most once each.  Every variable of the loop over the elements is then
written by one element at most, so the elements may arrive in any order.
-/

namespace OranE2
namespace Subscription

open Library
open E2ap

inductive IEKind where
  | ricRequestID
  | ranFunctionID
  | ricSubscriptionDetails
  deriving DecidableEq, Repr

def kindOf : RICsubscriptionRequestIEs -> Option IEKind
  | .ricRequestID _ => some .ricRequestID
  | .ranFunctionID _ => some .ranFunctionID
  | .ricSubscriptionDetails _ => some .ricSubscriptionDetails
  | .other _ => none

def OncePerKind (ies : List RICsubscriptionRequestIEs) : Prop :=
  (ies.filterMap kindOf).Nodup

/-!
## The registers of the loop
-/

def requestIdWrite : RICsubscriptionRequestIEs -> Option RICrequestIDT
  | .ricRequestID reqId => some reqId
  | _ => none

def requestorIdWrite (ie : RICsubscriptionRequestIEs) : Option UInt16 :=
  (requestIdWrite ie).map fun reqId => UInt16.ofInt reqId.ricRequestorID

def instanceIdWrite (ie : RICsubscriptionRequestIEs) : Option UInt16 :=
  (requestIdWrite ie).map fun reqId => UInt16.ofInt reqId.ricInstanceID

def functionIdWrite : RICsubscriptionRequestIEs -> Option UInt16
  | .ranFunctionID id => some (UInt16.ofInt id)
  | _ => none

theorem kindOf_requestorIdWrite (ie : RICsubscriptionRequestIEs) (v : UInt16)
    (h : requestorIdWrite ie = some v) :
    kindOf ie = some IEKind.ricRequestID := by
  cases ie <;> first | rfl | cases h

theorem kindOf_instanceIdWrite (ie : RICsubscriptionRequestIEs) (v : UInt16)
    (h : instanceIdWrite ie = some v) :
    kindOf ie = some IEKind.ricRequestID := by
  cases ie <;> first | rfl | cases h

theorem kindOf_functionIdWrite (ie : RICsubscriptionRequestIEs) (v : UInt16)
    (h : functionIdWrite ie = some v) :
    kindOf ie = some IEKind.ranFunctionID := by
  cases ie <;> first | rfl | cases h

theorem kindOf_requestedActionsOf (ie : RICsubscriptionRequestIEs)
    (items : List RICactionToBeSetupItemT)
    (h : requestedActionsOf ie = some items) :
    kindOf ie = some IEKind.ricSubscriptionDetails := by
  cases ie <;> first | rfl | cases h

theorem foldl_processIE_requestorId (ies : List RICsubscriptionRequestIEs)
    (s : RequestLoop) :
    (ies.foldl processIE s).reqRequestorId =
      lastWrite requestorIdWrite s.reqRequestorId ies := by
  apply foldl_register (fun s : RequestLoop => s.reqRequestorId)
  intro s ie
  cases ie <;> rfl

theorem foldl_processIE_instanceId (ies : List RICsubscriptionRequestIEs)
    (s : RequestLoop) :
    (ies.foldl processIE s).reqInstanceId =
      lastWrite instanceIdWrite s.reqInstanceId ies := by
  apply foldl_register (fun s : RequestLoop => s.reqInstanceId)
  intro s ie
  cases ie <;> rfl

theorem foldl_processIE_functionId (ies : List RICsubscriptionRequestIEs)
    (s : RequestLoop) :
    (ies.foldl processIE s).ranFuncionId =
      lastWrite functionIdWrite s.ranFuncionId ies := by
  apply foldl_register (fun s : RequestLoop => s.ranFuncionId)
  intro s ie
  cases ie <;> rfl

/-- The outcome as a function of four registers of the element list. -/
theorem processRicSubscriptionRequest_eq (request : RICsubscriptionRequestT) :
    processRicSubscriptionRequest request =
      { response :=
          { acceptArray :=
              (firstEligible (actionLists request)).map storedActionId
            rejectArray := []
            reqRequestorId :=
              lastWrite requestorIdWrite 0 request.protocolIEs
            reqInstanceId :=
              lastWrite instanceIdWrite 0 request.protocolIEs }
        reqParams :=
          { requestorId := lastWrite requestorIdWrite 0 request.protocolIEs
            instanceId := lastWrite instanceIdWrite 0 request.protocolIEs
            ranFuncionId := lastWrite functionIdWrite 0 request.protocolIEs
            actionId :=
              lastWrite (fun item => some (UInt8.ofInt item.ricActionID)) 0
                (requestedActions request) } } := by
  have hrequestor :=
    foldl_processIE_requestorId request.protocolIEs RequestLoop.start
  have hinstance :=
    foldl_processIE_instanceId request.protocolIEs RequestLoop.start
  have hfunction :=
    foldl_processIE_functionId request.protocolIEs RequestLoop.start
  have haccept := processRicSubscriptionRequest_acceptArray request
  have hreject := processRicSubscriptionRequest_rejectArray request
  have haction := processRicSubscriptionRequest_actionId request
  unfold processRicSubscriptionRequest at haccept hreject haction ⊢
  simp only at haccept hreject haction ⊢
  rw [haccept, hreject, haction, hrequestor, hinstance, hfunction]
  rfl

/-!
## The order does not matter
-/

theorem actionLists_perm {ies ies' : List RICsubscriptionRequestIEs}
    (honce : OncePerKind ies) (hperm : ies.Perm ies') :
    actionLists { protocolIEs := ies } = actionLists { protocolIEs := ies' } :=
  eq_of_perm_of_length_le_one (hperm.filterMap requestedActionsOf)
    (length_writes_le_one kindOf_requestedActionsOf honce)

theorem processRicSubscriptionRequest_perm
    {ies ies' : List RICsubscriptionRequestIEs}
    (honce : OncePerKind ies) (hperm : ies.Perm ies') :
    processRicSubscriptionRequest { protocolIEs := ies' } =
      processRicSubscriptionRequest { protocolIEs := ies } := by
  rw [processRicSubscriptionRequest_eq, processRicSubscriptionRequest_eq]
  unfold requestedActions
  rw [actionLists_perm honce hperm,
    lastWrite_perm hperm
      (length_writes_le_one kindOf_requestorIdWrite honce),
    lastWrite_perm hperm
      (length_writes_le_one kindOf_instanceIdWrite honce),
    lastWrite_perm hperm
      (length_writes_le_one kindOf_functionIdWrite honce)]

/-!
## The ids of the request
-/

theorem toNat_ofInt_of_bounds {i : Int} (hlow : 0 ≤ i) (hhigh : i ≤ 65535) :
    ((UInt16.ofInt i).toNat : Int) = i := by
  unfold UInt16.ofInt
  rw [UInt16.toNat_ofNat_of_lt' (by simp [UInt16.size]; omega)]
  omega

structure ReturnsIdsOf (ies : List RICsubscriptionRequestIEs)
    (reqParams : RicSubscriptionRequestRval) : Prop where
  requestorId : forall reqId, .ricRequestID reqId ∈ ies ->
    0 ≤ reqId.ricRequestorID -> reqId.ricRequestorID ≤ 65535 ->
      (reqParams.requestorId.toNat : Int) = reqId.ricRequestorID
  instanceId : forall reqId, .ricRequestID reqId ∈ ies ->
    0 ≤ reqId.ricInstanceID -> reqId.ricInstanceID ≤ 65535 ->
      (reqParams.instanceId.toNat : Int) = reqId.ricInstanceID
  ranFuncionId : forall id, .ranFunctionID id ∈ ies ->
    0 ≤ id -> id ≤ 4095 -> (reqParams.ranFuncionId.toNat : Int) = id
  missingRequestId : (forall reqId, .ricRequestID reqId ∉ ies) ->
    reqParams.requestorId = 0 ∧ reqParams.instanceId = 0
  missingFunctionId : (forall id, .ranFunctionID id ∉ ies) ->
    reqParams.ranFuncionId = 0

theorem requestIdWrite_silent {ies : List RICsubscriptionRequestIEs}
    (h : forall reqId, .ricRequestID reqId ∉ ies) :
    forall ie, ie ∈ ies -> requestIdWrite ie = none := by
  intro ie hie
  cases ie with
  | ricRequestID reqId => exact absurd hie (h reqId)
  | _ => rfl

theorem functionIdWrite_silent {ies : List RICsubscriptionRequestIEs}
    (h : forall id, .ranFunctionID id ∉ ies) :
    forall ie, ie ∈ ies -> functionIdWrite ie = none := by
  intro ie hie
  cases ie with
  | ranFunctionID id => exact absurd hie (h id)
  | _ => rfl

theorem returnsIdsOf {ies : List RICsubscriptionRequestIEs}
    (honce : OncePerKind ies) :
    ReturnsIdsOf ies
      (processRicSubscriptionRequest { protocolIEs := ies }).reqParams := by
  rw [processRicSubscriptionRequest_eq]
  constructor
  · intro reqId hmem hlow hhigh
    show ((lastWrite requestorIdWrite 0 ies).toNat : Int) = _
    rw [lastWrite_of_mem kindOf_requestorIdWrite honce hmem rfl]
    exact toNat_ofInt_of_bounds hlow hhigh
  · intro reqId hmem hlow hhigh
    show ((lastWrite instanceIdWrite 0 ies).toNat : Int) = _
    rw [lastWrite_of_mem kindOf_instanceIdWrite honce hmem rfl]
    exact toNat_ofInt_of_bounds hlow hhigh
  · intro id hmem hlow hhigh
    show ((lastWrite functionIdWrite 0 ies).toNat : Int) = _
    rw [lastWrite_of_mem kindOf_functionIdWrite honce hmem rfl]
    exact toNat_ofInt_of_bounds hlow (by omega)
  · intro hmissing
    have hsilent := requestIdWrite_silent hmissing
    constructor
    · exact lastWrite_of_silent
        (fun ie hie => by simp [requestorIdWrite, hsilent ie hie]) 0
    · exact lastWrite_of_silent
        (fun ie hie => by simp [instanceIdWrite, hsilent ie hie]) 0
  · intro hmissing
    exact lastWrite_of_silent (functionIdWrite_silent hmissing) 0

theorem subscription_order_irrelevant
    {ies ies' : List RICsubscriptionRequestIEs}
    (honce : OncePerKind ies) (hperm : ies.Perm ies') :
    processRicSubscriptionRequest { protocolIEs := ies' } =
        processRicSubscriptionRequest { protocolIEs := ies } ∧
      ReturnsIdsOf ies
        (processRicSubscriptionRequest { protocolIEs := ies' }).reqParams := by
  have hsame := processRicSubscriptionRequest_perm honce hperm
  refine ⟨hsame, ?_⟩
  rw [hsame]
  exact returnsIdsOf honce

def largestIdsRequest : RICsubscriptionRequestT where
  protocolIEs :=
    [.ricRequestID { ricRequestorID := 65535, ricInstanceID := 65535 },
      .other 7,
      .ranFunctionID 4095,
      .ricSubscriptionDetails
        { ricActionToBeSetupList :=
            [{ ricActionID := 255, ricActionType := .report }] }]

theorem largestIdsRequest_reversed :
    processRicSubscriptionRequest
          { protocolIEs := largestIdsRequest.protocolIEs.reverse } =
        processRicSubscriptionRequest
          { protocolIEs := largestIdsRequest.protocolIEs } ∧
      ReturnsIdsOf largestIdsRequest.protocolIEs
        (processRicSubscriptionRequest
          { protocolIEs :=
              largestIdsRequest.protocolIEs.reverse }).reqParams :=
  subscription_order_irrelevant (show List.Nodup _ by decide)
    (List.reverse_perm _).symm

end Subscription
end OranE2
