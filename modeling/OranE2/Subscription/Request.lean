import OranE2.E2ap.Types
import OranE2.Library.LastWrite

/-!
# RIC subscription requests

This module embeds `E2Termination::ProcessRicSubscriptionRequest`: the loop
over the information elements, the loop over the requested actions inside it,
the subscription response handed to the encoder and the parameters returned to
the caller.  The event trigger definition is left out: the source copies it
only to log one byte of it.
-/

namespace OranE2
namespace Subscription

open Library
open E2ap

structure RICactionToBeSetupItemT where
  ricActionID : Int
  ricActionType : RICactionTypeT
  deriving DecidableEq, Repr

structure RICsubscriptionDetailsT where
  ricActionToBeSetupList : List RICactionToBeSetupItemT
  deriving DecidableEq, Repr

inductive RICsubscriptionRequestIEs where
  | ricRequestID (reqId : RICrequestIDT)
  | ranFunctionID (id : Int)
  | ricSubscriptionDetails (subDetails : RICsubscriptionDetailsT)
  | other (present : Nat)
  deriving DecidableEq, Repr

structure RICsubscriptionRequestT where
  protocolIEs : List RICsubscriptionRequestIEs
  deriving DecidableEq, Repr

structure SubscriptionResponseSuccess where
  acceptArray : List Int
  rejectArray : List Int
  reqRequestorId : UInt16
  reqInstanceId : UInt16
  deriving DecidableEq, Repr

structure RicSubscriptionRequestRval where
  requestorId : UInt16
  instanceId : UInt16
  ranFuncionId : UInt16
  actionId : UInt8
  deriving DecidableEq, Repr

structure SubscriptionOutcome where
  response : SubscriptionResponseSuccess
  reqParams : RicSubscriptionRequestRval
  deriving DecidableEq, Repr

/-!
## The two loops
-/

structure ActionLoop where
  reqActionId : UInt8
  actionIdsAccept : List Int
  actionIdsReject : List Int
  foundAction : Bool
  deriving DecidableEq, Repr

def Eligible (item : RICactionToBeSetupItemT) : Prop :=
  item.ricActionType = RICactionTypeT.report ∨
    item.ricActionType = RICactionTypeT.insert

instance (item : RICactionToBeSetupItemT) : Decidable (Eligible item) :=
  inferInstanceAs (Decidable (_ ∨ _))

def processAction (s : ActionLoop) (item : RICactionToBeSetupItemT) :
    ActionLoop :=
  if s.foundAction = false ∧ Eligible item then
    { s with
      reqActionId := UInt8.ofInt item.ricActionID
      actionIdsAccept :=
        s.actionIdsAccept ++ [((UInt8.ofInt item.ricActionID).toNat : Int)]
      foundAction := true }
  else
    -- The source has the push onto the rejected list commented out here.
    { s with reqActionId := UInt8.ofInt item.ricActionID }

structure RequestLoop where
  reqRequestorId : UInt16
  reqInstanceId : UInt16
  ranFuncionId : UInt16
  reqActionId : UInt8
  actionIdsAccept : List Int
  actionIdsReject : List Int
  deriving DecidableEq, Repr

def RequestLoop.start : RequestLoop where
  reqRequestorId := 0
  reqInstanceId := 0
  ranFuncionId := 0
  reqActionId := 0
  actionIdsAccept := []
  actionIdsReject := []

/-- The action loop of one subscription details element; `foundAction` starts
at false for each of them. -/
def processActionList (s : RequestLoop) (items : List RICactionToBeSetupItemT) :
    ActionLoop :=
  items.foldl processAction
    { reqActionId := s.reqActionId
      actionIdsAccept := s.actionIdsAccept
      actionIdsReject := s.actionIdsReject
      foundAction := false }

def processIE (s : RequestLoop) : RICsubscriptionRequestIEs -> RequestLoop
  | .ricRequestID reqId =>
      { s with
        reqRequestorId := UInt16.ofInt reqId.ricRequestorID
        reqInstanceId := UInt16.ofInt reqId.ricInstanceID }
  | .ranFunctionID id => { s with ranFuncionId := UInt16.ofInt id }
  | .ricSubscriptionDetails subDetails =>
      let inner := processActionList s subDetails.ricActionToBeSetupList
      { s with
        reqActionId := inner.reqActionId
        actionIdsAccept := inner.actionIdsAccept
        actionIdsReject := inner.actionIdsReject }
  | .other _ => s

def processRicSubscriptionRequest (request : RICsubscriptionRequestT) :
    SubscriptionOutcome :=
  let s := request.protocolIEs.foldl processIE RequestLoop.start
  { response :=
      { acceptArray := s.actionIdsAccept
        rejectArray := s.actionIdsReject
        reqRequestorId := s.reqRequestorId
        reqInstanceId := s.reqInstanceId }
    reqParams :=
      { requestorId := s.reqRequestorId
        instanceId := s.reqInstanceId
        ranFuncionId := s.ranFuncionId
        actionId := s.reqActionId } }

/-!
## What was requested

The actions of a request, read off the message without running the loops.
-/

def requestedActionsOf :
    RICsubscriptionRequestIEs -> Option (List RICactionToBeSetupItemT)
  | .ricSubscriptionDetails subDetails => some subDetails.ricActionToBeSetupList
  | _ => none

def actionLists (request : RICsubscriptionRequestT) :
    List (List RICactionToBeSetupItemT) :=
  request.protocolIEs.filterMap requestedActionsOf

def requestedActions (request : RICsubscriptionRequestT) :
    List RICactionToBeSetupItemT :=
  (actionLists request).flatten

/-- The first eligible action of each subscription details element. -/
def firstEligible (lists : List (List RICactionToBeSetupItemT)) :
    List RICactionToBeSetupItemT :=
  lists.filterMap fun items => items.find? fun item => Eligible item

/-- An action id after its passage through the `uint8_t` variable. -/
def storedActionId (item : RICactionToBeSetupItemT) : Int :=
  ((UInt8.ofInt item.ricActionID).toNat : Int)

/-!
## What the loops compute
-/

theorem storedActionId_bounds (item : RICactionToBeSetupItemT) :
    0 ≤ storedActionId item ∧ storedActionId item ≤ 255 := by
  have hlt := (UInt8.ofInt item.ricActionID).toNat_lt
  unfold storedActionId
  omega

theorem storedActionId_of_bounds {item : RICactionToBeSetupItemT}
    (hlow : 0 ≤ item.ricActionID) (hhigh : item.ricActionID ≤ 255) :
    storedActionId item = item.ricActionID := by
  unfold storedActionId UInt8.ofInt
  rw [UInt8.toNat_ofNat_of_lt' (by simp [UInt8.size]; omega)]
  omega

theorem storedActionId_eq_iff (item : RICactionToBeSetupItemT) :
    storedActionId item = item.ricActionID <->
      0 ≤ item.ricActionID ∧ item.ricActionID ≤ 255 := by
  constructor
  · intro h
    have hbounds := storedActionId_bounds item
    omega
  · intro h
    exact storedActionId_of_bounds h.left h.right

theorem processAction_found {s : ActionLoop} (hfound : s.foundAction = true)
    (item : RICactionToBeSetupItemT) :
    processAction s item =
      { s with reqActionId := UInt8.ofInt item.ricActionID } := by
  simp [processAction, hfound]

theorem foldl_processAction_accept (items : List RICactionToBeSetupItemT)
    (s : ActionLoop) :
    (items.foldl processAction s).actionIdsAccept =
      s.actionIdsAccept ++
        (if s.foundAction then []
         else ((items.find? fun item => Eligible item).toList.map
           storedActionId)) := by
  induction items generalizing s with
  | nil => simp
  | cons item items ih =>
      rw [List.foldl_cons, ih]
      cases hfound : s.foundAction with
      | true =>
          rw [processAction_found hfound]
          simp [hfound]
      | false =>
          by_cases hitem : Eligible item
          · simp [processAction, hfound, hitem, storedActionId]
          · simp [processAction, hfound, hitem]

theorem foldl_processAction_reject (items : List RICactionToBeSetupItemT)
    (s : ActionLoop) :
    (items.foldl processAction s).actionIdsReject = s.actionIdsReject := by
  induction items generalizing s with
  | nil => rfl
  | cons item items ih =>
      rw [List.foldl_cons, ih]
      unfold processAction
      split <;> rfl

theorem foldl_processAction_reqActionId
    (items : List RICactionToBeSetupItemT) (s : ActionLoop) :
    (items.foldl processAction s).reqActionId =
      lastWrite (fun item => some (UInt8.ofInt item.ricActionID))
        s.reqActionId items := by
  apply foldl_register (fun s : ActionLoop => s.reqActionId)
  intro s item
  unfold processAction
  split <;> rfl

/-- Every element is treated by the action loop, most of them with no actions
to loop over. -/
theorem processIE_actions (s : RequestLoop) (ie : RICsubscriptionRequestIEs) :
    (processIE s ie).actionIdsAccept =
        (processActionList s
          ((requestedActionsOf ie).getD [])).actionIdsAccept ∧
      (processIE s ie).actionIdsReject =
        (processActionList s
          ((requestedActionsOf ie).getD [])).actionIdsReject ∧
      (processIE s ie).reqActionId =
        (processActionList s
          ((requestedActionsOf ie).getD [])).reqActionId := by
  cases ie with
  | ricSubscriptionDetails subDetails => exact ⟨rfl, rfl, rfl⟩
  | ricRequestID reqId => exact ⟨rfl, rfl, rfl⟩
  | ranFunctionID id => exact ⟨rfl, rfl, rfl⟩
  | other present => exact ⟨rfl, rfl, rfl⟩

theorem actionLists_cons_flatten (ie : RICsubscriptionRequestIEs)
    (ies : List RICsubscriptionRequestIEs) :
    ((ie :: ies).filterMap requestedActionsOf).flatten =
      (requestedActionsOf ie).getD [] ++
        (ies.filterMap requestedActionsOf).flatten := by
  rw [List.filterMap_cons]
  cases requestedActionsOf ie <;> rfl

theorem firstEligible_cons (items : List RICactionToBeSetupItemT)
    (lists : List (List RICactionToBeSetupItemT)) :
    firstEligible (items :: lists) =
      (items.find? fun item => Eligible item).toList ++
        firstEligible lists := by
  unfold firstEligible
  rw [List.filterMap_cons]
  cases items.find? (fun item => Eligible item) <;> rfl

theorem foldl_processIE_accept (ies : List RICsubscriptionRequestIEs)
    (s : RequestLoop) :
    (ies.foldl processIE s).actionIdsAccept =
      s.actionIdsAccept ++
        (firstEligible (ies.filterMap requestedActionsOf)).map
          storedActionId := by
  induction ies generalizing s with
  | nil => exact (List.append_nil _).symm
  | cons ie ies ih =>
      rw [List.foldl_cons, ih, (processIE_actions s ie).left]
      unfold processActionList
      rw [foldl_processAction_accept, List.filterMap_cons]
      cases hactions : requestedActionsOf ie with
      | none => simp
      | some items => simp [firstEligible_cons]

theorem foldl_processIE_reject (ies : List RICsubscriptionRequestIEs)
    (s : RequestLoop) :
    (ies.foldl processIE s).actionIdsReject = s.actionIdsReject := by
  induction ies generalizing s with
  | nil => rfl
  | cons ie ies ih =>
      rw [List.foldl_cons, ih, (processIE_actions s ie).right.left]
      exact foldl_processAction_reject _ _

theorem foldl_processIE_reqActionId (ies : List RICsubscriptionRequestIEs)
    (s : RequestLoop) :
    (ies.foldl processIE s).reqActionId =
      lastWrite (fun item => some (UInt8.ofInt item.ricActionID))
        s.reqActionId (ies.filterMap requestedActionsOf).flatten := by
  induction ies generalizing s with
  | nil => rfl
  | cons ie ies ih =>
      rw [List.foldl_cons, ih, (processIE_actions s ie).right.right,
        actionLists_cons_flatten, lastWrite_append]
      congr 1
      exact foldl_processAction_reqActionId _ _

/-!
## The outcome of a request
-/

theorem processRicSubscriptionRequest_acceptArray
    (request : RICsubscriptionRequestT) :
    (processRicSubscriptionRequest request).response.acceptArray =
      (firstEligible (actionLists request)).map storedActionId :=
  foldl_processIE_accept request.protocolIEs RequestLoop.start

theorem processRicSubscriptionRequest_rejectArray
    (request : RICsubscriptionRequestT) :
    (processRicSubscriptionRequest request).response.rejectArray = [] :=
  foldl_processIE_reject request.protocolIEs RequestLoop.start

theorem processRicSubscriptionRequest_actionId
    (request : RICsubscriptionRequestT) :
    (processRicSubscriptionRequest request).reqParams.actionId =
      lastWrite (fun item => some (UInt8.ofInt item.ricActionID)) 0
        (requestedActions request) :=
  foldl_processIE_reqActionId request.protocolIEs RequestLoop.start

end Subscription
end OranE2
