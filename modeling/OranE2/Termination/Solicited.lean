import Mathlib.Data.List.Nodup
import OranE2.Subscription.Admission
import OranE2.Termination.Session

/-!
# Solicited indications

An indication of a loop is solicited when a loop has told the RIC before, under
the same request id, that its action is admitted.  A callback reports under the id of
the last requested action, so this depends on the requests.
-/

namespace OranE2
namespace Termination

open Library
open PartialRun
open Interleaving
open Subscription

def SessionEvent.request? : SessionEvent -> Option Delivery
  | .receiveSubscription _ _ request report =>
      some { request := request, report := report }
  | _ => none

def deliveries (events : List SessionEvent) : List Delivery :=
  events.filterMap SessionEvent.request?

/-- The RIC request id, as it is stored. -/
def Delivery.requestId (d : Delivery) : UInt16 × UInt16 :=
  (d.response.reqRequestorId, d.response.reqInstanceId)

theorem SessionEvent.request?_eq_some_iff {e : SessionEvent} {d : Delivery} :
    e.request? = some d <-> exists k, e.delivery? k = some d := by
  constructor
  · intro h
    cases e with
    | receiveSubscription k id request report =>
        exact ⟨k, (if_pos rfl).trans h⟩
    | registerKpmCallback id description => cases h
    | registerSmCallback id description => cases h
    | start k => cases h
    | sendE2Message pdu => cases h
    | receiveControl k id => cases h
    | issue t => cases h
  · intro h
    rcases h with ⟨k, hk⟩
    cases e with
    | receiveSubscription k' id request report =>
        unfold SessionEvent.delivery? at hk
        dsimp only at hk
        split at hk
        · exact hk
        · cases hk
    | registerKpmCallback id description => cases hk
    | registerSmCallback id description => cases hk
    | start k' => cases hk
    | sendE2Message pdu => cases hk
    | receiveControl k' id => cases hk
    | issue t => cases hk

theorem mem_deliveries_iff {events : List SessionEvent} {d : Delivery} :
    d ∈ deliveries events <-> exists k, d ∈ deliveriesTo k events := by
  constructor
  · intro h
    rcases List.mem_filterMap.mp h with ⟨e, he, hd⟩
    rcases SessionEvent.request?_eq_some_iff.mp hd with ⟨k, hk⟩
    exact ⟨k, List.mem_filterMap.mpr ⟨e, he, hk⟩⟩
  · intro h
    rcases h with ⟨k, hk⟩
    rcases List.mem_filterMap.mp hk with ⟨e, he, hd⟩
    exact List.mem_filterMap.mpr
      ⟨e, he, SessionEvent.request?_eq_some_iff.mpr ⟨k, hd⟩⟩

theorem mem_deliveries {k : Nat} {events : List SessionEvent} {d : Delivery}
    (h : d ∈ deliveriesTo k events) : d ∈ deliveries events :=
  mem_deliveries_iff.mpr ⟨k, h⟩

section

variable {e2Term : E2Termination} {dispatch : Dispatch}
variable {events : List SessionEvent} {s : Session}

theorem answer_of_log (h : e2Term.session dispatch events = some s) {k : Nat}
    {pdu : E2apPdu} {pre post : List (Thread × E2SimCall)}
    (hlog : s.log =
      pre ++ (.reception k, .encodeAndSendSctpData pdu) :: post) :
    exists d, d ∈ deliveriesTo k events ∧
      (pdu = .subscriptionResponse d.response ∨
        pdu = .indication d.indication ∧
          (.reception k,
            .encodeAndSendSctpData (.subscriptionResponse d.response)) ∈
              pre) := by
  rcases exists_block_of_log (run_of_guarded h) hlog with
    ⟨done, front, back, later, hblocks, hpre⟩
  have hmem : front ++ .encodeAndSendSctpData pdu :: back ∈
      blocksOf (.reception k) (events.map e2Term.threadEvent) := by
    rw [hblocks]
    exact List.mem_append_right _ List.mem_cons_self
  rcases block_answers hmem with hnone | ⟨d, hd, hcalls⟩
  · have hsent : pdu ∈ sentPdus (front ++ .encodeAndSendSctpData pdu :: back) :=
      List.mem_filterMap.mpr
        ⟨_, List.mem_append_right front List.mem_cons_self, rfl⟩
    rw [hnone] at hsent
    cases hsent
  · refine ⟨d, hd, ?_⟩
    rcases front with _ | ⟨first, rest⟩
    · injection hcalls with hfirst _
      exact Or.inl (E2SimCall.encodeAndSendSctpData.inj hfirst)
    · injection hcalls with hfirst hrest
      apply Or.inr
      constructor
      · rcases rest with _ | ⟨second, others⟩
        · injection hrest with hsecond _
          exact E2SimCall.encodeAndSendSctpData.inj hsecond
        · injection hrest with _ hothers
          cases others <;> cases hothers
      · apply mem_callsOf.mp
        rw [hpre, hfirst]
        exact List.mem_append_right _ List.mem_cons_self

/-!
## Admitted actions
-/

/-- The last requested action has the stored id of the first eligible action
of one of the subscription details elements. -/
def ReportsAdmitted (request : RICsubscriptionRequestT) : Prop :=
  exists last admitted,
    (requestedActions request).getLast? = some last ∧
      admitted ∈ firstEligible (actionLists request) ∧
      storedActionId last = storedActionId admitted

theorem actionId_admitted_iff (request : RICsubscriptionRequestT) :
    (((processRicSubscriptionRequest request).reqParams.actionId.toNat : Nat)
        : Int) ∈ (processRicSubscriptionRequest request).response.acceptArray <->
      ReportsAdmitted request := by
  rw [processRicSubscriptionRequest_acceptArray]
  constructor
  · intro h
    rcases List.mem_map.mp h with ⟨admitted, hadmitted, hid⟩
    have hrequested := mem_requestedActions_of_firstEligible hadmitted
    rcases Option.isSome_iff_exists.mp (List.getLast?_isSome.mpr
      (List.ne_nil_of_mem hrequested)) with ⟨last, hlast⟩
    rw [actionId_of_getLast hlast] at hid
    exact ⟨last, admitted, hlast, hadmitted, hid.symm⟩
  · intro h
    rcases h with ⟨last, admitted, hlast, hadmitted, hid⟩
    rw [actionId_of_getLast hlast, hid]
    exact List.mem_map_of_mem hadmitted

/-- A loop has told the RIC under a request id that an action is admitted. -/
def Admitted (log : List (Thread × E2SimCall)) (requestId : UInt16 × UInt16)
    (actionId : UInt8) : Prop :=
  exists k response,
    (.reception k, .encodeAndSendSctpData (.subscriptionResponse response)) ∈
        log ∧
      (response.reqRequestorId, response.reqInstanceId) = requestId ∧
      ((actionId.toNat : Nat) : Int) ∈ response.acceptArray

/-- Every indication of a loop is for an action that a loop has admitted.  The
indications that the simulation sends of its own are left out. -/
def Solicited (log : List (Thread × E2SimCall)) : Prop :=
  forall pre k indication post,
    log = pre ++
        (.reception k, .encodeAndSendSctpData (.indication indication)) :: post ->
      Admitted pre (indication.requestorId, indication.instanceId)
        indication.actionId

def Reported (s : Session) (d : Delivery) : Prop :=
  exists k, (.reception k, .encodeAndSendSctpData (.indication d.indication)) ∈
    s.log

theorem admitted_iff_of_distinct (h : e2Term.session dispatch events = some s)
    (hdistinct : ((deliveries events).map Delivery.requestId).Nodup)
    {pre post : List (Thread × E2SimCall)} (hlog : s.log = pre ++ post)
    {d : Delivery} (hd : d ∈ deliveries events) {k : Nat}
    (hresponse : (.reception k, .encodeAndSendSctpData
      (.subscriptionResponse d.response)) ∈ pre) :
    Admitted pre d.requestId d.indication.actionId <->
      ReportsAdmitted d.request := by
  rw [← actionId_admitted_iff]
  constructor
  · intro hadmitted
    rcases hadmitted with ⟨k', response, hmem, hid, haction⟩
    rcases List.append_of_mem hmem with ⟨front, back, hsplit⟩
    rw [hsplit, List.append_assoc, List.cons_append] at hlog
    rcases answer_of_log h hlog with ⟨d', hd', hanswer⟩
    have hsame : response = d'.response := by
      rcases hanswer with heq | ⟨heq, _⟩
      · exact E2apPdu.subscriptionResponse.inj heq
      · cases heq
    rw [hsame] at hid haction
    have heq : d' = d :=
      List.inj_on_of_nodup_map hdistinct (mem_deliveries hd') hd hid
    rw [heq] at haction
    exact haction
  · intro haction
    exact ⟨k, d.response, hresponse, rfl, haction⟩

theorem indications_solicited_iff (h : e2Term.session dispatch events = some s)
    (hdistinct : ((deliveries events).map Delivery.requestId).Nodup) :
    Solicited s.log <->
      forall d, d ∈ deliveries events -> Reported s d ->
        ReportsAdmitted d.request := by
  constructor
  · intro hsolicited d hd hreported
    rcases hreported with ⟨k, hmem⟩
    rcases List.append_of_mem hmem with ⟨pre, post, hlog⟩
    rcases answer_of_log h hlog with ⟨d', hd', hanswer⟩
    rcases hanswer with heq | ⟨heq, hresponse⟩
    · cases heq
    · have hindication := E2apPdu.indication.inj heq
      have hid : d.requestId = d'.requestId :=
        congrArg (fun i : RICindication => (i.requestorId, i.instanceId))
          hindication
      have hsame : d = d' :=
        List.inj_on_of_nodup_map hdistinct hd (mem_deliveries hd') hid
      rw [← hsame] at hresponse
      exact (admitted_iff_of_distinct h hdistinct hlog hd hresponse).mp
        (hsolicited pre k d.indication post hlog)
  · intro hall pre k indication post hlog
    rcases answer_of_log h hlog with ⟨d, hd, hanswer⟩
    rcases hanswer with heq | ⟨heq, hresponse⟩
    · cases heq
    · have hindication := E2apPdu.indication.inj heq
      have hreported : Reported s d := by
        refine ⟨k, ?_⟩
        rw [hlog, hindication]
        exact List.mem_append_right _ List.mem_cons_self
      rw [hindication]
      exact (admitted_iff_of_distinct h hdistinct hlog (mem_deliveries hd)
        hresponse).mpr (hall d (mem_deliveries hd) hreported)

end

theorem interfaceExample_solicited_iff :
    exists s, exampleSession interfaceExample = some s ∧
      (Solicited s.log <->
        forall d, d ∈ deliveries interfaceExample -> Reported s d ->
          ReportsAdmitted d.request) := by
  have hruns : (exampleSession interfaceExample).isSome = true := by
    decide
  rcases Option.isSome_iff_exists.mp hruns with ⟨s, hs⟩
  exact ⟨s, hs, indications_solicited_iff hs (by decide)⟩

end Termination
end OranE2
