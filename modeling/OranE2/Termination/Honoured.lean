import OranE2.Termination.Solicited

/-!
# Honoured admissions

The other direction: an admission is honoured when a loop sends an indication
for the admitted action under the same request id.  A callback sends one
indication, however many actions the response admits.
-/

namespace OranE2
namespace Termination

open Library
open Interleaving
open Subscription

/-- A loop has sent an indication for an action under a request id.  What the
simulation sends of its own does not count. -/
def Indicated (log : List (Thread × E2SimCall)) (requestId : UInt16 × UInt16)
    (actionId : Int) : Prop :=
  exists k indication,
    (.reception k, .encodeAndSendSctpData (.indication indication)) ∈ log ∧
      (indication.requestorId, indication.instanceId) = requestId ∧
      ((indication.actionId.toNat : Nat) : Int) = actionId

/-- Every action that a loop has told the RIC is admitted is reported by a
loop. -/
def Honoured (log : List (Thread × E2SimCall)) : Prop :=
  forall k response,
    (.reception k, .encodeAndSendSctpData (.subscriptionResponse response)) ∈
        log ->
      forall id, id ∈ response.acceptArray ->
        Indicated log (response.reqRequestorId, response.reqInstanceId) id

/-- The last requested action has the stored id of the first eligible action
of each of the subscription details elements. -/
def ReportsEveryAdmitted (request : RICsubscriptionRequestT) : Prop :=
  forall admitted, admitted ∈ firstEligible (actionLists request) ->
    exists last, (requestedActions request).getLast? = some last ∧
      storedActionId last = storedActionId admitted

theorem actionId_eq_iff {request : RICsubscriptionRequestT}
    {admitted : RICactionToBeSetupItemT}
    (hadmitted : admitted ∈ firstEligible (actionLists request)) :
    (((processRicSubscriptionRequest request).reqParams.actionId.toNat : Nat)
        : Int) = storedActionId admitted <->
      exists last, (requestedActions request).getLast? = some last ∧
        storedActionId last = storedActionId admitted := by
  constructor
  · intro hid
    rcases Option.isSome_iff_exists.mp (List.getLast?_isSome.mpr
      (List.ne_nil_of_mem (mem_requestedActions_of_firstEligible hadmitted)))
      with ⟨last, hlast⟩
    rw [actionId_of_getLast hlast] at hid
    exact ⟨last, hlast, hid⟩
  · intro h
    rcases h with ⟨last, hlast, hid⟩
    rw [actionId_of_getLast hlast, hid]

section

variable {e2Term : E2Termination} {dispatch : Dispatch}
variable {events : List SessionEvent} {s : Session}

theorem answers_in_log (h : e2Term.session dispatch events = some s) {k : Nat}
    (hidle : s.pending (.reception k) = []) {d : Delivery}
    (hd : d ∈ deliveriesTo k events) {pdu : E2apPdu} (hpdu : pdu ∈ d.answers) :
    (.reception k, .encodeAndSendSctpData pdu) ∈ s.log := by
  have hsent : pdu ∈ sentBy (.reception k) s := by
    rw [sentBy_of_idle h hidle]
    exact List.mem_flatMap.mpr ⟨d, hd, hpdu⟩
  rcases List.mem_filterMap.mp hsent with ⟨c, hc, hpdu'⟩
  cases c with
  | encodeAndSendSctpData pdu' =>
      cases hpdu'
      exact mem_callsOf.mp hc
  | _ => cases hpdu'

theorem indicated_of_distinct (h : e2Term.session dispatch events = some s)
    (hdistinct : ((deliveries events).map Delivery.requestId).Nodup)
    {d : Delivery} (hd : d ∈ deliveries events) {id : Int}
    (hindicated : Indicated s.log d.requestId id) :
    ((d.indication.actionId.toNat : Nat) : Int) = id := by
  rcases hindicated with ⟨k, indication, hmem, hids, hid⟩
  rcases List.append_of_mem hmem with ⟨pre, post, hlog⟩
  rcases answer_of_log h hlog with ⟨d', hd', hanswer⟩
  rcases hanswer with heq | ⟨heq, _⟩
  · cases heq
  · have hindication := E2apPdu.indication.inj heq
    rw [hindication] at hids hid
    have hsame : d' = d :=
      List.inj_on_of_nodup_map hdistinct (mem_deliveries hd') hd hids
    rw [hsame] at hid
    exact hid

/-- When no loop has anything left to send, every admission has been honoured
exactly when every request ends with an action that has the id of all that it
gets admitted. -/
theorem admissions_honoured_iff (h : e2Term.session dispatch events = some s)
    (hidle : forall k, s.pending (.reception k) = [])
    (hdistinct : ((deliveries events).map Delivery.requestId).Nodup) :
    Honoured s.log <->
      forall d, d ∈ deliveries events -> ReportsEveryAdmitted d.request := by
  constructor
  · intro hhonoured d hd admitted hadmitted
    rcases mem_deliveries_iff.mp hd with ⟨k, hk⟩
    have hresponse : (.reception k,
        .encodeAndSendSctpData (.subscriptionResponse d.response)) ∈ s.log :=
      answers_in_log h (hidle k) hk List.mem_cons_self
    have haccepted : storedActionId admitted ∈ d.response.acceptArray := by
      unfold Delivery.response
      rw [processRicSubscriptionRequest_acceptArray]
      exact List.mem_map_of_mem hadmitted
    exact (actionId_eq_iff hadmitted).mp (indicated_of_distinct h hdistinct hd
      (hhonoured k d.response hresponse _ haccepted))
  · intro hall k response hmem id hid
    rcases List.append_of_mem hmem with ⟨pre, post, hlog⟩
    rcases answer_of_log h hlog with ⟨d, hd, hanswer⟩
    rcases hanswer with heq | ⟨heq, _⟩
    · cases E2apPdu.subscriptionResponse.inj heq
      unfold Delivery.response at hid
      rw [processRicSubscriptionRequest_acceptArray] at hid
      rcases List.mem_map.mp hid with ⟨admitted, hadmitted, rfl⟩
      have hindication : (.reception k,
          .encodeAndSendSctpData (.indication d.indication)) ∈ s.log :=
        answers_in_log h (hidle k) hd
          (List.mem_cons_of_mem _ List.mem_cons_self)
      exact ⟨k, d.indication, hindication, rfl, (actionId_eq_iff hadmitted).mpr
        (hall d (mem_deliveries hd) admitted hadmitted)⟩
    · cases heq

theorem idle_of_no_blocks (h : e2Term.session dispatch events = some s)
    {t : Thread} (hnone : blocksOf t (events.map e2Term.threadEvent) = []) :
    s.pending t = [] := by
  have hall := (progress_of_session h t).issued_append_pending
  rw [hnone] at hall
  exact (List.append_eq_nil_iff.mp hall).right

end

def twoElementsExample : List SessionEvent :=
  let report : Report := { header := [], message := [] }
  [.start 0, .registerKpmCallback 200 { buffer := [] },
    .issue (.reception 0), .issue .simulation, .issue .simulation,
    .receiveSubscription 0 200 twoReportElements report,
    .issue (.reception 0), .issue (.reception 0),
    .receiveSubscription 0 200 (reportRequest 8) report,
    .issue (.reception 0), .issue (.reception 0)]

theorem twoElementsExample_honoured_iff :
    exists s, exampleSession twoElementsExample = some s ∧
      (Honoured s.log <->
        forall d, d ∈ deliveries twoElementsExample ->
          ReportsEveryAdmitted d.request) := by
  have hruns : exists s,
      exampleSession twoElementsExample = some s ∧
        s.pending (.reception 0) = [] :=
    ⟨_, rfl, rfl⟩
  rcases hruns with ⟨s, hs, hzero⟩
  have hidle : forall k, s.pending (.reception k) = [] := by
    intro k
    cases k with
    | zero => exact hzero
    | succ k => exact idle_of_no_blocks hs rfl
  exact ⟨s, hs, admissions_honoured_iff hs hidle (by decide)⟩

end Termination
end OranE2
